import GameScript.Proofs.MovedState
import GameScript.Proofs.RelatedRuns

/-!
# Twin sessions

Two sessions are twins when a script cannot tell them apart: they agree on
everything a script or a host reads back, except that every identity of an
object in one is moved up by a fixed amount, and that the log of one numbers
its entries from a later arrival and may still keep a few entries from before
the other began.  The books that no request reads back (the host's trace, the
counts of statements, methods and built-in calls) are free.

An `Offset` fixes the three differences.  `Session.Twin` is the relation;
its lemmas say what each read of a session gives on twins.  `Sim.Alike` lifts
it to computations: from twin sessions, two computations end alike, both with
related answers or both with the same fault, in twin sessions again.  Its
rules, one per combinator the interpreter is written with, come first; then
the primitive steps of a session (log entries, stamping, random draws,
changes of one instance), each proved alike on twins.
-/

namespace GameScript

/-- How a session runs ahead of its twin. -/
structure Offset where
  /-- How far the identities of objects are moved up. -/
  ident : Nat
  /-- How far the arrival numbers of log entries are moved up. -/
  arrival : Nat
  /-- Log entries only the session ahead may still keep, from before its twin began. -/
  front : List (Nat × LogEntry)
  earlier : ∀ p ∈ front, p.1 < arrival

namespace LogRing

/--
A ring that keeps the entries of `q`, arrival numbers moved up by
`o.arrival`, after what it still keeps of the entries `o.front`.
-/
structure Follows (o : Offset) (r q : LogRing) : Prop where
  capacity : r.capacity = q.capacity
  arrived : r.arrived = q.arrived + o.arrival
  entries : ∃ j, r.entries = o.front.drop j ++ q.entries.map fun p => (p.1 + o.arrival, p.2)

variable {o : Offset} {r q : LogRing}

/--
Pushing an entry keeps a log following its twin: the ring ahead drops what is
left of its front first, then the same entries as its twin.
-/
theorem Follows.push (follows : r.Follows o q) (e : LogEntry) : (r.push e).Follows o (q.push e) := by
  obtain ⟨j, entries⟩ := follows.entries
  refine ⟨follows.capacity, by simp only [LogRing.push, follows.arrived]; omega, ?_⟩
  refine ⟨j + ((o.front.drop j).length + (q.entries.length + 1) - q.capacity), ?_⟩
  have whole : r.entries ++ [(r.arrived, e)] = o.front.drop j ++
      (q.entries ++ [(q.arrived, e)]).map fun p => (p.1 + o.arrival, p.2) := by
    simp only [entries, follows.arrived, List.map_append, List.map_cons, List.map_nil,
      List.append_assoc]
  show (r.entries ++ [(r.arrived, e)]).drop ((r.entries ++ [(r.arrived, e)]).length - r.capacity) =
    _ ++ ((q.entries ++ [(q.arrived, e)]).drop
      ((q.entries ++ [(q.arrived, e)]).length - q.capacity)).map _
  rw [whole, follows.capacity, List.drop_append, List.drop_drop, List.map_drop]
  simp only [List.length_append, List.length_map, List.length_cons, List.length_nil]
  congr 2
  omega

theorem Follows.clear (follows : r.Follows o q) : r.clear.Follows o q.clear :=
  ⟨follows.capacity, follows.arrived, ⟨o.front.length, by simp [LogRing.clear]⟩⟩

/-- Reading what arrived since a mark, moved by the offset, reads the twin's entries since the mark. -/
theorem Follows.since (follows : r.Follows o q) (mark : Nat) :
    r.since (mark + o.arrival) = q.since mark := by
  obtain ⟨j, entries⟩ := follows.entries
  have older : (o.front.drop j).filter (fun p => decide (p.1 ≥ mark + o.arrival)) = [] := by
    refine List.filter_eq_nil_iff.2 fun p member => ?_
    have := o.earlier p (List.mem_of_mem_drop member)
    simp only [decide_eq_true_eq]
    omega
  simp only [LogRing.since, entries, List.filter_append, older, List.nil_append, List.filter_map,
    List.map_map]
  congr 1
  refine List.filter_congr fun p _ => ?_
  simp only [Function.comp, decide_eq_decide]
  omega

/-- The kept entries of a ring ahead: what is left of the front, then its twin's. -/
theorem Follows.view (follows : r.Follows o q) (level : Option LogLevel) :
    ∃ j, r.view level =
      ((o.front.drop j).map (·.2)).filter (fun e => level.all (· == e.level)) ++ q.view level := by
  obtain ⟨j, entries⟩ := follows.entries
  refine ⟨j, ?_⟩
  simp only [LogRing.view, entries, List.map_append, List.filter_append, List.map_map]
  rfl

end LogRing

namespace Session

/--
Sessions that no script can tell apart: `s` is `t` with every identity moved
up by `o.ident` and its log following `t`'s; both logs keep the configured
number of entries, and `t` has handed out no identity 0.
-/
structure Twin (o : Offset) (s t : Session) : Prop where
  settings : s.settings = t.settings
  platform : s.platform = t.platform
  random : s.random = t.random
  log : s.log.Follows o t.log
  capacity : t.log.capacity = t.settings.maxLogEntries
  store : s.store = t.store.map (Component.shift o.ident)
  registry : s.registry = t.registry
  world : s.world = t.world.shift o.ident
  events : s.events = t.events
  scheduler : s.scheduler = t.scheduler.shift o.ident
  time : s.time = t.time
  ticks : s.ticks = t.ticks
  inTick : s.inTick = t.inTick
  pendingEntities : s.pendingEntities = t.pendingEntities
  pendingComponents : s.pendingComponents = t.pendingComponents
  destroying : s.destroying = t.destroying
  callStack : s.callStack = t.callStack
  nextIdent : s.nextIdent = t.nextIdent + o.ident
  counting : 0 < t.nextIdent

namespace Twin

variable {o : Offset} {s t : Session}

/-- The instance with a serial number, moved. -/
theorem component (twin : s.Twin o t) (serial : Nat) :
    s.component serial = (t.component serial).shift o.ident := by
  unfold Session.component
  rw [twin.store]
  have moved : (t.store.map (Component.shift o.ident)).getD serial ((default : Component).shift o.ident) =
      (t.store.getD serial default).shift o.ident := Heap.getD_map t.store serial default
  rwa [Component.shift_default] at moved

theorem lookup? (twin : s.Twin o t) (name : String) : s.lookup? name = t.lookup? name := by
  unfold Session.lookup?
  rw [twin.registry]

theorem activeSerials (twin : s.Twin o t) : s.activeSerials = t.activeSerials := by
  unfold Session.activeSerials
  simp only [twin.registry, twin.component, Component.shift_active]

theorem currentEntity? (twin : s.Twin o t) :
    s.currentEntity? = t.currentEntity?.map (Entity.shift o.ident) := by
  unfold Session.currentEntity?
  rw [twin.callStack, twin.world]
  cases t.callStack.head? with
  | none => rfl
  | some serial => exact World.driving?_shift _ serial

theorem entityName (twin : s.Twin o t) : s.entityName = t.entityName := by
  funext id
  unfold Session.entityName
  rw [twin.world, World.find?_shift, Option.map_map]
  rfl

/--
Writing a map of the world: moved entries within moved holders read as the old
ones. It is stated for any keying function, so that no pattern-matching
function is elaborated here.
-/
theorem namedMapText_shift {d : Nat} {moved plain : EntityText} (agree : TextsAgree d moved plain)
    (opened : List Holder) {holder : Holder} (fixed : holder.shift d = holder)
    (entries : List (String × Value)) :
    namedMapText moved (opened.map (Holder.shift d)) holder (shiftNamed d entries) =
      namedMapText plain opened holder entries := by
  have keyed : ∀ key : String × Value → Value × Value, (∀ p, key p = (Value.str p.1, p.2)) →
      (shiftNamed d entries).map key = Value.shiftEntries d (entries.map key) := by
    intro key keyOf
    simp only [shiftNamed, Value.shiftEntries_eq_map, List.map_map]
    refine List.map_congr_left fun entry _ => ?_
    simp only [Function.comp, keyOf]
    rfl
  have empty : (shiftNamed d entries).isEmpty = entries.isEmpty := by
    simp only [shiftNamed, List.isEmpty_map]
  have contains : (opened.map (Holder.shift d)).contains holder = opened.contains holder := by
    have moved := Holder.contains_shift d opened holder
    rwa [fixed] at moved
  unfold namedMapText
  rw [empty, contains, keyed _ fun _ => rfl,
    show holder :: opened.map (Holder.shift d) = (holder :: opened).map (Holder.shift d) by
      rw [List.map_cons, fixed],
    Value.reprEntries_shift agree]

/-- Records of entities read alike in twins, within moved holders, at every depth. -/
theorem entityRecord (twin : s.Twin o t) (fuel : Nat) :
    ∀ opened id, s.entityRecord fuel (opened.map (Holder.shift o.ident)) id = t.entityRecord fuel opened id := by
  induction fuel with
  | zero => intro opened id; rfl
  | succ fuel deeper =>
    intro opened id
    have agree : TextsAgree o.ident ⟨s.entityName, s.entityRecord fuel⟩ ⟨t.entityName, t.entityRecord fuel⟩ :=
      ⟨twin.entityName, deeper⟩
    rw [Session.entityRecord, Session.entityRecord, twin.world, World.find?_shift]
    cases t.world.find? id with
    | none => rfl
    | some e =>
      simp only [Option.map_some, Entity.shift_id, Entity.shift_kind, Entity.shift_name,
        Entity.shift_component, Entity.shift_active, Entity.shift_lifespan, Entity.shift_position,
        Entity.shift_properties, Vec2.repr_shift]
      rw [namedMapText_shift agree opened rfl]
      cases e.component with
      | none => rfl
      | some serial =>
        simp only [twin.component, Component.shift_fields, Component.shift_name,
          Component.shift_active]
        rw [namedMapText_shift agree opened rfl]
        rfl

theorem textsAgree (twin : s.Twin o t) : TextsAgree o.ident s.entityText t.entityText := by
  refine ⟨twin.entityName, fun opened id => ?_⟩
  simp only [Session.entityText, twin.world, twin.store, World.shift_entities, List.length_map,
    Array.size_map]
  exact twin.entityRecord _ opened id

/-- A moved value reads in one twin as the old value in the other. -/
theorem format (twin : s.Twin o t) (v : Value) : s.format (v.shift o.ident) = t.format v :=
  Value.format_shift twin.textsAgree v

/-- Changing one instance in both twins by changes that commute with moving identities. -/
theorem modifyComponent (twin : s.Twin o t) (serial : Nat) {f g : Component → Component}
    (commutes : ∀ c, f (c.shift o.ident) = (g c).shift o.ident) :
    (s.modifyComponent serial f).Twin o (t.modifyComponent serial g) := by
  refine { twin with store := ?_ }
  show s.store.modify serial f = (t.store.modify serial g).map (Component.shift o.ident)
  rw [twin.store]
  refine Array.ext_getElem? fun i => ?_
  simp only [Array.getElem?_modify, Array.getElem?_map]
  split
  · cases t.store[i]? with
    | none => rfl
    | some c => exact congrArg some (commutes c)
  · rfl

end Twin

end Session

namespace Sim

variable {α β γ δ : Type} {o : Offset}

/-- Two ends of runs alike: answers related by `R`, or one same fault, in twin sessions. -/
def EndsAlike (o : Offset) (R : α → β → Prop) :
    EStateM.Result Fault Session α → EStateM.Result Fault Session β → Prop
  | .ok a s, .ok b t => R a b ∧ s.Twin o t
  | .error e s, .error e' t => e = e' ∧ s.Twin o t
  | _, _ => False

/-- From twin sessions, `x` and `y` end alike, their answers related by `R`. -/
def Alike (o : Offset) (R : α → β → Prop) (x : Sim α) (y : Sim β) : Prop :=
  ∀ s t, s.Twin o t → EndsAlike o R (x.run s) (y.run t)

/-- Ends alike are ends related by the twin relation. -/
theorem endsAlike_iff {R : α → β → Prop} (u : EStateM.Result Fault Session α)
    (v : EStateM.Result Fault Session β) : EndsAlike o R u v ↔ EndsRelated (Session.Twin o) R u v := by
  cases u <;> cases v <;> exact Iff.rfl

theorem Alike.related {R : α → β → Prop} {x : Sim α} {y : Sim β} (alike : Alike o R x y) :
    Related (Session.Twin o) R x y :=
  fun s t twin => (endsAlike_iff _ _).1 (alike s t twin)

theorem Related.alike {R : α → β → Prop} {x : Sim α} {y : Sim β} (related : Related (Session.Twin o) R x y) :
    Alike o R x y :=
  fun s t twin => (endsAlike_iff _ _).2 (related s t twin)

section Rules

variable {R : α → β → Prop} {S : γ → δ → Prop}

theorem EndsAlike.ok {a : α} {b : β} {s t : Session} (related : R a b) (twin : s.Twin o t) :
    EndsAlike o R (.ok a s) (.ok b t) :=
  ⟨related, twin⟩

theorem EndsAlike.error (fault : Fault) {s t : Session} (twin : s.Twin o t) :
    EndsAlike o R (.error fault s : EStateM.Result Fault Session α) (.error fault t) :=
  ⟨rfl, twin⟩

theorem Alike.pure {a : α} {b : β} (related : R a b) : Alike o R (pure a) (pure b) :=
  fun _ _ twin => EndsAlike.ok related twin

/-- An answer and its moved copy. -/
theorem Alike.pure_moved (mv : β → α) (b : β) :
    Alike o (fun a b => a = mv b) (Pure.pure (mv b)) (Pure.pure b) :=
  Alike.pure rfl

theorem Alike.throw (fault : Fault) : Alike o R (throw fault : Sim α) (throw fault : Sim β) :=
  fun _ _ twin => EndsAlike.error fault twin

theorem Alike.bind {x : Sim α} {y : Sim β} {f : α → Sim γ} {g : β → Sim δ}
    (first : Alike o R x y) (rest : ∀ a b, R a b → Alike o S (f a) (g b)) :
    Alike o S (x >>= f) (y >>= g) :=
  (first.related.bind fun a b related => (rest a b related).related).alike

/-- A failure ends both runs there, whatever was to follow. -/
theorem Alike.throw_bind (fault : Fault) {f : γ → Sim α} {g : δ → Sim β} :
    Alike o R (MonadExcept.throw fault >>= f) (MonadExcept.throw fault >>= g) :=
  (Alike.throw fault : Alike o (fun (_ : γ) (_ : δ) => False) _ _).bind fun _ _ never => never.elim

/-- Binding computations that answer alike. -/
theorem Alike.bind_same {x y : Sim α} {f : α → Sim γ} {g : α → Sim δ} (first : Alike o Eq x y)
    (rest : ∀ a, Alike o S (f a) (g a)) : Alike o S (x >>= f) (y >>= g) :=
  first.bind fun a b same => by
    subst same
    exact rest a

/-- Binding computations whose answers are moved by `mv`. -/
theorem Alike.bind_moved {mv : β → α} {x : Sim α} {y : Sim β} {f : α → Sim γ} {g : β → Sim δ}
    (first : Alike o (fun a b => a = mv b) x y) (rest : ∀ b, Alike o S (f (mv b)) (g b)) :
    Alike o S (x >>= f) (y >>= g) :=
  first.bind fun a b moved => by
    subst moved
    exact rest b

theorem Alike.map {x : Sim α} {y : Sim β} {f : α → γ} {g : β → δ} (first : Alike o R x y)
    (related : ∀ a b, R a b → S (f a) (g b)) : Alike o S (f <$> x) (g <$> y) :=
  (first.related.map related).alike

theorem Alike.discard {x : Sim α} {y : Sim β} (first : Alike o R x y) :
    Alike o Eq (discard x) (discard y) :=
  first.map fun _ _ _ => rfl

/-- A handler alike for every fault makes the caught runs alike. -/
theorem Alike.tryCatch {x : Sim α} {y : Sim β} {h : Fault → Sim α} {k : Fault → Sim β}
    (body : Alike o R x y) (handler : ∀ fault, Alike o R (h fault) (k fault)) :
    Alike o R (tryCatch x h) (tryCatch y k) :=
  (body.related.tryCatch fun fault => (handler fault).related).alike

/-- Finalizers alike run after bodies alike, on both outcomes. -/
theorem Alike.tryFinally {T : γ → δ → Prop} {x : Sim α} {y : Sim β} {u : Sim γ} {v : Sim δ}
    (body : Alike o R x y) (final : Alike o T u v) : Alike o R (tryFinally x u) (tryFinally y v) :=
  (body.related.tryFinally final.related).alike

/-- One choice made alike in both twins. -/
theorem Alike.ite (c : Prop) [Decidable c] {x y : Sim α} {x' y' : Sim β} (yes : c → Alike o R x x')
    (no : ¬c → Alike o R y y') : Alike o R (if c then x else y) (if c then x' else y') := by
  by_cases holds : c
  · rw [if_pos holds, if_pos holds]
    exact yes holds
  · rw [if_neg holds, if_neg holds]
    exact no holds

/-- Reading twin sessions, then going on alike from what each read. -/
theorem Alike.get_bind {f : Session → Sim α} {g : Session → Sim β}
    (rest : ∀ s t, s.Twin o t → Alike o R (f s) (g t)) : Alike o R (get >>= f) (get >>= g) :=
  fun s t twin => rest s t twin s t twin

theorem Alike.modify {f g : Session → Session} (kept : ∀ s t, s.Twin o t → (f s).Twin o (g t)) :
    Alike o Eq (modify f) (modify g) :=
  fun s t twin => EndsAlike.ok rfl (kept s t twin)

theorem Alike.set {s' t' : Session} (twin : s'.Twin o t') : Alike o Eq (set s' : Sim PUnit) (set t') :=
  fun _ _ _ => EndsAlike.ok rfl twin

/-- A computation outside the session whose answer is moved. -/
theorem Alike.ofExcept_map (mv : β → α) (x : Except Fault β) :
    Alike o (fun a b => a = mv b) (ofExcept (mv <$> x)) (ofExcept x) := by
  intro s t twin
  cases x with
  | error fault => exact EndsAlike.error fault twin
  | ok b => exact EndsAlike.ok rfl twin

theorem Alike.ofExcept (x : Except Fault α) : Alike o Eq (ofExcept x) (ofExcept x) := by
  intro s t twin
  cases x with
  | error fault => exact EndsAlike.error fault twin
  | ok a => exact EndsAlike.ok rfl twin

/-- A loop over a list and its moved copy, rounds alike. -/
theorem Alike.forIn {mv : β → α} {xs : List β} {init : γ} {body : α → γ → Sim (ForInStep γ)}
    {body' : β → γ → Sim (ForInStep γ)} (round : ∀ x b, Alike o Eq (body (mv x) b) (body' x b)) :
    Alike o Eq (forIn (xs.map mv) init body) (forIn xs init body') := by
  refine (Related.forIn rfl fun x b b' same => ?_).alike
  subst same
  exact (round x b).related.weaken fun step step' same => by
    subst same
    cases step <;> rfl

/-- Mapping over a list and its moved copy, each step answering alike. -/
theorem Alike.mapM_same {mv : β → α} {xs : List β} {f : α → Sim γ} {g : β → Sim γ}
    (each : ∀ x, Alike o Eq (f (mv x)) (g x)) : Alike o Eq ((xs.map mv).mapM f) (xs.mapM g) := by
  induction xs with
  | nil => exact Alike.pure rfl
  | cons x xs more =>
    rw [List.map_cons, List.mapM_cons, List.mapM_cons]
    exact (each x).bind_same fun b => more.bind_same fun bs => Alike.pure rfl

/-- Mapping over a list and its moved copy, each step's answer moved. -/
theorem Alike.mapM {mv : β → α} {mv' : δ → γ} {xs : List β} {f : α → Sim γ} {g : β → Sim δ}
    (each : ∀ x, Alike o (fun a b => a = mv' b) (f (mv x)) (g x)) :
    Alike o (fun as bs => as = bs.map mv') ((xs.map mv).mapM f) (xs.mapM g) := by
  induction xs with
  | nil => exact Alike.pure rfl
  | cons x xs more =>
    rw [List.map_cons, List.mapM_cons, List.mapM_cons]
    exact (each x).bind_moved fun b => more.bind_moved fun bs => Alike.pure rfl

end Rules

/-! ## Primitive steps -/

section Steps

/-- Answers of a computation and its twin: the first is the second with identities moved. -/
abbrev Moved (o : Offset) (a b : Value) : Prop := a = b.shift o.ident

theorem log_alike (level : LogLevel) (message : String) (entity : Option Nat) :
    Alike o Eq (log level message entity) (log level message entity) := by
  refine Alike.modify fun s t twin => ?_
  have filed : (entity.orElse fun _ => s.currentEntity?.map (·.id)) =
      entity.orElse fun _ => t.currentEntity?.map (·.id) := by
    rw [twin.currentEntity?, Option.map_map]
    rfl
  exact { twin with log := by rw [filed]; exact twin.log.push _ }

theorem note_alike (level : LogLevel) (channel message : String) :
    Alike o Eq (note level channel message) (note level channel message) :=
  Alike.modify fun _ _ twin => { twin with }

theorem countUse_alike (name : String) : Alike o Eq (countUse name) (countUse name) := by
  refine Alike.modify fun s t twin => ?_
  split <;> split <;> exact { twin with }

theorem component_alike (serial : Nat) :
    Alike o (fun a b => a = b.shift o.ident) (component serial) (component serial) :=
  fun _ _ twin => EndsAlike.ok (twin.component serial) twin

/-- Changing one instance in both twins by changes that commute with moving identities. -/
theorem modifyComponent_alike (serial : Nat) {f g : Component → Component}
    (commutes : ∀ c, f (c.shift o.ident) = (g c).shift o.ident) :
    Alike o Eq (modifyComponent serial f) (modifyComponent serial g) :=
  Alike.modify fun _ _ twin => twin.modifyComponent serial commutes

theorem share_run (v : Value) (s : Session) :
    (share v).run s = .ok (v.stamp s.nextIdent).1 { s with nextIdent := (v.stamp s.nextIdent).2 } :=
  rfl

theorem shareVec2_run (v : Vec2) (s : Session) :
    (shareVec2 v).run s = .ok (v.stamp s.nextIdent).1 { s with nextIdent := (v.stamp s.nextIdent).2 } :=
  rfl

/-- Stamping a moved value in one twin hands out the moved identities of the other. -/
theorem share_alike (v : Value) : Alike o (Moved o) (share (v.shift o.ident)) (share v) := by
  intro s t twin
  rw [share_run, share_run, twin.nextIdent, Value.stamp_shift twin.counting]
  exact EndsAlike.ok rfl
    { twin with nextIdent := rfl, counting := Nat.lt_of_lt_of_le twin.counting (Value.le_stamp _ v) }

theorem shareVec2_alike (v : Vec2) :
    Alike o (fun a b => a = b.shift o.ident) (shareVec2 (v.shift o.ident)) (shareVec2 v) := by
  intro s t twin
  have grows : t.nextIdent ≤ (v.stamp t.nextIdent).2 := by
    have step : ∀ i n, n ≤ (stampIdent i n).2 := by
      intro i n
      unfold stampIdent
      split <;> simp
    exact Nat.le_trans (step v.xIdent _) (step v.yIdent _)
  rw [shareVec2_run, shareVec2_run, twin.nextIdent, Vec2.stamp_shift twin.counting]
  exact EndsAlike.ok rfl
    { twin with nextIdent := rfl, counting := Nat.lt_of_lt_of_le twin.counting grows }

theorem uniform_alike : Alike o Eq uniform uniform := by
  intro s t twin
  change EndsAlike o Eq (.ok s.random.uniform.1 { s with random := s.random.uniform.2 })
    (.ok t.random.uniform.1 { t with random := t.random.uniform.2 })
  rw [twin.random]
  exact EndsAlike.ok rfl { twin with random := rfl }

end Steps

end Sim

end GameScript

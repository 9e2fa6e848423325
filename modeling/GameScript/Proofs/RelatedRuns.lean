import GameScript.Session.Run

/-!
# Runs from related sessions

Two computations on sessions run in step when, started from sessions related
by a relation `Rel`, they end alike: both with answers related by `R`, or both
with one same fault, and in sessions related by `Rel` again.  The rules below
say this of every combinator the interpreter is written with, whatever the
relation; a relation between sessions then only needs its own primitive steps
(reading a field, writing one) proved to keep it.

The built-in functions that run no script read a session through a few views
(the settings, the world, the texts of entities, the call stack, the clocks,
the event bus and the instances' names) and change it in three ways only
(moving or restyling entities, the scheduler's queue, the subscriptions).  A
relation whose related sessions agree on those views and which those changes
keep is `Sim.Faithful`; every such built-in then runs alike on related sessions
(`Builtin.leaf_related`).
-/

namespace GameScript

namespace Sim

variable {α β γ δ : Type} {Rel : Session → Session → Prop}

/-- Two ends of runs alike: answers related by `R`, or one same fault, in sessions related by `Rel`. -/
def EndsRelated (Rel : Session → Session → Prop) (R : α → β → Prop) :
    EStateM.Result Fault Session α → EStateM.Result Fault Session β → Prop
  | .ok a s, .ok b t => R a b ∧ Rel s t
  | .error e s, .error e' t => e = e' ∧ Rel s t
  | _, _ => False

/-- Steps of two loops alike: both stop or both go on, their states related by `S`. -/
def StepsRelated (S : α → β → Prop) : ForInStep α → ForInStep β → Prop
  | .done a, .done b => S a b
  | .yield a, .yield b => S a b
  | _, _ => False

/-- From sessions related by `Rel`, `x` and `y` end alike, their answers related by `R`. -/
def Related (Rel : Session → Session → Prop) (R : α → β → Prop) (x : Sim α) (y : Sim β) : Prop :=
  ∀ s t, Rel s t → EndsRelated Rel R (x.run s) (y.run t)

section Rules

variable {R : α → β → Prop} {S : γ → δ → Prop}

theorem EndsRelated.ok {a : α} {b : β} {s t : Session} (related : R a b) (kept : Rel s t) :
    EndsRelated Rel R (.ok a s) (.ok b t) :=
  ⟨related, kept⟩

theorem EndsRelated.error (fault : Fault) {s t : Session} (kept : Rel s t) :
    EndsRelated Rel R (.error fault s : EStateM.Result Fault Session α) (.error fault t) :=
  ⟨rfl, kept⟩

/--
What follows two ends related: to show a property of the two runs continued,
show it of the failures, and of the continuations from related answers in
related sessions.
-/
theorem EndsRelated.run_bind {Q : EStateM.Result Fault Session γ → EStateM.Result Fault Session δ → Prop}
    {x : Sim α} {y : Sim β} {f : α → Sim γ} {g : β → Sim δ} {s t : Session}
    (ends : EndsRelated Rel R (x.run s) (y.run t))
    (failed : ∀ e s' t', Rel s' t' → Q (.error e s') (.error e t'))
    (went : ∀ a b s' t', R a b → Rel s' t' → Q ((f a).run s') ((g b).run t')) :
    Q ((x >>= f).run s) ((y >>= g).run t) := by
  rw [EStateM.run_bind, EStateM.run_bind]
  generalize x.run s = u at ends ⊢
  generalize y.run t = v at ends ⊢
  cases u with
  | ok a s' =>
    cases v with
    | ok b t' => exact went a b s' t' ends.1 ends.2
    | error => exact ends.elim
  | error e s' =>
    cases v with
    | ok => exact ends.elim
    | error e' t' =>
      obtain ⟨rfl, kept⟩ := ends
      exact failed e s' t' kept

theorem Related.pure {a : α} {b : β} (related : R a b) : Related Rel R (pure a) (pure b) :=
  fun _ _ kept => EndsRelated.ok related kept

theorem Related.throw (fault : Fault) : Related Rel R (throw fault : Sim α) (throw fault : Sim β) :=
  fun _ _ kept => EndsRelated.error fault kept

theorem Related.bind {x : Sim α} {y : Sim β} {f : α → Sim γ} {g : β → Sim δ}
    (first : Related Rel R x y) (rest : ∀ a b, R a b → Related Rel S (f a) (g b)) :
    Related Rel S (x >>= f) (y >>= g) := fun s t kept =>
  (first s t kept).run_bind (fun e _ _ kept => EndsRelated.error e kept)
    fun a b s' t' related kept => rest a b related s' t' kept

/-- A failure ends both runs there, whatever was to follow. -/
theorem Related.throw_bind (fault : Fault) {f : γ → Sim α} {g : δ → Sim β} :
    Related Rel R (MonadExcept.throw fault >>= f) (MonadExcept.throw fault >>= g) :=
  (Related.throw fault : Related Rel (fun (_ : γ) (_ : δ) => False) _ _).bind fun _ _ never => never.elim

/-- Binding computations that answer alike. -/
theorem Related.bind_same {x y : Sim α} {f : α → Sim γ} {g : α → Sim δ} (first : Related Rel Eq x y)
    (rest : ∀ a, Related Rel S (f a) (g a)) : Related Rel S (x >>= f) (y >>= g) :=
  first.bind fun a b same => by
    subst same
    exact rest a

/-- Runs from two given sessions, continued by steps related from every pair of sessions. -/
theorem EndsRelated.bind_same {x y : Sim α} {f : α → Sim γ} {g : α → Sim δ} {s t : Session}
    (first : EndsRelated Rel Eq (x.run s) (y.run t)) (rest : ∀ a, Related Rel S (f a) (g a)) :
    EndsRelated Rel S ((x >>= f).run s) ((y >>= g).run t) :=
  first.run_bind (fun e _ _ kept => EndsRelated.error e kept) fun a _ s' t' same kept => by
    subst same
    exact rest a s' t' kept

theorem Related.map {x : Sim α} {y : Sim β} {f : α → γ} {g : β → δ} (first : Related Rel R x y)
    (related : ∀ a b, R a b → S (f a) (g b)) : Related Rel S (f <$> x) (g <$> y) := by
  intro s t kept
  have ends : EndsRelated Rel R (x s) (y t) := first s t kept
  change EndsRelated Rel S (EStateM.map f x s) (EStateM.map g y t)
  unfold EStateM.map
  generalize x s = u at ends ⊢
  generalize y t = v at ends ⊢
  cases u with
  | ok a s' =>
    cases v with
    | ok b t' => exact EndsRelated.ok (related a b ends.1) ends.2
    | error => exact ends.elim
  | error e s' =>
    cases v with
    | ok => exact ends.elim
    | error e' t' => exact ends

/-- Weakening the relation between answers. -/
theorem Related.weaken {R' : α → β → Prop} {x : Sim α} {y : Sim β} (related : Related Rel R x y)
    (implies : ∀ a b, R a b → R' a b) : Related Rel R' x y := by
  intro s t kept
  have ends := related s t kept
  generalize x.run s = u at ends ⊢
  generalize y.run t = v at ends ⊢
  cases u with
  | ok a s' =>
    cases v with
    | ok b t' => exact EndsRelated.ok (implies a b ends.1) ends.2
    | error => exact ends.elim
  | error e s' =>
    cases v with
    | ok => exact ends.elim
    | error e' t' => exact ends

theorem Related.discard {x : Sim α} {y : Sim β} (first : Related Rel R x y) :
    Related Rel Eq (discard x) (discard y) :=
  first.map fun _ _ _ => rfl

/-- A handler related for every fault makes the caught runs related. -/
theorem Related.tryCatch {x : Sim α} {y : Sim β} {h : Fault → Sim α} {k : Fault → Sim β}
    (body : Related Rel R x y) (handler : ∀ fault, Related Rel R (h fault) (k fault)) :
    Related Rel R (tryCatch x h) (tryCatch y k) := by
  intro s t kept
  have ends : EndsRelated Rel R (x s) (y t) := body s t kept
  change EndsRelated Rel R (EStateM.tryCatch x h s) (EStateM.tryCatch y k t)
  unfold EStateM.tryCatch
  generalize x s = u at ends ⊢
  generalize y t = v at ends ⊢
  cases u with
  | ok a s' =>
    cases v with
    | ok b t' => exact ends
    | error => exact ends.elim
  | error e s' =>
    cases v with
    | ok => exact ends.elim
    | error e' t' =>
      obtain ⟨rfl, kept'⟩ := ends
      exact handler e s' t' kept'

/-- Finalizers related run after bodies related, on both outcomes. -/
theorem Related.tryFinally {T : γ → δ → Prop} {x : Sim α} {y : Sim β} {u : Sim γ} {v : Sim δ}
    (body : Related Rel R x y) (final : Related Rel T u v) :
    Related Rel R (tryFinally x u) (tryFinally y v) := by
  intro s t kept
  have ends : EndsRelated Rel R (x s) (y t) := body s t kept
  change EndsRelated Rel R (EStateM.map Prod.fst (tryFinally' x fun _ => u) s)
    (EStateM.map Prod.fst (tryFinally' y fun _ => v) t)
  unfold EStateM.map
  simp only [tryFinally']
  generalize x s = p at ends ⊢
  generalize y t = q at ends ⊢
  cases p with
  | ok a s' =>
    cases q with
    | ok b t' =>
      have finished : EndsRelated Rel T (u s') (v t') := final s' t' ends.2
      dsimp only
      generalize u s' = p' at finished ⊢
      generalize v t' = q' at finished ⊢
      cases p' with
      | ok => cases q' with
        | ok => exact EndsRelated.ok ends.1 finished.2
        | error => exact finished.elim
      | error => cases q' with
        | ok => exact finished.elim
        | error => exact finished
    | error => exact ends.elim
  | error e s' =>
    cases q with
    | ok => exact ends.elim
    | error e' t' =>
      obtain ⟨rfl, kept'⟩ := ends
      have finished : EndsRelated Rel T (u s') (v t') := final s' t' kept'
      dsimp only
      generalize u s' = p' at finished ⊢
      generalize v t' = q' at finished ⊢
      cases p' with
      | ok => cases q' with
        | ok => exact EndsRelated.error e finished.2
        | error => exact finished.elim
      | error => cases q' with
        | ok => exact finished.elim
        | error => exact finished

/-- One choice made alike on both sides. -/
theorem Related.ite (c : Prop) [Decidable c] {x y : Sim α} {x' y' : Sim β}
    (yes : c → Related Rel R x x') (no : ¬c → Related Rel R y y') :
    Related Rel R (if c then x else y) (if c then x' else y') := by
  by_cases holds : c
  · rw [if_pos holds, if_pos holds]
    exact yes holds
  · rw [if_neg holds, if_neg holds]
    exact no holds

/-- Reading related sessions, then going on alike from what each read. -/
theorem Related.get_bind {f : Session → Sim α} {g : Session → Sim β}
    (rest : ∀ s t, Rel s t → Related Rel R (f s) (g t)) : Related Rel R (get >>= f) (get >>= g) :=
  fun s t kept => rest s t kept s t kept

/-- Runs from two given sessions that begin by reading them. -/
theorem EndsRelated.get_bind {f : Session → Sim α} {g : Session → Sim β} {s t : Session}
    (rest : EndsRelated Rel R ((f s).run s) ((g t).run t)) :
    EndsRelated Rel R ((get >>= f).run s) ((get >>= g).run t) :=
  rest

theorem Related.modify {f g : Session → Session} (step : ∀ s t, Rel s t → Rel (f s) (g t)) :
    Related Rel Eq (modify f) (modify g) :=
  fun s t kept => EndsRelated.ok rfl (step s t kept)

theorem Related.set {s' t' : Session} (kept : Rel s' t') : Related Rel Eq (set s' : Sim PUnit) (set t') :=
  fun _ _ _ => EndsRelated.ok rfl kept

/-- A computation outside the session, the same on both sides. -/
theorem Related.ofExcept (x : Except Fault α) : Related Rel Eq (ofExcept x) (ofExcept x) := by
  intro s t kept
  cases x with
  | error fault => exact EndsRelated.error fault kept
  | ok a => exact EndsRelated.ok rfl kept

/-- A loop over a list and over its changed copy, each round keeping the states related. -/
theorem Related.forIn {ι ι' : Type} {mv : ι' → ι} {S : γ → δ → Prop} {xs : List ι'} {init : γ} {init' : δ}
    {body : ι → γ → Sim (ForInStep γ)} {body' : ι' → δ → Sim (ForInStep δ)} (start : S init init')
    (round : ∀ x b b', S b b' → Related Rel (StepsRelated S) (body (mv x) b) (body' x b')) :
    Related Rel S (forIn (xs.map mv) init body) (forIn xs init' body') := by
  induction xs generalizing init init' with
  | nil => exact Related.pure start
  | cons x xs more =>
    rw [List.map_cons, List.forIn_cons, List.forIn_cons]
    refine (round x init init' start).bind fun step step' related => ?_
    cases step with
    | done b =>
      cases step' with
      | done b' => exact Related.pure related
      | yield => exact related.elim
    | yield b =>
      cases step' with
      | done => exact related.elim
      | yield b' => exact more related

/-- A loop over one list, each round keeping the states related. -/
theorem Related.forIn_same {ι : Type} {S : γ → δ → Prop} {xs : List ι} {init : γ} {init' : δ}
    {body : ι → γ → Sim (ForInStep γ)} {body' : ι → δ → Sim (ForInStep δ)} (start : S init init')
    (round : ∀ x b b', S b b' → Related Rel (StepsRelated S) (body x b) (body' x b')) :
    Related Rel S (ForIn.forIn xs init body) (ForIn.forIn xs init' body') := by
  have loop : Related Rel S (ForIn.forIn (xs.map id) init body) (ForIn.forIn xs init' body') :=
    Related.forIn start round
  rwa [List.map_id] at loop

/-- Mapping over one list, each step answering alike. -/
theorem Related.mapM_same {xs : List γ} {f g : γ → Sim α} (each : ∀ x, Related Rel Eq (f x) (g x)) :
    Related Rel Eq (xs.mapM f) (xs.mapM g) := by
  induction xs with
  | nil => exact Related.pure rfl
  | cons x xs more =>
    rw [List.mapM_cons, List.mapM_cons]
    exact (each x).bind_same fun b => more.bind_same fun bs => Related.pure rfl

end Rules

/-- A loop whose rounds never stop it early runs over two lists joined as over one and then the other. -/
theorem forIn_append_of_yields {xs ys : List γ} {init : δ} {body : γ → δ → Sim (ForInStep δ)}
    (yields : ∀ x b s step s', (body x b).run s = .ok step s' → ∃ b', step = .yield b') :
    forIn (xs ++ ys) init body = forIn xs init body >>= fun b => forIn ys b body := by
  induction xs generalizing init with
  | nil => rw [List.nil_append, List.forIn_nil, pure_bind]
  | cons x xs more =>
    rw [List.cons_append, List.forIn_cons, List.forIn_cons, bind_assoc]
    funext s
    show (body x init >>= _).run s = (body x init >>= _).run s
    rw [EStateM.run_bind, EStateM.run_bind]
    cases round : (body x init).run s with
    | ok step s' =>
      obtain ⟨b, rfl⟩ := yields x init s step s' round
      exact congrArg (EStateM.run · s') more
    | error => rfl

end Sim

/-! ## The built-ins that run no script -/

namespace Session

/-- Two sessions that the built-ins that run no script read alike. -/
structure ReadsAlike (s t : Session) : Prop where
  settings : s.settings = t.settings
  platform : s.platform = t.platform
  world : s.world = t.world
  entityText : s.entityText = t.entityText
  callStack : s.callStack = t.callStack
  time : s.time = t.time
  scheduler : s.scheduler = t.scheduler
  events : s.events = t.events
  names : ∀ serial, (s.component serial).name = (t.component serial).name

namespace ReadsAlike

variable {s t : Session} (alike : s.ReadsAlike t)
include alike

theorem format : s.format = t.format := by
  funext v
  unfold Session.format
  rw [alike.entityText]

theorem currentEntity? : s.currentEntity? = t.currentEntity? := by
  unfold Session.currentEntity?
  rw [alike.callStack, alike.world]

theorem vectorView : Builtin.vectorView s = Builtin.vectorView t := by
  funext v
  cases v <;> simp only [Builtin.vectorView, alike.world, alike.format, alike.platform]

theorem vectorOfArgs : Builtin.vectorOfArgs s = Builtin.vectorOfArgs t := by
  funext args
  rcases args with _ | ⟨v, _ | ⟨y, _⟩⟩
  · rfl
  · exact congrFun alike.vectorView v
  · simp only [Builtin.vectorOfArgs, alike.platform]

theorem activeEntity : Builtin.entityArg.activeEntity s = Builtin.entityArg.activeEntity t := by
  funext n
  unfold Builtin.entityArg.activeEntity
  rw [alike.world]

theorem entityArg : Builtin.entityArg s = Builtin.entityArg t := by
  funext v
  cases v <;> simp only [Builtin.entityArg, alike.world, alike.activeEntity]

end ReadsAlike

end Session

namespace Sim

open Session

/--
What the built-ins that run no script need of a relation between sessions:
their bookkeeping steps run alike, related sessions read alike, and the
changes they make, made on both sides, keep the relation.
-/
structure Faithful (Rel : Session → Session → Prop) : Prop where
  uniform : Related Rel Eq uniform uniform
  shareVec2 : ∀ v, Related Rel Eq (shareVec2 v) (shareVec2 v)
  log : ∀ level message entity, Related Rel Eq (log level message entity) (log level message entity)
  note : ∀ level channel message, Related Rel Eq (note level channel message) (note level channel message)
  reads : ∀ s t, Rel s t → s.ReadsAlike t
  /-- Moving or restyling entities of an id, keeping their drivers and never activating them. -/
  moves : ∀ s t id (g : Entity → Entity), (∀ e, (g e).component = e.component) →
    (∀ e, (g e).active = true → e.active = true) → Rel s t →
    Rel { s with world := s.world.modify id g } { t with world := t.world.modify id g }
  schedules : ∀ s t scheduler, Rel s t → Rel { s with scheduler } { t with scheduler }
  subscribes : ∀ s t events, Rel s t → Rel { s with events } { t with events }

section Leaves

variable {Rel : Session → Session → Prop} (faithful : Faithful Rel)
include faithful

theorem spawnPosition_related : Related Rel Eq spawnPosition spawnPosition := by
  refine Related.get_bind fun s t related => ?_
  rw [(faithful.reads s t related).settings]
  exact faithful.uniform.bind_same fun x => faithful.uniform.bind_same fun y => Related.pure rfl

theorem binary_related (op : BinOp) (l r : Value) : Related Rel Eq (binary op l r) (binary op l r) := by
  refine Related.get_bind fun s t related => ?_
  rw [(faithful.reads s t related).entityText]
  exact Related.ofExcept _

end Leaves

end Sim

namespace Builtin

open Sim Session

variable {Rel : Session → Session → Prop} (faithful : Faithful Rel)
include faithful

/-- The mathematical functions read nothing of a session but its random source. -/
theorem math_related (name : String) (args : List Value) : Related Rel Eq (math name args) (math name args) := by
  unfold math
  split
  case h_1 | h_2 | h_3 =>
    exact (Related.ofExcept _).bind_same fun x =>
      Related.ite _ (fun _ => Related.throw_bind _) fun _ => Related.pure rfl
  case h_4 =>
    dsimp only
    split <;> exact Related.pure rfl
  case h_5 | h_6 | h_7 | h_11 => exact Related.pure rfl
  case h_8 => exact faithful.uniform.bind_same fun _ => Related.pure rfl
  case h_9 =>
    refine faithful.uniform.bind_same fun _ => ?_
    exact (Related.ofExcept _).bind_same fun _ => (Related.ofExcept _).bind_same fun _ =>
      (Related.ofExcept _).bind_same fun _ => (Related.ofExcept _).bind_same fun _ =>
      (Related.ofExcept _).bind_same fun _ => Related.pure rfl
  case h_10 =>
    exact (Related.ofExcept _).bind_same fun _ => (Related.ofExcept _).bind_same fun _ =>
      (Related.ofExcept _).bind_same fun _ => Related.pure rfl

theorem between_related (low high : Number) : Related Rel Eq (between low high) (between low high) :=
  faithful.uniform.bind_same fun _ => (Related.ofExcept _).bind_same fun _ =>
    (Related.ofExcept _).bind_same fun _ => (Related.ofExcept _).bind_same fun _ => Related.ofExcept _

/-- The vector and colour functions read entities' positions and the texts of values. -/
theorem geometry_related (name : String) (args : List Value) :
    Related Rel Eq (geometry name args) (geometry name args) := by
  unfold geometry
  refine Related.get_bind fun s t related => ?_
  have alike := faithful.reads s t related
  rw [alike.vectorView, alike.platform]
  split
  case h_1 =>
    exact (between_related faithful _ _).bind_same fun _ => (between_related faithful _ _).bind_same fun _ =>
      Related.pure rfl
  case h_2 =>
    exact (Related.ofExcept _).bind_same fun _ => (Related.ofExcept _).bind_same fun _ => Related.pure rfl
  case h_3 | h_4 | h_5 | h_6 | h_7 | h_8 =>
    exact (Related.ofExcept _).bind_same fun _ => Related.pure rfl
  case h_9 => exact Related.pure rfl

/-- The queries and moves of entities read the world and move entities alike. -/
theorem entities_related (name : String) (args : List Value) :
    Related Rel Eq (entities name args) (entities name args) := by
  unfold entities
  refine Related.get_bind fun s t related => ?_
  have alike := faithful.reads s t related
  simp only [alike.vectorView, alike.vectorOfArgs, alike.activeEntity, alike.entityArg, alike.world,
    alike.currentEntity?]
  split
  case h_1 | h_4 => exact (Related.ofExcept _).bind_same fun _ => Related.pure rfl
  case h_2 | h_3 | h_7 => exact Related.pure rfl
  case h_5 =>
    cases given? args 0 with
    | none => exact Related.pure rfl
    | some v => exact (Related.ofExcept _).bind_same fun _ => Related.pure rfl
  case h_6 =>
    cases t.currentEntity? with
    | none => exact Related.pure rfl
    | some e =>
      refine (Related.ofExcept _).bind_same fun v => (faithful.shareVec2 v).bind_same fun v => ?_
      exact (Related.modify fun s t related => faithful.moves s t e.id (fun e => { e with position := v })
        (fun _ => rfl) (fun _ active => active) related).bind_same fun _ => Related.pure rfl

/-- The clock, scheduling, subscriptions and the log read the running instance by its name only. -/
theorem timing_related (name : String) (args : List Value) :
    Related Rel Eq (timing name args) (timing name args) := by
  unfold timing
  refine Related.get_bind fun s t related => ?_
  have alike := faithful.reads s t related
  simp only [alike.format]
  split
  case h_1 => exact Related.pure (by rw [alike.time])
  case h_2 =>
    refine (Related.ofExcept _).bind_same fun method => ?_
    rw [congrArg List.head? alike.callStack]
    cases t.callStack.head? with
    | none => exact (faithful.log _ _ _).bind_same fun _ => Related.pure rfl
    | some serial =>
      dsimp only
      rw [alike.names serial, alike.scheduler]
      refine (Related.set (faithful.schedules s t _ related)).bind_same fun _ => ?_
      exact (Related.ofExcept _).bind_same fun _ => (faithful.note _ _ _).bind_same fun _ => Related.pure rfl
  case h_3 =>
    refine (Related.ofExcept _).bind_same fun event => (Related.ofExcept _).bind_same fun handler => ?_
    rw [alike.events]
    refine (Related.set (faithful.subscribes s t _ related)).bind_same fun _ => ?_
    exact (faithful.note _ _ _).bind_same fun _ => Related.pure rfl
  case h_4 =>
    exact (Related.mapM_same fun v => Related.ofExcept _).bind_same fun _ =>
      (faithful.log _ _ _).bind_same fun _ => Related.pure rfl
  case h_5 => exact Related.pure rfl

/-- Writing render properties of the current entity, on both sides. -/
theorem setProperties_related (entries : List (String × Value)) :
    Related Rel Eq (setProperties entries) (setProperties entries) := by
  refine Related.modify fun s t related => ?_
  rw [(faithful.reads s t related).currentEntity?]
  cases t.currentEntity? with
  | none => exact related
  | some e =>
    exact faithful.moves s t e.id (fun e => e.setProperties entries) (fun _ => rfl) (fun _ active => active) related

/-- Render properties, audio and physics write the world and the trace alike. -/
theorem effects_related (name : String) (args : List Value) :
    Related Rel Eq (effects name args) (effects name args) := by
  unfold effects
  refine Related.get_bind fun s t related => ?_
  have alike := faithful.reads s t related
  simp only [alike.format, alike.currentEntity?, alike.vectorOfArgs]
  have done : Related Rel Eq (pure Value.null) (pure Value.null) := Related.pure rfl
  have noted : ∀ message, Related Rel Eq (collaborator message) (collaborator message) :=
    fun _ => faithful.note _ _ _
  split
  case h_1 =>
    refine (setProperties_related faithful _).bind_same fun _ => ?_
    exact (Related.ofExcept _).bind_same fun _ => (Related.ofExcept _).bind_same fun _ =>
      (faithful.log _ _ _).bind_same fun _ => done
  case h_2 | h_3 | h_4 | h_5 | h_6 => exact (setProperties_related faithful _).bind_same fun _ => done
  case h_7 | h_8 | h_10 => exact (Related.ofExcept _).bind_same fun _ => (noted _).bind_same fun _ => done
  case h_9 | h_11 | h_12 => exact (noted _).bind_same fun _ => done
  case h_13 | h_14 =>
    cases t.currentEntity? with
    | none => exact done
    | some e => exact (Related.ofExcept _).bind_same fun _ => (noted _).bind_same fun _ => done
  case h_15 => exact (Related.ofExcept _).bind_same fun _ => (noted _).bind_same fun _ => done
  case h_16 => exact done

/-- Every built-in that runs no script ends alike on sessions related by a faithful relation. -/
theorem leaf_related (name : String) (args : List Value) : Related Rel Eq (leaf name args) (leaf name args) := by
  unfold leaf
  split
  · exact math_related faithful name args
  · exact geometry_related faithful name args
  · exact geometry_related faithful name args
  · exact entities_related faithful name args
  · exact timing_related faithful name args
  · exact timing_related faithful name args
  · exact timing_related faithful name args
  · exact effects_related faithful name args

end Builtin

end GameScript

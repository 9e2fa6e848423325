import GameScript.Proofs.InstanceNames
import GameScript.Proofs.JoinedLoad
import GameScript.Proofs.ReadNames

/-!
# The names of the registry, over every request

A host makes instances only of declarations read from source text, and the
reader names every declaration by an identifier token (`Declaration.ofTokens_names`),
which the scanner makes only of names. A name made unique from a name is not
empty, and an empty name asked for is no name at all. So no request of a
host registers an instance under the empty name (`Session.NamesNonempty`,
`Sim.answer_namesNonempty`): the requests that make instances (`load`,
`createComponent`) register names that are not empty, the end of a tick and
`removeComponent` only unregister names, `reset` empties the registry, and
everything else, running scripts included, leaves it as it was.

`Session.NamesInstances s` gathers the rules by which the registry of `s`
names its instances, and `Session.instances_named_first_free` proves them of
every session a host reaches: each instance is registered once, under the
name it carries; asking for no name, or an empty one, registers a new
instance last under the first free one of its declaration's name, `name_2`,
`name_3`, …; a name asked for that is taken is refused and changes nothing;
and a free one is registered last. The updates of a tick go through the
registered instances in this order (`Session.activeSerials`).
-/

namespace GameScript

namespace Session

/-- No instance is registered under the empty name. -/
def NamesNonempty (s : Session) : Prop := ∀ p ∈ s.registry, p.1 ≠ ""

theorem NamesNonempty.of_sublist {s t : Session} (sub : t.registry.Sublist s.registry) :
    Sim.Preserves NamesNonempty s t :=
  fun named p member => named p (sub.subset member)

theorem NamesNonempty.of_registry {s t : Session} (same : t.registry = s.registry) :
    Sim.Preserves NamesNonempty s t :=
  .of_sublist (same ▸ List.Sublist.refl _)

theorem NamesNonempty.of_evolves {s t : Session} (evolves : Evolves s t) :
    Sim.Preserves NamesNonempty s t :=
  .of_registry evolves.registry

theorem NamesNonempty.empty_free {s : Session} (nonempty : s.NamesNonempty) :
    "" ∉ s.registry.map (·.1) := fun member =>
  let ⟨p, registered, named⟩ := List.mem_map.1 member
  nonempty p registered named

end Session

/-- Unregistering the names of a list, one after the other, leaves part of the registry. -/
theorem foldl_eraseP_sublist (names : List String) (registry : List (String × Nat)) :
    (names.foldl (fun r name => r.eraseP (·.1 == name)) registry).Sublist registry := by
  induction names generalizing registry with
  | nil => exact List.Sublist.refl _
  | cons name rest more => exact (more _).trans List.eraseP_sublist

namespace Sim

open Session

variable {α β : Type} {R : Session → Session → Prop} {E : Fault → Prop}

/-- A step whose answers satisfy `P`, then a rest that keeps `R` from every such answer. -/
theorem Keeps.bind_answers [IsPreorder Session R] {P : α → Prop} {m : Sim α} {f : α → Sim β}
    (first : ∀ s, Ends m s (fun a t => P a ∧ R s t) (fun fault t => E fault ∧ R s t))
    (rest : ∀ a, P a → Keeps R E (f a)) : Keeps R E (m >>= f) := fun s => by
  rw [ends_bind]
  exact (first s).mono (fun a _ answered => (rest a answered.1).after answered.2) fun _ _ failed =>
    failed

/-- Parsing answers the declarations of the scanned tokens, and leaves the registry alone. -/
theorem parse_answers (source : String) (s : Session) :
    Ends (parse source) s
      (fun parsed t => parsed.1 = Declaration.ofTokens (Token.scan source).1 ∧ t.registry = s.registry)
      (fun _ _ => False) := by
  obtain ⟨_, ran⟩ := parse_run source s
  exact ends_of_run ran ⟨rfl, rfl⟩

/-- Parsing, then a rest that keeps every registered name from what was read. -/
theorem parse_bind_namesNonempty (source : String)
    {f : Except SyntaxError (List Declaration) × List ScanError → Sim β}
    (rest : ∀ parsed, parsed.1 = Declaration.ofTokens (Token.scan source).1 →
      Keeps (Preserves NamesNonempty) (fun _ => True) (f parsed)) :
    Keeps (Preserves NamesNonempty) (fun _ => True) (parse source >>= f) :=
  Keeps.bind_answers (fun s => (parse_answers source s).mono
    (fun _ _ parsed => ⟨parsed.1, NamesNonempty.of_registry parsed.2⟩) fun _ _ => False.elim) rest

/-- A declaration read from source text is not named by the empty name. -/
theorem parsed_name_ne_empty {source : String} {ds : List Declaration}
    (read : Declaration.ofTokens (Token.scan source).1 = .ok ds) {d : Declaration} (member : d ∈ ds) :
    d.name ≠ "" :=
  (Declaration.ofTokens_names (Token.scan_named source) read d member).ne_empty

/-- A declaration picked from a list is one of it. -/
theorem pick_mem {declarations : List Declaration} {index : Int} {d : Declaration}
    (picked : pick declarations index = some d) : d ∈ declarations := by
  simp only [pick] at picked
  split_ifs at picked <;> exact List.mem_of_getElem? picked

/-! ## No request registers the empty name -/

/-- Running scripts keeps every registered name. -/
theorem Keeps.namesNonempty {m : Sim α} (keeps : Keeps Evolves E m) :
    Keeps (Preserves NamesNonempty) E m :=
  keeps.relax fun _ _ evolves => NamesNonempty.of_evolves evolves

/-- A step on the books alone keeps every registered name. -/
theorem Keeps.quietly_namesNonempty {m : Sim α} (keeps : Keeps Quiet E m) :
    Keeps (Preserves NamesNonempty) E m :=
  keeps.relax fun _ _ quiet => NamesNonempty.of_registry quiet.registry

/-- A change of the session that leaves the registry alone. -/
theorem modify_namesNonempty {g : Session → Session} (same : ∀ s, (g s).registry = s.registry) :
    Keeps (Preserves NamesNonempty) E (modify g) :=
  Keeps.modify fun s => NamesNonempty.of_registry (same s)

theorem log_namesNonempty (level : LogLevel) (message : String) (entity : Option Nat) :
    Keeps (Preserves NamesNonempty) (fun _ => True) (log level message entity) :=
  modify_namesNonempty fun _ => rfl

theorem note_namesNonempty (level : LogLevel) (channel message : String) :
    Keeps (Preserves NamesNonempty) (fun _ => True) (note level channel message) :=
  modify_namesNonempty fun _ => rfl

/-- An instance of a declaration that has a name is registered under a name that is not empty. -/
theorem instantiate_namesNonempty {d : Declaration} (named : d.name ≠ "") (instanceName : Option String)
    (frames : Nat) :
    Keeps (Preserves NamesNonempty) (fun _ => True) (instantiate d instanceName frames) := by
  intro s
  refine (instantiate_registers_last d instanceName frames s).mono (fun _ _ made => ?_)
    fun _ _ failed => ⟨trivial, ?_⟩
  · intro before p member
    rw [made.2.1] at member
    rcases List.mem_append.1 member with old | new
    · exact before p old
    · rw [List.mem_singleton] at new
      rw [new]
      exact madeName_ne_empty _ named instanceName
  · rcases failed with ⟨_, -, -, -, rfl⟩ | ⟨-, -, same⟩
    · exact id
    · exact NamesNonempty.of_registry same

/--
Loading keeps every registered name from what was read: each declaration gives
an instance, maybe its entity, then its `init`, all by running scripts.
-/
theorem load_namesNonempty (source : String) (positions : List (String × Vec2)) :
    Keeps (Preserves NamesNonempty) (fun _ => True) (load source positions) := by
  unfold load
  refine parse_bind_namesNonempty source fun parsed read => ?_
  obtain ⟨parsed, scanErrors⟩ := parsed
  dsimp -zeta only at read ⊢
  split
  · exact Keeps.bind (log_namesNonempty _ _ _) fun _ => Keeps.pure _
  · next _ declarations =>
    refine Keeps.bind (Keeps.forIn_mem fun d member names => ?_) fun _ => Keeps.pure _
    refine Keeps.bind (instantiate_namesNonempty (parsed_name_ne_empty read.symm member) none _)
      fun serial => ?_
    refine get_bind_keeps fun u => get_bind_keeps fun v => ?_
    extract_lets grown next startUp requested
    have started : ∀ position, Keeps (Preserves NamesNonempty) (fun _ => True) (startUp position) := by
      intro position
      simp only [startUp]
      split
      · exact Keeps.bind ((evolves_runs _).runMethod _ _ _ _).namesNonempty fun _ => Keeps.pure _
      · exact Keeps.pure _
    split
    · refine Keeps.bind ((evolves_runs _).createEntity _ _ _).namesNonempty fun id => ?_
      exact get_bind_keeps fun _ => Keeps.bind (Keeps.pure _) started
    · exact Keeps.bind (Keeps.pure _) started

theorem createComponent_namesNonempty (source : String) (index : Int) (instanceName : Option String) :
    Keeps (Preserves NamesNonempty) (fun _ => True) (createComponent source index instanceName) := by
  unfold createComponent
  refine parse_bind_namesNonempty source fun parsed read => ?_
  dsimp only at read ⊢
  split
  · exact Keeps.pure _
  · next _ declarations found =>
    split
    · exact Keeps.throw trivial
    · next d picked =>
      have named := parsed_name_ne_empty (read ▸ found) (pick_mem picked)
      refine Keeps.bind (instantiate_namesNonempty named instanceName _) fun serial => ?_
      exact Keeps.bind (component_quiet _ serial).quietly_namesNonempty fun _ => Keeps.pure _

/-- The end of a tick only unregisters names. -/
theorem commitRemovals_namesNonempty :
    Keeps (Preserves NamesNonempty) (fun _ => True) commitRemovals :=
  Keeps.modify fun _ => NamesNonempty.of_sublist (foldl_eraseP_sublist _ _)

theorem tick_namesNonempty (dt : Option Number) :
    Keeps (Preserves NamesNonempty) (fun _ => True) (tick dt) := by
  unfold tick
  refine get_bind_keeps fun _ => ?_
  refine Keeps.bind (modify_namesNonempty fun _ => rfl) fun _ => ?_
  refine Keeps.bind (Keeps.tryFinally ?_ ?_) fun _ => modify_namesNonempty fun _ => rfl
  · refine Keeps.ofExcept_bind (fun _ _ => trivial) fun step => ?_
    refine Keeps.bind (modify_namesNonempty fun _ => rfl) fun _ => ?_
    refine get_bind_keeps fun u => Keeps.ofExcept_bind (fun _ _ => trivial) fun scheduler => ?_
    refine Keeps.bind (modify_namesNonempty fun _ => rfl) fun _ => ?_
    exact Keeps.bind runDueCallbacks_evolves.namesNonempty fun _ =>
      Keeps.bind (updateAll_evolves _ _).namesNonempty fun _ => modify_namesNonempty fun _ => rfl
  · exact Keeps.bind (modify_namesNonempty fun _ => rfl) fun _ => commitRemovals_namesNonempty

theorem repeatTicks_namesNonempty (dt : Option Number) (n : Nat) :
    Keeps (Preserves NamesNonempty) (fun _ => True) (repeatTicks dt n) := by
  induction n with
  | zero => exact Keeps.pure _
  | succ n more =>
    rw [repeatTicks]
    exact Keeps.bind (tick_namesNonempty dt) fun _ => more

theorem call_namesNonempty (name method : String) (args : List Value) :
    Keeps (Preserves NamesNonempty) (fun _ => True) (call name method args) := by
  unfold call
  refine get_bind_keeps fun s => ?_
  dsimp only
  split
  · exact Keeps.pure _
  · split
    · exact Keeps.pure _
    · exact Keeps.bind ((evolves_runs _).runMethod _ _ _ _).namesNonempty fun _ => Keeps.pure _

theorem destroyComponent_namesNonempty (name : String) :
    Keeps (Preserves NamesNonempty) (fun _ => True) (destroyComponent name) := by
  unfold destroyComponent
  refine get_bind_keeps fun s => ?_
  split
  · exact Keeps.pure _
  · exact Keeps.bind (modify_namesNonempty fun _ => rfl) fun _ =>
      Keeps.bind (log_namesNonempty _ _ _) fun _ => Keeps.pure _

/-- Removing a component unregisters its name, at once or at the end of the running tick. -/
theorem removeComponent_namesNonempty (name : String) :
    Keeps (Preserves NamesNonempty) (fun _ => True) (removeComponent name) := by
  intro s
  rw [removeComponent, ends_bind, ends_get]
  dsimp only
  split
  · exact Keeps.pure _ s
  · split
    · rw [ends_bind, ends_set]
      exact NamesNonempty.of_registry rfl
    · rw [ends_bind, ends_set]
      exact NamesNonempty.of_sublist List.eraseP_sublist

theorem evaluateText_namesNonempty (source : String) (name : Option String) (scope : Scope) :
    Keeps (Preserves NamesNonempty) (fun _ => True) (evaluateText source name scope) := by
  unfold evaluateText
  split
  · exact Keeps.pure _
  · refine get_bind_keeps fun s => ?_
    refine Keeps.bind (Keeps.mapM fun _ => Keeps.bind (share_quiet _ _).quietly_namesNonempty
      fun _ => Keeps.pure _) fun shared => ?_
    exact Keeps.bind ((evolves_runs _).evaluateTop _ _ _).namesNonempty fun _ => Keeps.pure _

theorem schedule_namesNonempty (delay : Number) (name method : String) (args : List Value) :
    Keeps (Preserves NamesNonempty) (fun _ => True) (schedule delay name method args) := by
  intro s
  rw [schedule, ends_bind, ends_get]
  dsimp only
  rw [ends_bind, ends_set]
  exact (Keeps.ofExcept_bind (fun _ _ => trivial) fun _ =>
    Keeps.bind (note_namesNonempty _ _ _) fun _ => Keeps.pure _).after (NamesNonempty.of_registry rfl)

theorem cancel_namesNonempty (id : Nat) :
    Keeps (Preserves NamesNonempty) (fun _ => True) (cancel id) := by
  intro s
  rw [cancel, ends_bind, ends_get]
  dsimp only
  rw [ends_bind, ends_set]
  exact (Keeps.pure _).after (NamesNonempty.of_registry rfl)

/-- Starting over leaves no instance registered. -/
theorem reset_namesNonempty : Keeps (Preserves NamesNonempty) (fun _ => True) reset := by
  unfold reset
  refine Keeps.bind (Keeps.modify fun _ _ => nofun) fun _ => ?_
  exact Keeps.bind (log_namesNonempty _ _ _) fun _ => note_namesNonempty _ _ _

/-- No request registers an instance under the empty name, whether it answers or fails. -/
theorem answer_namesNonempty (request : Request) :
    Keeps (Preserves NamesNonempty) (fun _ => True) (answer request) := by
  have runs := evolves_runs
  unfold answer
  refine get_bind_keeps fun s => ?_
  dsimp only
  cases request with
  | load => exact Keeps.bind (load_namesNonempty _ _) fun _ => Keeps.pure _
  | tick => exact Keeps.bind (tick_namesNonempty _) fun _ => Keeps.pure _
  | ticks => exact Keeps.bind (repeatTicks_namesNonempty _ _) fun _ => Keeps.pure _
  | call => exact Keeps.bind (call_namesNonempty _ _ _) fun _ => Keeps.pure _
  | update => exact Keeps.bind (updateComponent_evolves _ _ _).namesNonempty fun _ => Keeps.pure _
  | updateAll => exact Keeps.bind (updateAll_evolves _ _).namesNonempty fun _ => Keeps.pure _
  | broadcast => exact Keeps.bind ((runs _).broadcast _ _).namesNonempty fun _ => Keeps.pure _
  | subscribe =>
    exact Keeps.bind (Keeps.bind (modify_namesNonempty fun _ => rfl) fun _ => note_namesNonempty _ _ _)
      fun _ => Keeps.pure _
  | createEntity =>
    refine Keeps.bind ((runs _).createEntity _ _ _).namesNonempty fun _ => ?_
    exact get_bind_keeps fun _ => Keeps.pure _
  | destroyEntity => exact Keeps.bind ((runs _).destroyEntity _).namesNonempty fun _ => Keeps.pure _
  | getEntity => exact Keeps.pure _
  | destroyComponent => exact Keeps.bind (destroyComponent_namesNonempty _) fun _ => Keeps.pure _
  | removeComponent => exact Keeps.bind (removeComponent_namesNonempty _) fun _ => Keeps.pure _
  | createComponent =>
    refine Keeps.bind (createComponent_namesNonempty _ _ _) fun _ => ?_
    split <;> exact Keeps.pure _
  | builtin => exact Keeps.bind ((runs _).callBuiltin _ _).namesNonempty fun _ => Keeps.pure _
  | evaluate =>
    refine Keeps.bind (evaluateText_namesNonempty _ _ _) fun _ => ?_
    split <;> exact Keeps.pure _
  | schedule => exact Keeps.bind (schedule_namesNonempty _ _ _ _) fun _ => Keeps.pure _
  | cancel =>
    dsimp only
    split
    · exact Keeps.pure _
    · exact Keeps.bind (cancel_namesNonempty _) fun _ => Keeps.pure _
  | logs => exact Keeps.pure _
  | clearLogs => exact Keeps.bind (modify_namesNonempty fun _ => rfl) fun _ => Keeps.pure _
  | snapshot => exact Keeps.pure _
  | reset => exact Keeps.bind reset_namesNonempty fun _ => Keeps.pure _
  | describe => exact Keeps.pure _
  | stats => exact Keeps.pure _

end Sim

namespace Session

open Sim

/-- No session a host reaches has an instance registered under the empty name. -/
theorem Reachable.namesNonempty {s : Session} (reachable : s.Reachable) : s.NamesNonempty := by
  induction reachable with
  | start settings platform => exact nofun
  | step request _ named =>
    exact perform_session ((answer_namesNonempty request).ends _ (fun _ _ kept => kept named)
      fun _ _ _ kept => kept named)

/-! ## The rules of the registry -/

/-- How the registry of `s` names its instances. -/
structure NamesInstances (s : Session) : Prop where
  /-- The registry names each instance once, by the name it carries, and no name is empty. -/
  keyed : (s.registry.map (·.1)).Nodup ∧ ∀ p ∈ s.registry, (s.component p.2).name = p.1 ∧ p.1 ≠ ""
  /--
  Asking for no name, or for an empty one, registers a new instance last under the first free
  one of its declaration's name, `name_2`, `name_3`, …; only arithmetic in the initial value of
  a field fails it, and then nothing is registered.
  -/
  unasked : ∀ d instanceName frames, instanceName.getD "" = "" →
    Ends (instantiate d instanceName frames) s
      (fun serial t => serial = s.store.size ∧ ∃ name, FirstFree (s.registry.map (·.1)) d.name name ∧
        t.registry = s.registry ++ [(name, serial)] ∧ (t.component serial).name = name)
      (fun fault t => fault.isArithmetic ∧ (∃ fd ∈ d.fields, fd.init.isSome) ∧ t.registry = s.registry)
  /-- A name asked for that is taken is refused, and nothing changes. -/
  taken : ∀ d frames n, n ∈ s.registry.map (·.1) →
    (instantiate d (some n) frames).run s = .error (.componentExists n) s
  /-- A name asked for that is free names a new instance, registered last. -/
  asked : ∀ d frames n, n ≠ "" → n ∉ s.registry.map (·.1) →
    Ends (instantiate d (some n) frames) s
      (fun serial t => serial = s.store.size ∧ t.registry = s.registry ++ [(n, serial)] ∧
        (t.component serial).name = n)
      (fun fault t => fault.isArithmetic ∧ (∃ fd ∈ d.fields, fd.init.isSome) ∧ t.registry = s.registry)

/-- Every session a host reaches names its instances by the rules of the registry. -/
theorem instances_named_first_free {s : Session} (reachable : s.Reachable) : s.NamesInstances := by
  have named := reachable.sound.named
  have nonempty := reachable.namesNonempty
  exact ⟨⟨named.1, fun p member => ⟨(named.2 p member).2, nonempty p member⟩⟩,
    fun d _ frames asked => instantiate_unasked_ends s d asked nonempty.empty_free frames,
    fun d frames _ taken => instantiate_refuses_taken d frames taken,
    fun d frames _ given free => instantiate_asked_ends s d given free frames⟩

/-- A new session that loaded two declarations of one name names its instances by those rules. -/
theorem twins_loaded_named_first_free :
    ((Session.create {} default).perform (.load "component A { } component A { }" [])).2.1.Reachable ∧
      ((Session.create {} default).perform (.load "component A { } component A { }" [])).2.1.NamesInstances :=
  ⟨.step _ (.start {} default), instances_named_first_free (.step _ (.start {} default))⟩

end Session

end GameScript

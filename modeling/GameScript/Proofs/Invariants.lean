import Mathlib.Data.List.Nodup
import Mathlib.Data.List.Perm.Subperm
import GameScript.Proofs.Lifecycle
import GameScript.Proofs.Requests

/-!
# What every request keeps, and what holds of every session a host reaches

Between two resets the requests of a host only move the standing of each id
forward: creations, destructions and the ends of ticks never bring an entity
back. `Session.Continues s t` says so, and that three invariants carry from
`s` to `t`: ids are handed out in order, the registry names every instance
once by the name it carries (a new instance takes a name no registered one
has), and the scheduler hands out at most the configured number of calls per
tick. Every request but `reset` keeps `Continues`, and `reset` keeps the
invariants; so every reachable session is `Sound`: at rest, with the three
invariants.
-/

namespace GameScript

/-- Decimal digits tell numbers apart. -/
theorem digitText_injective : Function.Injective digitText := by
  intro a b same
  have digits : Nat.toDigits 10 a = Nat.toDigits 10 b := by
    simpa [digitText] using congrArg String.toList same
  rw [← Nat.ofDigitChars_ten_toDigits (n := a), digits, Nat.ofDigitChars_ten_toDigits]

/--
The name made unique is free: among `base_2, …` one more candidate is tried
than names are taken. Every candidate would be taken, and there are more
candidates than taken names.
-/
theorem uniqueName_not_mem (taken : List String) (base : String) :
    uniqueName taken base ∉ taken := by
  unfold uniqueName
  split
  · next free => simpa using free
  extract_lets candidates
  have distinct : candidates.Nodup := by
    refine List.Nodup.map (fun i j same => ?_) List.nodup_range
    have suffixes : (digitText (i + 2)).toList = (digitText (j + 2)).toList := by
      simpa [← String.toList_inj] using same
    have := digitText_injective (String.toList_inj.1 suffixes)
    omega
  cases found : candidates.find? (!taken.contains ·) with
  | some name => simpa using List.find?_some found
  | none =>
    have covered : candidates ⊆ taken := fun name member => by
      simpa using List.find?_eq_none.1 found name member
    have longer := (distinct.subperm covered).length_le
    simp only [candidates, List.length_map, List.length_range] at longer
    omega

/-- Taking entities out of the table hands out no id. -/
theorem World.foldl_remove_nextId (ids : List Nat) (w : World) :
    (ids.foldl World.remove w).nextId = w.nextId := by
  induction ids generalizing w with
  | nil => rfl
  | cons id ids more => exact more _

namespace Session

open World

/-- The scheduler hands out at most the configured number of calls per tick. -/
def Limited (s : Session) : Prop := s.scheduler.perTick = s.settings.maxCallbacksPerTick

/-- What every request but starting over keeps. -/
structure Continues (s t : Session) : Prop where
  later : ∀ id, (s.world.standing id).rank ≤ (t.world.standing id).rank
  numbered : s.world.Numbered → t.world.Numbered
  named : s.Named → t.Named
  limited : s.Limited → t.Limited

theorem Continues.refl (s : Session) : Continues s s :=
  ⟨fun _ => Nat.le_refl _, id, id, id⟩

theorem Continues.trans {s t u : Session} (first : Continues s t) (second : Continues t u) :
    Continues s u :=
  ⟨fun id => Nat.le_trans (first.later id) (second.later id), second.numbered ∘ first.numbered,
    second.named ∘ first.named, second.limited ∘ first.limited⟩

instance : IsPreorder Session Continues where
  refl := Continues.refl
  trans _ _ _ := Continues.trans

/-- A session with the same world, registry, instances, settings and limit. -/
theorem Continues.of_same {s t : Session} (world : t.world = s.world) (registry : t.registry = s.registry)
    (store : t.store = s.store) (settings : t.settings = s.settings)
    (perTick : t.scheduler.perTick = s.scheduler.perTick) : Continues s t :=
  ⟨fun _ => Nat.le_of_eq (by rw [world]), fun numbered => world ▸ numbered,
    fun named => by unfold Named Session.component at *; rwa [registry, store],
    fun limited => by unfold Limited at *; rwa [perTick, settings]⟩

/-- The registry of a running script is the one it found, naming instances that keep their names. -/
theorem Named.of_evolves {s t : Session} (evolves : Evolves s t) (named : s.Named) : t.Named := by
  obtain ⟨distinct, each⟩ := named
  refine ⟨evolves.registry ▸ distinct, fun p member => ?_⟩
  rw [evolves.registry] at member
  obtain ⟨valid, name⟩ := each p member
  exact ⟨evolves.size ▸ valid, (evolves.names p.2).trans name⟩

theorem Continues.of_evolves {s t : Session} (evolves : Evolves s t) : Continues s t :=
  ⟨evolves.later, evolves.numbered, Named.of_evolves evolves,
    fun limited => by unfold Limited at *; rw [evolves.perTick, evolves.settings, limited]⟩

/-- Unregistering names keeps the registry naming instances once. -/
theorem Named.eraseP {s : Session} (named : s.Named) (p : String × Nat → Bool) :
    Session.Named { s with registry := s.registry.eraseP p } := by
  obtain ⟨distinct, each⟩ := named
  refine ⟨(List.eraseP_sublist.map _).nodup distinct, fun q member => ?_⟩
  exact each q (List.eraseP_sublist.subset member)

/-- The entities of the ids waiting for the end of a tick leave the table, keeping their ids. -/
theorem Continues.remove_all (s : Session) (ids : List Nat) :
    Continues s { s with world := ids.foldl World.remove s.world } := by
  refine ⟨fun id => ?_, fun numbered => ?_, fun named => named, fun limited => limited⟩
  · rw [standing_foldl_remove]
    split
    · exact Standing.rank_le_unlist _
    · exact Nat.le_refl _
  · refine numbered_of_outlines numbered (fun o => if o.1 ∈ ids then (o.1, o.2.1, false) else o)
      (fun o => by split <;> rfl) ?_ ?_
    · simp only [outlines, World.foldl_remove, List.map_map]
      refine List.map_congr_left fun e _ => ?_
      by_cases waiting : e.id ∈ ids <;> simp [waiting, Entity.outline]
    · rw [World.foldl_remove_nextId]

/-- A new instance on the store keeps the registry naming the old ones. -/
theorem Named.push {s : Session} (named : s.Named) (c : Component) :
    Session.Named { s with store := s.store.push c } := by
  obtain ⟨distinct, each⟩ := named
  refine ⟨distinct, fun p member => ?_⟩
  obtain ⟨valid, name⟩ := each p member
  refine ⟨by simp only [Array.size_push]; omega, ?_⟩
  show ((s.store.push c).getD p.2 default).name = p.1
  rw [Session.component, Array.getD_eq_getD_getElem?] at name
  rw [Array.getD_eq_getD_getElem?, Array.getElem?_push_lt valid, ← Array.getElem?_eq_getElem valid]
  exact name

/-- Registering a free name for an instance that carries it keeps the registry naming instances once. -/
theorem Named.register {s : Session} (named : s.Named) {name : String} {serial : Nat}
    (free : name ∉ s.registry.map (·.1)) (valid : serial < s.store.size)
    (carries : (s.component serial).name = name) :
    Session.Named { s with registry := s.registry ++ [(name, serial)] } := by
  obtain ⟨distinct, each⟩ := named
  refine ⟨?_, fun p member => ?_⟩
  · rw [List.map_append, List.nodup_append]
    refine ⟨distinct, List.nodup_singleton _, fun taken old added new same => free ?_⟩
    rw [List.map_singleton, List.mem_singleton] at new
    rw [same, new] at old
    exact old
  · rcases List.mem_append.1 member with old | new
    · exact each p old
    · rw [List.mem_singleton] at new
      subst new
      exact ⟨valid, carries⟩

/-- Unregistering the names in a list keeps the registry naming instances once. -/
theorem Named.foldl_eraseP (names : List String) {s : Session} (named : s.Named) :
    Session.Named
      { s with registry := names.foldl (fun r name => r.eraseP (·.1 == name)) s.registry } := by
  induction names generalizing s with
  | nil => exact named
  | cons name rest more => exact more (s := { s with registry := _ }) (named.eraseP _)

/-- Putting a new instance on the store continues a session. -/
theorem Continues.push (s : Session) (c : Component) :
    Continues s { s with store := s.store.push c } :=
  ⟨fun _ => Nat.le_refl _, id, fun named => named.push c, id⟩

/-- An instance made on the store, whose fields then took their values, is registered under its free name. -/
theorem Continues.enroll (s : Session) {u : Session} (c : Component)
    (evolves : Evolves { s with store := s.store.push c } u) (free : c.name ∉ s.registry.map (·.1)) :
    Continues s { u with registry := u.registry ++ [(c.name, s.store.size)] } := by
  have pushed := (Continues.push s c).trans (Continues.of_evolves evolves)
  refine ⟨pushed.later, pushed.numbered, fun named => ?_, pushed.limited⟩
  refine (pushed.named named).register (by rwa [evolves.registry]) ?_ ?_
  · rw [evolves.size, Array.size_push]
    exact Nat.lt_succ_self _
  · rw [evolves.names]
    show ((s.store.push c).getD s.store.size default).name = c.name
    rw [Array.getD_eq_getD_getElem?, Array.getElem?_push_size]
    rfl

/-- A name that looks up nothing is free. -/
theorem free_of_lookup? {s : Session} {name : String} (none : s.lookup? name = none) :
    name ∉ s.registry.map (·.1) := by
  intro member
  obtain ⟨p, present, rfl⟩ := List.mem_map.1 member
  have found := List.find?_eq_none.1 (Option.map_eq_none_iff.1 none) p present
  simp at found

end Session

/-- Taking calls off the queue keeps the scheduler's limit. -/
theorem Scheduler.popDue_perTick (s : Scheduler) (limit : Option Int) :
    (s.popDue limit).2.perTick = s.perTick := rfl

theorem Scheduler.cancel_perTick (s : Scheduler) (id : Nat) : (s.cancel id).2.perTick = s.perTick := by
  unfold cancel
  split <;> rfl

theorem Scheduler.advance_perTick {s t : Scheduler} {dt : Number} (advanced : s.advance dt = .ok t) :
    t.perTick = s.perTick := by
  unfold advance at advanced
  cases converted : dt.toFloat with
  | error => simp [converted] at advanced
  | ok step =>
    simp only [converted] at advanced
    cases advanced
    rfl

/-- Whether a request starts over. -/
def Request.resets : Request → Bool
  | .reset => true
  | _ => false

namespace Sim

open Session

/-! ## Every request but `reset` keeps `Continues` -/

/-- A run of scripts continues a session. -/
theorem Keeps.continues {m : Sim α} (keeps : Keeps Evolves (fun _ => True) m) :
    Keeps Continues (fun _ => True) m :=
  keeps.relax fun _ _ => Continues.of_evolves

/-- A quiet step continues a session. -/
theorem Keeps.continues_quiet {E : Fault → Prop} {m : Sim α} (keeps : Keeps Quiet E m) :
    Keeps Continues (fun _ => True) m :=
  ((keeps.relax fun _ _ quiet => Continues.of_evolves (Evolves.of_quiet quiet)).weaken
    fun _ _ => trivial)

theorem log_continues (level : LogLevel) (message : String) (entity : Option Nat) :
    Keeps Continues (fun _ => True) (log level message entity) :=
  Keeps.continues_quiet (log_quiet (fun _ => True) level message entity)

theorem note_continues (level : LogLevel) (channel message : String) :
    Keeps Continues (fun _ => True) (note level channel message) :=
  Keeps.continues_quiet (note_quiet (fun _ => True) level channel message)

theorem parse_continues (source : String) : Keeps Continues (fun _ => True) (parse source) := by
  unfold parse
  exact Keeps.bind (Keeps.forIn fun _ _ => Keeps.bind (log_continues _ _ _) fun _ => Keeps.pure _)
    fun _ => Keeps.pure _

/--
Making an instance gives it a name no registered instance has, and registers
it under that name. The fields take their initial values, or their zeros when
those run out of host stack, by running scripts, which keep `Evolves`; a name
asked for is refused when taken, and an empty one is made unique.
-/
theorem instantiate_continues (d : Declaration) (instanceName : Option String) (frames : Nat) :
    Keeps Continues (fun _ => True) (instantiate d instanceName frames) := by
  intro s
  rw [instantiate, ends_bind, ends_get]
  cases instanceName <;> extract_lets name serial make
  all_goals
    have made : name ∉ s.registry.map (·.1) → ∀ r, Ends (make r) s (fun _ t => Continues s t)
        (fun _ t => True ∧ Continues s t) := by
      intro free r
      simp only [make]
      rw [ends_bind, ends_set, ends_bind]
      refine (Keeps.forIn (R := Evolves) (E := fun _ => True) fun fd _ => ?_).ends _
        (fun _ u evolves => ?_) fun _ u _ evolves => ⟨trivial, (Continues.push s _).trans
          (Continues.of_evolves evolves)⟩
      · have stored : ∀ v, Keeps Evolves (fun _ => True)
            (do modifyComponent serial (·.setField fd.name v); pure (ForInStep.yield PUnit.unit)) :=
          fun v => Keeps.bind (Keeps.modify fun s => Evolves.modifyComponent s serial _
            fun c => c.setField_name _ _) fun _ => Keeps.pure _
        split
        · exact Keeps.bind (Keeps.pure _) stored
        · refine Keeps.bind (Keeps.tryCatch ((evolves_runs frames).evaluateTop [] (some serial) _)
            fun fault _ => ?_) stored
          split
          · exact Keeps.bind (evolves_steps.log_keeps _ _ _) fun _ => Keeps.pure _
          · exact Keeps.throw trivial
      · rw [ends_bind, ends_modify]
        exact (Keeps.bind (note_continues _ _ _) fun _ => Keeps.bind (log_continues _ _ _) fun _ =>
          Keeps.pure _).after (Continues.enroll s _ evolves free)
  · exact made (uniqueName_not_mem _ _) ()
  · dsimp only
    split
    · exact Keeps.throw_bind trivial s
    · next taken =>
      refine made ?_ ()
      simp only [name]
      split
      · exact uniqueName_not_mem _ _
      · exact free_of_lookup? (Option.not_isSome_iff_eq_none.1 taken)

/--
Loading keeps `Continues`: each declaration gives an instance, maybe its
entity, then its `init`, all by running scripts.
-/
theorem load_continues (source : String) (positions : List (String × Vec2)) :
    Keeps Continues (fun _ => True) (load source positions) := by
  unfold load
  refine Keeps.bind (parse_continues source) fun parsed => ?_
  obtain ⟨parsed, scanErrors⟩ := parsed
  dsimp -zeta only
  split
  · exact Keeps.bind (log_continues _ _ _) fun _ => Keeps.pure _
  refine Keeps.bind (Keeps.forIn fun d names => ?_) fun _ => Keeps.pure _
  refine Keeps.bind (instantiate_continues d none _) fun serial => ?_
  refine get_bind_keeps fun u => get_bind_keeps fun v => ?_
  extract_lets grown next startUp requested
  have started : ∀ position, Keeps Continues (fun _ => True) (startUp position) := by
    intro position
    simp only [startUp]
    split
    · exact Keeps.bind ((evolves_runs _).runMethod _ _ _ _).continues fun _ => Keeps.pure _
    · exact Keeps.pure _
  split
  · refine Keeps.bind ((evolves_runs _).createEntity _ _ _).continues fun id => ?_
    exact get_bind_keeps fun _ => Keeps.bind (Keeps.pure _) started
  · exact Keeps.bind (Keeps.pure _) started

/-! The update and callback phases of a tick only run scripts, so they keep `Evolves`. -/

theorem updateComponent_evolves (frames : Nat) (name : String) (dt : Number) :
    Keeps Evolves (fun _ => True) (updateComponent frames name dt) := by
  unfold updateComponent
  refine get_bind_keeps fun s => ?_
  dsimp only
  split
  · exact Keeps.pure _
  · split
    · split
      · exact (evolves_runs frames).runMethod _ _ _ _
      · exact Keeps.pure _
    · exact Keeps.pure _

theorem updateAll_evolves (frames : Nat) (dt : Number) :
    Keeps Evolves (fun _ => True) (updateAll frames dt) := by
  unfold updateAll
  refine get_bind_keeps fun _ => Keeps.bind (Keeps.forIn fun _ _ => ?_) fun _ => Keeps.pure _
  exact Keeps.bind (updateComponent_evolves frames _ dt) fun _ => Keeps.pure _

/-- The callback phase keeps `Evolves`: taking the due calls off the queue is bookkeeping. -/
theorem runDueCallbacks_evolves : Keeps Evolves (fun _ => True) runDueCallbacks := by
  intro s
  rw [runDueCallbacks, ends_bind, ends_get]
  dsimp only
  rw [ends_bind, ends_set]
  refine (Keeps.bind (Keeps.forIn fun cb _ => ?_) fun _ => Keeps.pure _).after
    (Evolves.of_quiet (Quiet.of_scheduler s rfl rfl))
  refine get_bind_keeps fun u => ?_
  split
  · exact Keeps.pure _
  · refine Keeps.bind (evolves_steps.quietly (component_quiet (fun _ => True) _)) fun c => ?_
    split
    · split
      · exact Keeps.bind (evolves_steps.log_keeps _ _ _) fun _ => Keeps.pure _
      · exact Keeps.bind ((evolves_runs _).runMethod _ _ _ _) fun _ => Keeps.pure _
    · exact Keeps.pure _

theorem call_continues (name method : String) (args : List Value) :
    Keeps Continues (fun _ => True) (call name method args) := by
  unfold call
  refine get_bind_keeps fun s => ?_
  dsimp only
  split
  · exact Keeps.pure _
  · split
    · exact Keeps.pure _
    · exact Keeps.bind ((evolves_runs _).runMethod _ _ _ _).continues fun _ => Keeps.pure _

theorem destroyComponent_continues (name : String) :
    Keeps Continues (fun _ => True) (destroyComponent name) := by
  unfold destroyComponent
  refine get_bind_keeps fun s => ?_
  split
  · exact Keeps.pure _
  · refine Keeps.bind (Keeps.modify fun s => Continues.of_evolves
      (Evolves.modifyComponent s _ _ fun _ => rfl)) fun _ => ?_
    exact Keeps.bind (log_continues _ _ _) fun _ => Keeps.pure _

/-- Unregistering a component keeps the registry naming instances once; in a tick it only waits. -/
theorem removeComponent_continues (name : String) :
    Keeps Continues (fun _ => True) (removeComponent name) := by
  intro s
  rw [removeComponent, ends_bind, ends_get]
  dsimp only
  split
  · exact Keeps.pure _ s
  · split
    · rw [ends_bind, ends_set]
      have deactivated := Continues.of_evolves
        (Evolves.modifyComponent s ‹_› (fun c => { c with active := false }) fun _ => rfl)
      exact deactivated.trans (Continues.of_same rfl rfl rfl rfl rfl)
    · rw [ends_bind, ends_set]
      exact ⟨fun _ => Nat.le_refl _, id, fun named => named.eraseP _, id⟩

theorem createComponent_continues (source : String) (index : Int) (instanceName : Option String) :
    Keeps Continues (fun _ => True) (createComponent source index instanceName) := by
  unfold createComponent
  refine Keeps.bind (parse_continues source) fun parsed => ?_
  dsimp only
  split
  · exact Keeps.pure _
  · split
    · exact Keeps.throw trivial
    · refine Keeps.bind (instantiate_continues _ instanceName _) fun serial => ?_
      exact Keeps.bind (Keeps.continues_quiet (component_quiet (fun _ => True) serial)) fun _ =>
        Keeps.pure _

theorem evaluateText_continues (source : String) (name : Option String) (scope : Scope) :
    Keeps Continues (fun _ => True) (evaluateText source name scope) := by
  unfold evaluateText
  split
  · exact Keeps.pure _
  · refine get_bind_keeps fun s => ?_
    refine Keeps.bind (Keeps.mapM fun _ => Keeps.bind (Keeps.continues_quiet
      (share_quiet (fun _ => True) _)) fun _ => Keeps.pure _) fun shared => ?_
    exact Keeps.bind ((evolves_runs _).evaluateTop _ _ _).continues fun _ => Keeps.pure _

theorem schedule_continues (delay : Number) (name method : String) (args : List Value) :
    Keeps Continues (fun _ => True) (schedule delay name method args) := by
  intro s
  rw [schedule, ends_bind, ends_get]
  dsimp only
  rw [ends_bind, ends_set]
  refine (Keeps.ofExcept_bind (fun _ _ => trivial) fun c =>
    Keeps.bind (note_continues _ _ _) fun _ => Keeps.pure _).after ?_
  exact Continues.of_same rfl rfl rfl rfl (Scheduler.schedule_clock _ _ _ _ _).2

theorem cancel_continues (id : Nat) : Keeps Continues (fun _ => True) (cancel id) := by
  intro s
  rw [cancel, ends_bind, ends_get]
  dsimp only
  rw [ends_bind, ends_set]
  exact (Keeps.pure _).after (Continues.of_same rfl rfl rfl rfl (Scheduler.cancel_perTick _ _))

/-- The end of a tick takes the waiting entities out of the table and unregisters the waiting components. -/
theorem Continues.commit (s : Session) :
    Continues s { s with
      world := s.pendingEntities.foldl World.remove s.world
      registry := s.pendingComponents.foldl (fun r name => r.eraseP (·.1 == name)) s.registry
      pendingEntities := []
      pendingComponents := [] } := by
  have removed := Continues.remove_all s s.pendingEntities
  exact ⟨removed.later, removed.numbered, fun named => Named.foldl_eraseP _ named, id⟩

/--
A tick moves the clocks, runs scripts, ages the entities and commits the
removals. Ageing keeps every outline, so every standing and the numbering.
-/
theorem tick_continues (dt : Option Number) : Keeps Continues (fun _ => True) (tick dt) := by
  unfold tick
  refine get_bind_keeps fun s => ?_
  refine Keeps.bind (Keeps.modify fun s => Continues.of_same rfl rfl rfl rfl rfl) fun _ => ?_
  refine Keeps.bind (Keeps.tryFinally ?_ ?_) fun _ =>
    Keeps.modify fun s => Continues.of_same rfl rfl rfl rfl rfl
  · refine Keeps.ofExcept_bind (fun _ _ => trivial) fun step => ?_
    refine Keeps.bind (Keeps.modify fun s => Continues.of_same rfl rfl rfl rfl rfl) fun _ => ?_
    intro u
    rw [ends_bind, ends_get, ends_bind, ends_ofExcept]
    refine ⟨fun scheduler advanced => ?_, fun _ _ => ⟨trivial, .refl u⟩⟩
    rw [ends_bind, ends_modify]
    refine (Keeps.bind runDueCallbacks_evolves.continues fun _ => Keeps.bind (updateAll_evolves _ _).continues
      fun _ => Keeps.modify fun v => ?_).after
        (Continues.of_same rfl rfl rfl rfl (Scheduler.advance_perTick advanced))
    exact Continues.of_evolves (Evolves.of_quiet ⟨rfl, rfl, rfl, World.outlines_age _ _, rfl, rfl,
      rfl, rfl, rfl, rfl, rfl, rfl, rfl, rfl⟩)
  · refine Keeps.bind (Keeps.modify fun s => Continues.of_same rfl rfl rfl rfl rfl) fun _ => ?_
    exact Keeps.modify fun s => Continues.commit s

theorem repeatTicks_continues (dt : Option Number) (n : Nat) :
    Keeps Continues (fun _ => True) (repeatTicks dt n) := by
  induction n with
  | zero => exact Keeps.pure _
  | succ n more =>
    rw [repeatTicks]
    exact Keeps.bind (tick_continues dt) fun _ => more

theorem subscribe_continues (event handler : String) :
    Keeps Continues (fun _ => True) (subscribe event handler) :=
  Keeps.bind (Keeps.modify fun _ => Continues.of_same rfl rfl rfl rfl rfl) fun _ =>
    note_continues _ _ _

theorem clearLogs_continues : Keeps Continues (fun _ => True) clearLogs :=
  Keeps.modify fun _ => Continues.of_same rfl rfl rfl rfl rfl

/-- Every request but `reset` continues the session it is answered in, whether it answers or fails. -/
theorem answer_continues (request : Request) (kept : request.resets = false) :
    Keeps Continues (fun _ => True) (answer request) := by
  unfold answer
  refine get_bind_keeps fun s => ?_
  dsimp only
  cases request with
  | load => exact Keeps.bind (load_continues _ _) fun _ => Keeps.pure _
  | tick => exact Keeps.bind (tick_continues _) fun _ => Keeps.pure _
  | ticks => exact Keeps.bind (repeatTicks_continues _ _) fun _ => Keeps.pure _
  | call => exact Keeps.bind (call_continues _ _ _) fun _ => Keeps.pure _
  | update => exact Keeps.bind (updateComponent_evolves _ _ _).continues fun _ => Keeps.pure _
  | updateAll => exact Keeps.bind (updateAll_evolves _ _).continues fun _ => Keeps.pure _
  | broadcast =>
    exact Keeps.bind ((evolves_runs _).broadcast _ _).continues fun _ => Keeps.pure _
  | subscribe => exact Keeps.bind (subscribe_continues _ _) fun _ => Keeps.pure _
  | createEntity =>
    refine Keeps.bind ((evolves_runs _).createEntity _ _ _).continues fun _ => ?_
    exact get_bind_keeps fun _ => Keeps.pure _
  | destroyEntity =>
    exact Keeps.bind ((evolves_runs _).destroyEntity _).continues fun _ => Keeps.pure _
  | getEntity => exact Keeps.pure _
  | destroyComponent => exact Keeps.bind (destroyComponent_continues _) fun _ => Keeps.pure _
  | removeComponent => exact Keeps.bind (removeComponent_continues _) fun _ => Keeps.pure _
  | createComponent =>
    refine Keeps.bind (createComponent_continues _ _ _) fun _ => ?_
    split <;> exact Keeps.pure _
  | builtin => exact Keeps.bind ((evolves_runs _).callBuiltin _ _).continues fun _ => Keeps.pure _
  | evaluate =>
    refine Keeps.bind (evaluateText_continues _ _ _) fun _ => ?_
    split <;> exact Keeps.pure _
  | schedule => exact Keeps.bind (schedule_continues _ _ _ _) fun _ => Keeps.pure _
  | cancel =>
    dsimp only
    split
    · exact Keeps.pure _
    · exact Keeps.bind (cancel_continues _) fun _ => Keeps.pure _
  | logs => exact Keeps.pure _
  | clearLogs => exact Keeps.bind clearLogs_continues fun _ => Keeps.pure _
  | snapshot => exact Keeps.pure _
  | reset => cases kept
  | describe => exact Keeps.pure _
  | stats => exact Keeps.pure _

end Sim

namespace Session

open Sim

/-- The invariants `Continues` carries. -/
structure Kept (s : Session) : Prop where
  numbered : s.world.Numbered
  named : s.Named
  limited : s.Limited

theorem Continues.kept {s t : Session} (continues : Continues s t) (kept : s.Kept) : t.Kept :=
  ⟨continues.numbered kept.numbered, continues.named kept.named, continues.limited kept.limited⟩

/-- A fresh session: an empty table and registry, and the scheduler made with the configured limit. -/
theorem create_kept (settings : Settings) (platform : Platform) : (Session.create settings platform).Kept :=
  ⟨⟨rfl, rfl⟩, ⟨List.nodup_nil, nofun⟩, rfl⟩

/-- Starting over empties the table and the registry and keeps the scheduler's limit. -/
theorem reset_kept : Keeps (Preserves Kept) (fun _ => True) reset := by
  unfold reset
  refine Keeps.bind (Keeps.modify fun s kept => ⟨⟨rfl, rfl⟩, ⟨List.nodup_nil, nofun⟩, ?_⟩) fun _ => ?_
  · unfold Limited
    rw [← kept.limited]
    rfl
  have continues : ∀ s t, Continues s t → Preserves Kept s t := fun _ _ => Continues.kept
  exact Keeps.bind ((log_continues _ _ _).relax continues) fun _ =>
    (note_continues _ _ _).relax continues

theorem answer_kept (request : Request) : Keeps (Preserves Kept) (fun _ => True) (answer request) := by
  cases resets : request.resets
  · exact (answer_continues request resets).relax fun _ _ => Continues.kept
  · cases request <;> simp only [Request.resets, Bool.false_eq_true] at resets
    unfold answer
    exact get_bind_keeps fun _ => Keeps.bind reset_kept fun _ => Keeps.pure _

/-- What holds of every session a host reaches. -/
structure Sound (s : Session) : Prop extends s.AtRest, s.Kept

/--
Every session a host reaches is at rest, hands out entity ids in order, registers every instance
once under the name it carries, and lets the scheduler run at most the configured number of
calls a tick.
-/
theorem Reachable.sound {s : Session} (reachable : s.Reachable) : s.Sound := by
  induction reachable with
  | start settings platform => exact ⟨create_atRest settings platform, create_kept settings platform⟩
  | step request _ sound =>
    refine ⟨perform_session ((answer_keeps request).ends _ (fun _ _ kept => kept sound.toAtRest)
      fun _ _ _ kept => kept sound.toAtRest), ?_⟩
    exact perform_session ((answer_kept request).ends _ (fun _ _ kept => kept sound.toKept)
      fun _ _ _ kept => kept sound.toKept)

end Session

end GameScript

import GameScript.Proofs.Agenda
import GameScript.Proofs.Invariants

/-!
# A tick, phase by phase

A tick that returns does its work in phases, each on the session the last one
left.  It moves the session's clock and the scheduler's by the step; it pops
the due calls once, at most the configured number, and gives each its turn in
the order they were popped (`callbackTurn`); it gives every instance that is
active after the callbacks one turn at `update`, in creation order, looking
again at its activity when its turn comes (`updateTurn`); it ages the
entities still active; and at its end it takes out of the table exactly the
entities destroyed during the tick and counts the tick.  Until that end no
entity leaves the table and no instance the registry.

`tick_runs_in_phases` says so of a tick from every session a host reaches.
Its parts: the callback loop is `callbackTurn` over the popped calls
(`runDueCallbacks_eq`); the update loop, which finds each instance again by
name, is `updateTurn` over the serial numbers, since the registry names each
instance once and a running script keeps the registry (`updateAll_run`); and
the end of the tick sees the waiting entities as exactly the destroyed ones
(`commit_entities`), because inside a tick an entity of the table is
inactive only while it waits.
-/

namespace GameScript

namespace Scheduler

/--
A drain hands out no more calls than its limit, beyond those it was given.
Each step hands out one more call at most, and there was room for it.
-/
theorem length_drain_le (now : Float) (limit : Int) :
    ∀ (fuel : Nat) (heap : Array Callback) (due : List Callback),
      (drain now limit fuel heap due).1.length ≤ max due.length limit.toNat
  | 0, _, _ => Nat.le_max_left _ _
  | fuel + 1, heap, due => by
    rw [drain]
    split
    · next root _ =>
      by_cases taken : (root.time <= now && (due.length : Int) < limit) = true
      · rw [if_pos taken]
        split
        · next c rest _ =>
          have room : (due.length : Int) < limit := by
            simp only [Bool.and_eq_true, decide_eq_true_eq] at taken
            exact taken.2
          have grown : (if c.cancelled then due else due ++ [c]).length ≤ due.length + 1 := by
            split <;> simp
          have more := length_drain_le now limit fuel rest (if c.cancelled then due else due ++ [c])
          omega
        · exact Nat.le_max_left _ _
      · rw [if_neg taken]
        exact Nat.le_max_left _ _
    · exact Nat.le_max_left _ _

/-- One pop hands out at most the scheduler's limit of calls. -/
theorem length_popDue_le (s : Scheduler) : s.popDue.1.length ≤ s.perTick.toNat := by
  have drained := length_drain_le s.now s.perTick s.queue.size s.queue []
  simpa [popDue] using drained

end Scheduler

attribute [ext] World

/-- What the end of a tick makes of an entity: one still active in the table is aged by the step, any other is out of the table. -/
def Entity.closeTick (step : Float) (e : Entity) : Entity :=
  if e.listed && e.active then { e with lifespan := e.lifespan + step } else { e with listed := false }

namespace Session

/-- The session a tick by the double `step` runs its callbacks from: inside the tick, with its clock and the scheduler's moved on by the step. -/
def started (s : Session) (step : Float) : Session :=
  { s with
    inTick := true
    time := s.time + step
    scheduler := { s.scheduler with now := s.scheduler.now + step } }

/--
The registry names each instance once, so a registered serial number is found
by its instance's name. Two entries of one name are one entry.
-/
theorem Named.lookup?_name {s : Session} (named : s.Named) {serial : Nat}
    (registered : serial ∈ s.registry.map (·.2)) : s.lookup? (s.component serial).name = some serial := by
  obtain ⟨p, member, rfl⟩ := List.mem_map.1 registered
  have name := (named.2 p member).2
  obtain ⟨q, found⟩ : ∃ q, s.registry.find? (·.1 == p.1) = some q :=
    Option.isSome_iff_exists.1 (List.find?_isSome.2 ⟨p, member, by simp⟩)
  have same : q.1 = p.1 := by simpa using List.find?_some found
  have : q = p := List.inj_on_of_nodup_map named.1 (List.mem_of_find?_eq_some found) member same
  simp [lookup?, name, found, this]

/-- The registry names each instance once, so it holds each serial number once. -/
theorem Named.nodup_serials {s : Session} (named : s.Named) : (s.registry.map (·.2)).Nodup := by
  refine List.Nodup.map_on (fun p member q other same => ?_) (List.Nodup.of_map _ named.1)
  have names : p.1 = q.1 := by
    rw [← (named.2 p member).2, ← (named.2 q other).2, same]
  exact Prod.ext names same

theorem Named.nodup_activeSerials {s : Session} (named : s.Named) : s.activeSerials.Nodup :=
  named.nodup_serials.filter _

end Session

namespace Sim

open Session

/-! ## The callback phase -/

/--
A due call's turn: it runs only for a registered, active instance that
defines its method.  A missing method is one warning; an unknown or inactive
instance is passed over.
-/
def callbackTurn (cb : Callback) : Sim Unit := do
  match (← get).lookup? cb.component with
  | none => pure ()
  | some serial =>
    let c ← component serial
    if c.active then
      match c.method? cb.method with
      | none => log .warning ("Unknown function: " ++ cb.method)
      | some m =>
        runMethod (hostFrames - 2) serial m cb.args
          ("Error in callback " ++ c.name ++ "." ++ cb.method)

/-- A loop that only runs an action on each element is that action on each in turn. -/
theorem forIn_yield_eq_forM {xs : List α} (f : α → Sim PUnit) :
    forIn xs PUnit.unit (fun a _ => do f a; pure (ForInStep.yield PUnit.unit)) = xs.forM f := by
  induction xs with
  | nil => rfl
  | cons x xs more =>
    simp only [List.forIn_cons, bind_assoc, pure_bind, more]
    rfl

/--
The callback phase pops the due calls once and gives each its turn, in the
order they were popped. The loop's body carries its `yield` into every branch
of the turn.
-/
theorem runDueCallbacks_eq : runDueCallbacks = (do
    let s ← get
    set { s with scheduler := s.scheduler.popDue.2 }
    s.scheduler.popDue.1.forM callbackTurn) := by
  unfold runDueCallbacks
  congr 1
  funext s
  rw [← forIn_yield_eq_forM]
  split
  next due rest popped =>
  simp only [popped, bind_pure_unit]
  congr 1
  funext _
  congr 1
  funext cb _
  simp only [callbackTurn, bind_assoc]
  congr 1
  funext v
  cases v.lookup? cb.component with
  | none => simp
  | some serial =>
    simp only [bind_assoc]
    congr 1
    funext c
    by_cases active : c.active
    · simp only [active, if_true]
      cases c.method? cb.method <;> simp
    · simp [active]

/-! ## The update phase -/

/-- An instance's turn in the update phase: if it is active when its turn comes and defines `update`, that runs with the step. -/
def updateTurn (frames : Nat) (dt : Number) (serial : Nat) : Sim Unit := do
  let c ← component serial
  if c.active then
    match c.method? "update" with
    | some m => runMethod frames serial m [dt.toValue] ("Error updating " ++ c.name)
    | none => pure ()

/-- Updating the instance registered under a name is that instance's turn. -/
theorem updateComponent_run {v : Session} {name : String} {serial : Nat}
    (found : v.lookup? name = some serial) (named : (v.component serial).name = name)
    (frames : Nat) (dt : Number) :
    (updateComponent frames name dt).run v = (updateTurn frames dt serial).run v := by
  subst named
  simp only [updateComponent, updateTurn, EStateM.run_bind, EStateM.run_get, found]
  rfl

theorem updateTurn_evolves (frames : Nat) (dt : Number) (serial : Nat) :
    Keeps Evolves (fun _ => True) (updateTurn frames dt serial) := by
  unfold updateTurn
  refine Keeps.bind (evolves_steps.quietly (component_quiet (fun _ => True) serial)) fun c => ?_
  split
  · split
    · exact (evolves_runs frames).runMethod _ _ _ _
    · exact Keeps.pure _
  · exact Keeps.pure _

/--
The update phase finds each instance of its snapshot again by name; as the
registry names each instance once and running scripts keep the registry and
the names, that is each instance's turn, in creation order. Along the loop the
session evolves from where it started, so every name still finds its instance.
-/
theorem updateAll_run {u : Session} (named : u.Named) (frames : Nat) (dt : Number) :
    (updateAll frames dt).run u = (u.activeSerials.forM (updateTurn frames dt)).run u := by
  have turns : ∀ serials : List Nat, (∀ serial ∈ serials, serial ∈ u.registry.map (·.2)) →
      ∀ v, Evolves u v →
        (forIn serials PUnit.unit fun serial _ => do
            updateComponent frames (u.component serial).name dt
            pure (ForInStep.yield PUnit.unit)).run v =
          (forIn serials PUnit.unit fun serial _ => do
            updateTurn frames dt serial
            pure (ForInStep.yield PUnit.unit)).run v := by
    intro serials
    induction serials with
    | nil => intro _ _ _; rfl
    | cons serial rest more =>
      intro registered v evolves
      have found : v.lookup? (u.component serial).name = some serial := by
        rw [lookup?, evolves.registry]
        exact named.lookup?_name (registered serial (List.mem_cons_self ..))
      rw [List.forIn_cons, List.forIn_cons, EStateM.run_bind, EStateM.run_bind, EStateM.run_bind,
        EStateM.run_bind, updateComponent_run found (evolves.names serial) frames dt]
      cases ran : (updateTurn frames dt serial).run v with
      | ok _ w =>
        exact more (fun other member => registered other (List.mem_cons_of_mem _ member)) w
          (evolves.trans ((updateTurn_evolves frames dt serial).of_run ran))
      | error _ _ => rfl
  unfold updateAll
  rw [EStateM.run_bind, EStateM.run_get]
  dsimp only
  rw [bind_pure_unit, ← forIn_yield_eq_forM]
  exact turns u.activeSerials (fun _ member => (List.mem_filter.1 member).1) u (.refl u)

/-! ## The end of a tick -/

/--
The end of a tick: every entity of the table still active is aged by the step
and stays, every other one is out of the table. Inside a tick an entity of the
table is inactive only while it waits for this end, and a waiting entity is
inactive. An entity out of the table already changes nothing.
-/
theorem commit_entities {u : Session} (ticking : u.Ticking) (retired : u.Retired) (step : Float) :
    (u.pendingEntities.foldl World.remove (u.world.age step)).entities =
      u.world.entities.map (Entity.closeTick step) := by
  rw [World.foldl_remove]
  simp only [World.age, List.map_map]
  refine List.map_congr_left fun e member => ?_
  cases listed : e.listed
  · have unlisted : { e with listed := false } = e := by cases e; simp_all
    by_cases waiting : e.id ∈ u.pendingEntities <;> simp [Entity.closeTick, listed, waiting, unlisted]
  · cases active : e.active
    · have waiting : e.id ∈ u.pendingEntities :=
        (ticking.settled e member listed).resolve_left (by simp [active])
      simp [Entity.closeTick, listed, active, waiting]
    · have free : e.id ∉ u.pendingEntities := fun waiting => by
        have inactive := (retired e.id waiting).2 e.outline (List.mem_map_of_mem member) rfl
        simp [Entity.outline, active] at inactive
      simp [Entity.closeTick, listed, active, free]

/-- The end of a tick keeps the next id: the waiting entities only leave the table. -/
theorem commit_world {u : Session} (ticking : u.Ticking) (retired : u.Retired) (step : Float) :
    u.pendingEntities.foldl World.remove (u.world.age step) =
      { u.world with entities := u.world.entities.map (Entity.closeTick step) } :=
  World.ext (commit_entities ticking retired step)
    (World.foldl_remove_nextId u.pendingEntities (u.world.age step))

/-! ## The whole tick -/

/--
A tick by a number that is a double ends well only through its phases: the
callbacks from the started session, the updates from where they ended, then
the end of the tick, which unflags it, takes out what waits and counts it. A
fault inside the tick would end it in a fault, whatever its end does.
-/
theorem tick_run {s t : Session} {dt : Number} {step : Float} (converted : dt.toFloat = .ok step)
    (ticked : (tick (some dt)).run s = .ok () t) :
    ∃ called updated : Session,
      runDueCallbacks.run (s.started step) = .ok () called ∧
      (updateAll (hostFrames - 3) dt).run called = .ok () updated ∧
      t = { updated with
        world := updated.pendingEntities.foldl World.remove (updated.world.age step)
        registry := updated.pendingComponents.foldl (fun r name => r.eraseP (·.1 == name))
          updated.registry
        inTick := false
        pendingEntities := []
        pendingComponents := []
        ticks := updated.ticks + 1 } := by
  have ends : Ends (tick (some dt)) s (fun _ u => u = t) fun _ _ => False := ends_of_run ticked rfl
  have never : ∀ {m : Sim PUnit} (_ : Fault) u, ¬ Ends m u (fun _ _ => False) fun _ _ => False :=
    fun _ _ ends => ends.elim (fun _ _ => id) fun _ _ => id
  rw [tick, ends_bind, ends_get] at ends
  dsimp only [Option.getD] at ends
  rw [ends_bind, ends_modify, ends_bind, ends_tryFinally, ends_bind, ends_ofExcept] at ends
  replace ends := ends.1 step converted
  rw [ends_bind, ends_modify, ends_bind, ends_get, ends_bind, ends_ofExcept,
    Scheduler.advance_of_toFloat converted] at ends
  replace ends := ends.1 _ rfl
  rw [ends_bind, ends_modify, ends_bind] at ends
  obtain ⟨_, called, callbacks, ends⟩ := ends.answers never
  rw [ends_bind] at ends
  obtain ⟨_, updated, updates, ends⟩ := ends.answers never
  simp only [ends_modify, ends_bind, commitRemovals] at ends
  exact ⟨called, updated, callbacks, updates, ends.symm⟩

/--
A tick from `s` by `dt`, the double `step`, ending in `t`, read phase by
phase through `called`, the session after the callbacks, and `updated`, the
session after the updates.
-/
structure TickPhases (s : Session) (dt : Number) (step : Float) (called updated t : Session) :
    Prop where
  /-- One pop hands out at most the configured number of calls. -/
  limited : (s.started step).scheduler.popDue.1.length ≤ s.settings.maxCallbacksPerTick
  /-- The popped calls take their turns one after another, in the order they were popped. -/
  callbacks : ((s.started step).scheduler.popDue.1.forM callbackTurn).run
    { s.started step with scheduler := (s.started step).scheduler.popDue.2 } = .ok () called
  /-- The instances active after the callbacks take their turns once each, in creation order. -/
  once : called.activeSerials.Nodup
  updates : (called.activeSerials.forM (updateTurn (hostFrames - 3) dt)).run called = .ok () updated
  /-- Until the end no instance leaves the registry and no entity the table. -/
  registry : updated.registry = s.registry
  staying : ∀ id, updated.world.standing id = .gone → s.world.standing id = .gone
  /-- The end ages the active entities, takes the destroyed ones out and counts the tick. -/
  close : t = { updated with
    world := { updated.world with entities := updated.world.entities.map (Entity.closeTick step) }
    inTick := false
    pendingEntities := []
    ticks := s.ticks + 1 }

/--
A tick from a session a host reaches, by a number that is a double, that
returns: it moves both clocks by the step, gives the calls of one pop their
turns in the order they were popped, gives each instance active after them one
turn at `update` in creation order, and only then ages the active entities and
takes out of the table exactly those destroyed during the tick, counting it.
When the callbacks start nothing waits and both clocks read alike; each phase
runs scripts only, and scripts leave the count of ticks with nothing waiting
to be unregistered.
-/
theorem tick_runs_in_phases {s t : Session} (reachable : s.Reachable) {dt : Number} {step : Float}
    (converted : dt.toFloat = .ok step) (ticked : (tick (some dt)).run s = .ok () t) :
    ∃ called updated, TickPhases s dt step called updated t := by
  obtain ⟨called, updated, callbacks, updates, rfl⟩ := tick_run converted ticked
  have sound := reachable.sound
  have ticking : (s.started step).Ticking :=
    { sound.start with clock := by simp [started, sound.clock] }
  have retired : (s.started step).Retired := fun id waiting => by
    simp [started, sound.pendingEntities] at waiting
  have firstSteady := runDueCallbacks_keeps.of_run callbacks
  have firstEvolves := runDueCallbacks_evolves.of_run callbacks
  have namedCalled := Named.of_evolves firstEvolves sound.named
  have evolves := firstEvolves.trans ((updateAll_evolves _ _).of_run updates)
  have ticked := (firstSteady.trans ((updateAll_keeps _ _).of_run updates)).ticking ticking
  rw [updateAll_run namedCalled] at updates
  rw [runDueCallbacks_eq, EStateM.run_bind, EStateM.run_get] at callbacks
  dsimp only at callbacks
  rw [EStateM.run_bind, EStateM.run_set] at callbacks
  refine ⟨called, updated, ⟨?_, callbacks, namedCalled.nodup_activeSerials, updates,
    evolves.registry, evolves.staying rfl, ?_⟩⟩
  · have popped := Scheduler.length_popDue_le (s.started step).scheduler
    rwa [show (s.started step).scheduler.perTick = s.settings.maxCallbacksPerTick from
      sound.limited, Int.toNat_natCast] at popped
  · rw [commit_world ticked (evolves.retired sound.numbered retired), ticked.pendingComponents,
      show updated.ticks = s.ticks from evolves.ticks, List.foldl_nil]

/-- A fresh session ticked by zero: the hypotheses can all be met. -/
theorem fresh_tick_runs_in_phases :
    ∃ t called updated, (Session.create {} default).Reachable ∧ (Number.float 0.0).toFloat = .ok 0.0 ∧
      (tick (some (.float 0.0))).run (Session.create {} default) = .ok () t ∧
      TickPhases (Session.create {} default) (.float 0.0) 0.0 called updated t := by
  obtain ⟨t, ticked⟩ : ∃ t, (tick (some (.float 0.0))).run (Session.create {} default) = .ok () t :=
    ⟨_, rfl⟩
  obtain ⟨called, updated, phases⟩ := tick_runs_in_phases (.start {} default) rfl ticked
  exact ⟨t, called, updated, .start {} default, rfl, ticked, phases⟩

end Sim

namespace Scheduler

/-
Why the phases above give the callbacks their turns in the order a pop hands
them out, and not in due order: with the clock at negative infinity an
infinite delay makes a call due at a not-a-number, and beside it three calls
due at negative infinity pop as sequence 2, 4, 3.
-/
example :
    let waiting := ([Request.schedule (.int 1) "A" "m" [.int 0], .advance (.float (-1e308)),
      .advance (.float (-1e308)), .schedule (.float (1.0 / 0.0)) "A" "m" [.int 1],
      .schedule (.int 0) "A" "m" [.int 2], .schedule (.int 0) "A" "m" [.int 3],
      .schedule (.int 0) "A" "m" [.int 4], .advance (.float 0.0)].foldl
        (fun s r => (s.handle r).2) (create 100))
    waiting.popDue.1.map (·.sequence) = [2, 4, 3] ∧
      waiting.popDue.1.all (·.time == waiting.now) = true := by
  decide +kernel

end Scheduler

end GameScript

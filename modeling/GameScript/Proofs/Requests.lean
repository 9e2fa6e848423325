import GameScript.Session.Step
import GameScript.Proofs.Runs

/-!
# Host requests: what they raise, and the session at rest

A host drives a session with requests. Between two requests the session is
*at rest*: no tick runs, no entity or component waits for removal, no entity
is being destroyed, no method runs, every entity of the table is active, and
the scheduler's clock reads the session's time. Every request, whether it
answers or fails, hands a session at rest back at rest, so every session a
host can reach is at rest.

A tick leaves the rest for a while: it sets its flag, moves both clocks by
the same step, and lets destroyed entities wait in the table; at its end,
whatever happened inside, it clears the flag and takes them out.

The requests that run scripts for the host (loading, ticks, updates, method
calls, broadcasts) report what a script does wrong in the log. Only
arithmetic on the values a script computes can still make them fail: an
integer beyond the doubles where a double is needed, a quotient of integers
beyond them, or an integer too long to write.
-/

namespace GameScript

/-- Taking out of the table the entities of each id in a list unlists exactly those. -/
theorem World.foldl_remove (ids : List Nat) (w : World) :
    (ids.foldl World.remove w).entities =
      w.entities.map fun e => if e.id ∈ ids then { e with listed := false } else e := by
  induction ids generalizing w with
  | nil => simp
  | cons id ids more =>
    rw [List.foldl_cons, more]
    simp only [World.remove, World.modify, List.map_map]
    refine List.map_congr_left fun e _ => ?_
    by_cases same : e.id = id <;> simp [same]

namespace Scheduler

theorem popDue_now (s : Scheduler) (limit : Option Int) : (s.popDue limit).2.now = s.now := rfl

theorem cancel_now (s : Scheduler) (id : Nat) : (s.cancel id).2.now = s.now := by
  unfold cancel
  split <;> rfl

/-- Moving the clock by a number that is a double moves it by that double. -/
theorem advance_of_toFloat {s : Scheduler} {dt : Number} {step : Float}
    (converted : dt.toFloat = .ok step) : s.advance dt = .ok { s with now := s.now + step } := by
  rw [advance, converted]
  rfl

end Scheduler

namespace Session

/-- A session between host requests. -/
structure AtRest (s : Session) : Prop where
  inTick : s.inTick = false
  pendingEntities : s.pendingEntities = []
  pendingComponents : s.pendingComponents = []
  destroying : s.destroying = []
  callStack : s.callStack = []
  active : ∀ e ∈ s.world.table, e.active = true
  clock : s.scheduler.now = s.time

/-- A session inside a tick: as at rest, except that destroyed entities may wait in the table. -/
structure Ticking (s : Session) : Prop where
  inTick : s.inTick = true
  pendingComponents : s.pendingComponents = []
  destroying : s.destroying = []
  callStack : s.callStack = []
  settled : s.Settled
  clock : s.scheduler.now = s.time

theorem AtRest.settled {s : Session} (rest : s.AtRest) : s.Settled := fun e member listed =>
  Or.inl (rest.active e (List.mem_filter.mpr ⟨member, listed⟩))

theorem Steady.atRest {s t : Session} (steady : Steady s t) (rest : s.AtRest) : t.AtRest where
  inTick := steady.inTick.trans rest.inTick
  pendingEntities := (steady.pendingEntities rest.inTick).trans rest.pendingEntities
  pendingComponents := steady.pendingComponents.trans rest.pendingComponents
  destroying := steady.destroying.trans rest.destroying
  callStack := steady.callStack.trans rest.callStack
  active e member := by
    obtain ⟨member, listed⟩ := List.mem_filter.mp member
    have waiting := steady.settled rest.settled e member listed
    rwa [(steady.pendingEntities rest.inTick).trans rest.pendingEntities, List.mem_nil_iff,
      or_false] at waiting
  clock := by rw [steady.now, steady.time, rest.clock]

theorem Steady.ticking {s t : Session} (steady : Steady s t) (ticking : s.Ticking) : t.Ticking where
  inTick := steady.inTick.trans ticking.inTick
  pendingComponents := steady.pendingComponents.trans ticking.pendingComponents
  destroying := steady.destroying.trans ticking.destroying
  callStack := steady.callStack.trans ticking.callStack
  settled := steady.settled ticking.settled
  clock := by rw [steady.now, steady.time, ticking.clock]

/-- Entering a tick from rest. -/
theorem AtRest.start {s : Session} (rest : s.AtRest) : Ticking { s with inTick := true } where
  inTick := rfl
  pendingComponents := rest.pendingComponents
  destroying := rest.destroying
  callStack := rest.callStack
  settled := rest.settled
  clock := rest.clock

/-- Ageing the active entities of the table keeps a tick's session as it was. -/
theorem Ticking.age {s : Session} (ticking : s.Ticking) (step : Float) :
    Ticking { s with world := s.world.age step } where
  inTick := ticking.inTick
  pendingComponents := ticking.pendingComponents
  destroying := ticking.destroying
  callStack := ticking.callStack
  settled := ticking.settled.map _ rfl (fun e => by split <;> exact ⟨rfl, rfl, rfl⟩) rfl
  clock := ticking.clock

/--
Ending a tick clears its flag and takes the waiting entities and components
out: the session is at rest again. An entity still listed did not wait for
removal, so it was active.
-/
theorem Ticking.close {s : Session} (ticking : s.Ticking) (ticks : Nat) :
    AtRest { s with
      inTick := false
      world := s.pendingEntities.foldl World.remove s.world
      registry := s.pendingComponents.foldl (fun r name => r.eraseP (·.1 == name)) s.registry
      pendingEntities := []
      pendingComponents := []
      ticks := ticks } where
  inTick := rfl
  pendingEntities := rfl
  pendingComponents := rfl
  destroying := ticking.destroying
  callStack := ticking.callStack
  active e tabled := by
    obtain ⟨kept, listed⟩ : e ∈ (s.pendingEntities.foldl World.remove s.world).entities ∧
      e.listed = true := List.mem_filter.mp tabled
    rw [World.foldl_remove, List.mem_map] at kept
    obtain ⟨e, present, rfl⟩ := kept
    by_cases waiting : e.id ∈ s.pendingEntities
    · simp [waiting] at listed
    · simp only [waiting, if_false] at listed ⊢
      exact (ticking.settled e present listed).resolve_right waiting
  clock := ticking.clock

end Session

namespace Sim

open Session

/-- The faults of arithmetic on the values scripts compute. -/
def Arithmetic (fault : Fault) : Prop := fault.isArithmetic

theorem Escapes.isArithmetic {low frames : Nat} {fault : Fault} (enough : low ≤ frames)
    (escapes : Escapes low frames fault) : fault.isArithmetic :=
  escapes.resolve_right fun ⟨few, _⟩ => absurd few (Nat.not_lt.mpr enough)

/-- What making an instance raises: arithmetic in a field's initial value, and a taken name when one is asked for. -/
def InstanceFault (instanceName : Option String) (fault : Fault) : Prop :=
  fault.isArithmetic ∨ ∃ n, instanceName = some n ∧ fault = .componentExists n

theorem parse_keeps (E : Fault → Prop) (source : String) : Keeps Steady E (parse source) := by
  unfold parse
  exact Keeps.bind (Keeps.forIn fun _ _ => Keeps.bind (log_keeps _ _ _ _) fun _ => Keeps.pure _)
    fun _ => Keeps.pure _

/-- A field takes its initial value, or its zero when that runs out of host stack. -/
theorem instantiate_keeps (d : Declaration) (instanceName : Option String) (frames : Nat) :
    Keeps Steady (InstanceFault instanceName) (instantiate d instanceName frames) := by
  intro s
  rw [instantiate, ends_bind, ends_get]
  extract_lets name serial make
  have made : ∀ r, Ends (make r) s (fun _ t => Steady s t)
      (fun fault t => InstanceFault instanceName fault ∧ Steady s t) := by
    intro r
    simp only [make]
    rw [ends_bind, ends_set]
    refine (Keeps.bind (Keeps.forIn fun fd _ => ?_) fun _ => ?_).after
      (Steady.of_frame rfl rfl rfl rfl rfl rfl rfl rfl)
    · split
      · exact Keeps.bind (Keeps.pure _) fun _ =>
          Keeps.bind (modifyComponent_keeps _ _ _) fun _ => Keeps.pure _
      · refine Keeps.bind (Keeps.tryCatch ((safe frames).evaluateTop [] (some serial) _)
          fun fault raised => ?_) fun _ => Keeps.bind (modifyComponent_keeps _ _ _) fun _ => Keeps.pure _
        split
        · exact Keeps.bind (log_keeps _ _ _ _) fun _ => Keeps.pure _
        · exact Keeps.throw (Or.inl (raised.resolve_left ‹_›))
    · refine Keeps.bind (Keeps.modify fun _ => Steady.of_frame rfl rfl rfl rfl rfl rfl rfl rfl)
        fun _ => ?_
      exact Keeps.bind (note_keeps _ _ _ _) fun _ => Keeps.bind (log_keeps _ _ _ _) fun _ => Keeps.pure _
  split
  · split
    · exact Keeps.throw_bind (Or.inr ⟨_, rfl, rfl⟩) s
    · exact made ()
  · exact made ()

/-- A method run for the host with at least one frame fails only by arithmetic. -/
theorem hostRun_keeps {frames : Nat} (enough : 1 ≤ frames) (serial : Nat) (m : MethodDecl)
    (args : List Value) (pfx : String) :
    Keeps Steady Arithmetic (runMethod frames serial m args pfx) :=
  ((safe frames).runMethod serial m args pfx).weaken fun _ escapes => escapes.isArithmetic enough

/--
Loading keeps a session steady: each declaration gives an instance (no name is
asked for), maybe its entity, then its `init`.
-/
theorem load_keeps (source : String) (positions : List (String × Vec2)) :
    Keeps Steady Arithmetic (load source positions) := by
  unfold load
  refine Keeps.bind (parse_keeps _ source) fun parsed => ?_
  obtain ⟨parsed, scanErrors⟩ := parsed
  dsimp -zeta only
  split
  · exact Keeps.bind (log_keeps _ _ _ _) fun _ => Keeps.pure _
  refine Keeps.bind (Keeps.forIn fun d names => ?_) fun _ => Keeps.pure _
  refine Keeps.bind ((instantiate_keeps d none _).weaken fun _ raised => ?_) fun serial => ?_
  · rcases raised with arithmetic | ⟨_, named, _⟩
    · exact arithmetic
    · cases named
  refine Keeps.bind (component_keeps _ serial) fun c => ?_
  refine get_bind_keeps fun u => ?_
  extract_lets grown next startUp requested
  have started : ∀ position, Keeps Steady Arithmetic (startUp position) := by
    intro position
    simp only [startUp]
    split
    · exact Keeps.bind (hostRun_keeps (by decide) _ _ _ _) fun _ => Keeps.pure _
    · exact Keeps.pure _
  split
  · refine Keeps.bind (((safe _).createEntity _ _ _).weaken fun _ escapes =>
      escapes.isArithmetic (by decide)) fun id => ?_
    exact get_bind_keeps fun _ => Keeps.bind (Keeps.pure _) started
  · exact Keeps.bind (Keeps.pure _) started

theorem updateComponent_keeps (frames : Nat) (name : String) (dt : Number) :
    Keeps Steady (Escapes 1 frames) (updateComponent frames name dt) := by
  unfold updateComponent
  refine get_bind_keeps fun s => ?_
  dsimp only
  split
  · exact Keeps.pure _
  · split
    · split
      · exact (safe frames).runMethod _ _ _ _
      · exact Keeps.pure _
    · exact Keeps.pure _

theorem updateAll_keeps (frames : Nat) (dt : Number) :
    Keeps Steady (Escapes 1 frames) (updateAll frames dt) := by
  unfold updateAll
  refine get_bind_keeps fun _ => Keeps.bind (Keeps.forIn fun _ _ => ?_) fun _ => Keeps.pure _
  exact Keeps.bind (updateComponent_keeps frames _ dt) fun _ => Keeps.pure _

/--
The callback phase keeps a session steady: taking the due calls off the queue
leaves its clock.
-/
theorem runDueCallbacks_keeps : Keeps Steady Arithmetic runDueCallbacks := by
  intro s
  rw [runDueCallbacks, ends_bind, ends_get]
  dsimp only
  rw [ends_bind, ends_set]
  refine (Keeps.bind (Keeps.forIn fun cb _ => ?_) fun _ => Keeps.pure _).after
    (Steady.of_frame rfl rfl rfl rfl (Scheduler.popDue_now _ _) rfl rfl rfl)
  refine get_bind_keeps fun u => ?_
  split
  · exact Keeps.pure _
  · refine Keeps.bind (component_keeps _ _) fun c => ?_
    split
    · split
      · exact Keeps.bind (log_keeps _ _ _ _) fun _ => Keeps.pure _
      · exact Keeps.bind (hostRun_keeps (by decide) _ _ _ _) fun _ => Keeps.pure _
    · exact Keeps.pure _

theorem call_keeps (name method : String) (args : List Value) :
    Keeps Steady Arithmetic (call name method args) := by
  unfold call
  refine get_bind_keeps fun s => ?_
  dsimp only
  split
  · exact Keeps.pure _
  · split
    · exact Keeps.pure _
    · exact Keeps.bind (hostRun_keeps (by decide) _ _ _ _) fun _ => Keeps.pure _

theorem destroyComponent_keeps (E : Fault → Prop) (name : String) :
    Keeps Steady E (destroyComponent name) := by
  unfold destroyComponent
  refine get_bind_keeps fun s => ?_
  split
  · exact Keeps.pure _
  · refine Keeps.bind (modifyComponent_keeps _ _ _) fun _ => ?_
    exact Keeps.bind (log_keeps _ _ _ _) fun _ => Keeps.pure _

theorem createComponent_keeps (source : String) (index : Int) (instanceName : Option String) :
    Keeps Steady (fun fault => InstanceFault instanceName fault ∨ fault = .indexOutOfRange)
      (createComponent source index instanceName) := by
  unfold createComponent
  refine Keeps.bind (parse_keeps _ source) fun parsed => ?_
  dsimp only
  split
  · exact Keeps.pure _
  · split
    · exact Keeps.throw (Or.inr rfl)
    · refine Keeps.bind ((instantiate_keeps _ instanceName _).weaken fun _ => Or.inl) fun serial => ?_
      exact Keeps.bind (component_keeps _ serial) fun _ => Keeps.pure _

theorem evaluateText_keeps (source : String) (name : Option String) (scope : Scope) :
    Keeps Steady ExprFault (evaluateText source name scope) := by
  unfold evaluateText
  split
  · exact Keeps.pure _
  · refine get_bind_keeps fun s => ?_
    refine Keeps.bind (Keeps.mapM fun _ => Keeps.bind (share_keeps _ _) fun _ => Keeps.pure _)
      fun shared => ?_
    exact Keeps.bind ((safe _).evaluateTop _ _ _) fun _ => Keeps.pure _

/-- Scheduling keeps a session steady: the call goes into the queue, whose clock stays. -/
theorem schedule_keeps (delay : Number) (name method : String) (args : List Value) :
    Keeps Steady Arithmetic (schedule delay name method args) := by
  intro s
  rw [schedule, ends_bind, ends_get]
  dsimp only
  rw [ends_bind, ends_set]
  refine (Keeps.ofExcept_bind (Scheduler.schedule_raises Arithmetic rfl _ _ _ _ _) fun c =>
    Keeps.bind (note_keeps _ _ _ _) fun _ => Keeps.pure _).after ?_
  exact Steady.of_frame rfl rfl rfl rfl (Scheduler.schedule_now _ _ _ _ _) rfl rfl rfl

theorem cancel_keeps (E : Fault → Prop) (id : Nat) : Keeps Steady E (cancel id) := by
  intro s
  rw [cancel, ends_bind, ends_get]
  dsimp only
  rw [ends_bind, ends_set]
  refine (Keeps.pure _).after ?_
  exact Steady.of_frame rfl rfl rfl rfl (Scheduler.cancel_now _ _) rfl rfl rfl

theorem subscribe_keeps (E : Fault → Prop) (event handler : String) :
    Keeps Steady E (subscribe event handler) := by
  unfold subscribe
  refine Keeps.bind (Keeps.modify fun _ => Steady.of_frame rfl rfl rfl rfl rfl rfl rfl rfl) fun _ => ?_
  exact note_keeps _ _ _ _

theorem clearLogs_keeps (E : Fault → Prop) : Keeps Steady E clearLogs :=
  Keeps.modify fun _ => Steady.of_frame rfl rfl rfl rfl rfl rfl rfl rfl

/-! ## Requests that leave the rest for a while -/

/-- A step that keeps `Steady` keeps a session at rest. -/
theorem Keeps.rests {α : Type} {E E' : Fault → Prop} {m : Sim α} (keeps : Keeps Steady E m)
    (widen : ∀ fault, E fault → E' fault) : Keeps (Preserves AtRest) E' m :=
  (keeps.relax fun _ _ steady => steady.atRest).weaken widen

/-- A step that keeps `Steady` keeps a session inside a tick as it was. -/
theorem Keeps.ticks {α : Type} {E E' : Fault → Prop} {m : Sim α} (keeps : Keeps Steady E m)
    (widen : ∀ fault, E fault → E' fault) : Keeps (Preserves Ticking) E' m :=
  (keeps.relax fun _ _ steady => steady.ticking).weaken widen

/-- Outside a tick a component is unregistered at once. -/
theorem removeComponent_rests (E : Fault → Prop) (name : String) :
    Keeps (Preserves AtRest) E (removeComponent name) := by
  intro s
  rw [removeComponent, ends_bind, ends_get]
  dsimp only
  split
  · exact Keeps.pure _ s
  · split
    · rw [ends_bind, ends_set]
      exact fun rest => absurd rest.inTick (by simp [*])
    · rw [ends_bind, ends_set]
      exact Steady.atRest (s := s) (Steady.of_frame rfl rfl rfl rfl rfl rfl rfl rfl)

/-- Starting over keeps a session at rest: the world is empty and both clocks read zero. -/
theorem reset_rests (E : Fault → Prop) : Keeps (Preserves AtRest) E reset := by
  unfold reset
  refine Keeps.bind (Keeps.modify fun s rest => ?_) fun _ => ?_
  · exact ⟨rest.inTick, rfl, rfl, rest.destroying, rest.callStack, by simp [World.table], rfl⟩
  · refine Keeps.bind ((log_keeps _ _ _ _).rests fun _ => id) fun _ => ?_
    exact (note_keeps _ _ _ _).rests fun _ => id

/--
A tick moves both clocks by its step, runs the due callbacks and the updates
with destroyed entities waiting in the table, and at its end, whatever
happened, takes them out. The session's clock and the scheduler's move by the
same step, and the end of the tick is reached from inside it on both outcomes.
-/
theorem tick_rests (dt : Option Number) : Keeps (Preserves AtRest) Arithmetic (tick dt) := by
  intro s
  rw [tick, ends_bind, ends_get]
  dsimp only
  rw [ends_bind, ends_modify, ends_bind, ends_tryFinally]
  refine Keeps.ends (R := Preserves Ticking) (E := Arithmetic) ?body _ (fun _ t ticking => ?_) fun _ t raised ticking => ?_
  case body =>
    intro u
    rw [ends_bind, ends_ofExcept]
    refine ⟨fun step converted => ?_, fun fault failed =>
      ⟨Number.toFloat_raises Arithmetic rfl _ fault failed, id⟩⟩
    rw [ends_bind, ends_modify, ends_bind, ends_get, ends_bind, ends_ofExcept,
      Scheduler.advance_of_toFloat converted]
    refine ⟨fun scheduler advanced => ?_, fun _ failed => nomatch failed⟩
    cases advanced
    rw [ends_bind, ends_modify]
    refine (Keeps.bind (runDueCallbacks_keeps.ticks fun _ => id) fun _ =>
      Keeps.bind ((updateAll_keeps _ _).ticks fun _ escapes => escapes.isArithmetic (by decide))
        fun _ => Keeps.modify fun v ticking => ticking.age step).after fun ticking => ?_
    exact { ticking with clock := by simp [ticking.clock] }
  all_goals simp only [ends_bind, ends_modify, commitRemovals]
  · exact fun rest => (ticking rest.start).close _
  · exact ⟨raised, fun rest => (ticking rest.start).close _⟩

theorem repeatTicks_rests (dt : Option Number) (n : Nat) :
    Keeps (Preserves AtRest) Arithmetic (repeatTicks dt n) := by
  induction n with
  | zero => exact Keeps.pure _
  | succ n more =>
    rw [repeatTicks]
    exact Keeps.bind (tick_rests dt) fun _ => more

end Sim

/-- The requests that run scripts for the host: loading, ticks, updates, method calls and broadcasts. -/
def Request.runsScripts : Request → Bool
  | .load .. | .tick .. | .ticks .. | .update .. | .updateAll .. | .call .. | .broadcast .. => true
  | _ => false

namespace Sim

open Session

/-- Answering a request keeps a session at rest; a request that runs scripts fails only by arithmetic. -/
theorem answer_keeps (request : Request) :
    Keeps (Preserves AtRest) (fun fault => request.runsScripts → Arithmetic fault)
      (answer request) := by
  unfold answer
  refine get_bind_keeps fun s => ?_
  dsimp only
  have scripted : ∀ fault, Arithmetic fault → (true = true → Arithmetic fault) := fun _ a _ => a
  have quiet : ∀ {E : Fault → Prop} fault, E fault → (false = true → Arithmetic fault) :=
    fun _ _ => nofun
  cases request with
  | load => exact Keeps.bind ((load_keeps _ _).rests scripted) fun _ => Keeps.pure _
  | tick => exact Keeps.bind ((tick_rests _).weaken scripted) fun _ => Keeps.pure _
  | ticks => exact Keeps.bind ((repeatTicks_rests _ _).weaken scripted) fun _ => Keeps.pure _
  | call => exact Keeps.bind ((call_keeps _ _ _).rests scripted) fun _ => Keeps.pure _
  | update =>
    refine Keeps.bind ((updateComponent_keeps _ _ _).rests fun _ escapes _ => ?_) fun _ => Keeps.pure _
    exact escapes.isArithmetic (by decide)
  | updateAll =>
    refine Keeps.bind ((updateAll_keeps _ _).rests fun _ escapes _ => ?_) fun _ => Keeps.pure _
    exact escapes.isArithmetic (by decide)
  | broadcast =>
    refine Keeps.bind (((safe _).broadcast _ _).rests fun _ escapes _ => ?_) fun _ => Keeps.pure _
    exact escapes.isArithmetic (by decide)
  | subscribe => exact Keeps.bind ((subscribe_keeps (fun _ => False) _ _).rests quiet) fun _ => Keeps.pure _
  | createEntity =>
    refine Keeps.bind (((safe _).createEntity _ _ _).rests quiet) fun _ => ?_
    exact get_bind_keeps fun _ => Keeps.pure _
  | destroyEntity =>
    exact Keeps.bind (((safe _).destroyEntity _).rests quiet) fun _ => Keeps.pure _
  | getEntity => exact Keeps.pure _
  | destroyComponent =>
    exact Keeps.bind ((destroyComponent_keeps (fun _ => False) _).rests quiet) fun _ => Keeps.pure _
  | removeComponent => exact Keeps.bind (removeComponent_rests _ _) fun _ => Keeps.pure _
  | createComponent =>
    refine Keeps.bind ((createComponent_keeps _ _ _).rests quiet) fun made => ?_
    split <;> exact Keeps.pure _
  | builtin => exact Keeps.bind (((safe _).callBuiltin _ _).rests quiet) fun _ => Keeps.pure _
  | evaluate =>
    refine Keeps.bind ((evaluateText_keeps _ _ _).rests quiet) fun _ => ?_
    split <;> exact Keeps.pure _
  | schedule => exact Keeps.bind ((schedule_keeps _ _ _ _).rests quiet) fun _ => Keeps.pure _
  | cancel =>
    dsimp only
    split
    · exact Keeps.pure _
    · exact Keeps.bind ((cancel_keeps (fun _ => False) _).rests quiet) fun _ => Keeps.pure _
  | logs => exact Keeps.pure _
  | clearLogs => exact Keeps.bind ((clearLogs_keeps (fun _ => False)).rests quiet) fun _ => Keeps.pure _
  | snapshot => exact Keeps.pure _
  | reset => exact Keeps.bind (reset_rests _) fun _ => Keeps.pure _
  | describe => exact Keeps.pure _
  | stats => exact Keeps.pure _

end Sim

/-! ## Sessions a host reaches -/

namespace Session

open Sim

/-- The sessions a host reaches: a fresh one, and whatever a request leaves of one it reached. -/
inductive Reachable : Session → Prop
  | start (settings : Settings) (platform : Platform) : Reachable (Session.create settings platform)
  | step {s : Session} (request : Request) : Reachable s → Reachable (s.perform request).2.1

theorem create_atRest (settings : Settings) (platform : Platform) :
    (Session.create settings platform).AtRest where
  inTick := rfl
  pendingEntities := rfl
  pendingComponents := rfl
  destroying := rfl
  callStack := rfl
  active _ tabled := nomatch tabled
  clock := rfl

/-- What holds of every end of answering a request holds of the session the request leaves. -/
theorem perform_session {s : Session} {request : Request} {P : Session → Prop}
    (ends : Ends (answer request) s (fun _ t => P t) (fun _ t => P t)) :
    P (s.perform request).2.1 := by
  unfold Ends at ends
  unfold perform
  split <;> rename_i answered <;> rw [answered] at ends <;> exact ends

/-- A request fails with a fault that answering it can raise. -/
theorem perform_raises {s : Session} {request : Request} {E : Fault → Prop}
    (ends : Ends (answer request) s (fun _ _ => True) (fun fault _ => E fault)) :
    Raises E (s.perform request).1 := by
  intro fault failed
  unfold Ends at ends
  unfold perform at failed
  split at failed
  · cases failed
  · rename_i answered
    rw [answered] at ends
    cases failed
    exact ends

/--
A request that runs scripts for the host (loading source, ticks, updates, method calls,
broadcasts) fails only by arithmetic on the values the scripts compute.
-/
theorem scripted_request_fails_only_by_arithmetic (s : Session) (request : Request)
    (scripted : request.runsScripts = true) : Raises Arithmetic (s.perform request).1 :=
  perform_raises ((answer_keeps request).ends s (fun _ _ _ => trivial)
    fun _ _ raised _ => raised scripted)

theorem fresh_tick_fails_only_by_arithmetic :
    (Request.tick none).runsScripts = true ∧
      Raises Arithmetic ((Session.create {} default).perform (.tick none)).1 :=
  ⟨rfl, scripted_request_fails_only_by_arithmetic _ _ rfl⟩

/--
Every session a host reaches is at rest, and a method run hands back the call stack it found,
whether it answers or fails.
-/
theorem reachable_at_rest_and_runs_restore_stack :
    (∀ s : Session, s.Reachable → s.AtRest) ∧
    (∀ frames serial m args s, Ends (executeMethod frames serial m args) s
      (fun _ t => t.callStack = s.callStack) (fun _ t => t.callStack = s.callStack)) ∧
    (∀ frames serial m args pfx s, Ends (runMethod frames serial m args pfx) s
      (fun _ t => t.callStack = s.callStack) (fun _ t => t.callStack = s.callStack)) := by
  refine ⟨fun s reachable => ?_, fun frames serial m args s => ?_,
    fun frames serial m args pfx s => ?_⟩
  · induction reachable with
    | start settings platform => exact create_atRest settings platform
    | step request _ rest =>
      exact perform_session ((answer_keeps request).ends _ (fun _ _ kept => kept rest)
        fun _ _ _ kept => kept rest)
  · exact ((safe frames).executeMethod serial m args).ends s (fun _ _ steady => steady.callStack)
      fun _ _ _ steady => steady.callStack
  · exact ((safe frames).runMethod serial m args pfx).ends s (fun _ _ steady => steady.callStack)
      fun _ _ _ steady => steady.callStack

theorem fresh_session_at_rest : (Session.create {} default).Reachable ∧ (Session.create {} default).AtRest :=
  ⟨.start {} default, reachable_at_rest_and_runs_restore_stack.1 _ (.start {} default)⟩

end Session

end GameScript

import GameScript.Proofs.Invariants

/-!
# Relations that every request of a host keeps

A host request runs scripts (which `Sim.StepsKeep` covers) and otherwise
changes a session in four ways: it leaves the instances alone (the clock, the
scheduler, the registry, the world, the logs), it deactivates an instance
(`destroyComponent`, and `removeComponent` inside a tick), it makes a new
instance (`instantiate`, for `load` and `createComponent`), and it starts over
(`reset`).

`Sim.HostKeeps R` asks of a preorder `R` on sessions that the first three keep
it. `HostKeeps.answer_keeps` then proves that every request but a reset keeps
`R`, whether it answers or fails, so each invariant of host requests is proved
once per kind of step.
-/

namespace GameScript

open Session

namespace Sim

/-- Every kind of step a host request takes, other than starting over, keeps `R`. -/
structure HostKeeps (R : Session → Session → Prop) : Prop where
  steps : StepsKeep R
  /-- A step that leaves the instances alone. -/
  still : ∀ s t, t.store = s.store → R s t
  /-- A step that deactivates one instance and changes nothing else of the instances. -/
  deactivate : ∀ s serial t,
    t.store = (s.modifyComponent serial fun c => { c with active := false }).store → R s t
  instantiate : ∀ d instanceName frames, Keeps R (fun _ => True) (instantiate d instanceName frames)

namespace HostKeeps

variable {R : Session → Session → Prop} (host : HostKeeps R)
include host

theorem modify_keeps {g : Session → Session} (same : ∀ s, (g s).store = s.store) :
    Keeps R (fun _ => True) (modify g) :=
  Keeps.modify fun s => host.still s _ (same s)

theorem note_keeps (level : LogLevel) (channel message : String) :
    Keeps R (fun _ => True) (note level channel message) :=
  host.modify_keeps fun _ => rfl

variable [IsPreorder Session R]

theorem parse_keeps (source : String) : Keeps R (fun _ => True) (parse source) := by
  unfold parse
  exact Keeps.bind (Keeps.forIn fun _ _ => Keeps.bind (host.steps.log_keeps _ _ _) fun _ =>
    Keeps.pure _) fun _ => Keeps.pure _

theorem load_keeps (source : String) (positions : List (String × Vec2)) :
    Keeps R (fun _ => True) (load source positions) := by
  unfold load
  refine Keeps.bind (host.parse_keeps source) fun parsed => ?_
  obtain ⟨parsed, scanErrors⟩ := parsed
  dsimp -zeta only
  split
  · exact Keeps.bind (host.steps.log_keeps _ _ _) fun _ => Keeps.pure _
  refine Keeps.bind (Keeps.forIn fun d names => ?_) fun _ => Keeps.pure _
  refine Keeps.bind (host.instantiate d none _) fun serial => ?_
  refine get_bind_keeps fun u => get_bind_keeps fun v => ?_
  extract_lets grown next startUp requested
  have started : ∀ position, Keeps R (fun _ => True) (startUp position) := by
    intro position
    simp only [startUp]
    split
    · exact Keeps.bind ((host.steps.runs _).runMethod _ _ _ _) fun _ => Keeps.pure _
    · exact Keeps.pure _
  split
  · refine Keeps.bind ((host.steps.runs _).createEntity _ _ _) fun id => ?_
    exact get_bind_keeps fun _ => Keeps.bind (Keeps.pure _) started
  · exact Keeps.bind (Keeps.pure _) started

theorem updateComponent_keeps (frames : Nat) (name : String) (dt : Number) :
    Keeps R (fun _ => True) (updateComponent frames name dt) := by
  unfold updateComponent
  refine get_bind_keeps fun s => ?_
  dsimp only
  split
  · exact Keeps.pure _
  · split
    · split
      · exact (host.steps.runs frames).runMethod _ _ _ _
      · exact Keeps.pure _
    · exact Keeps.pure _

theorem updateAll_keeps (frames : Nat) (dt : Number) :
    Keeps R (fun _ => True) (updateAll frames dt) := by
  unfold updateAll
  refine get_bind_keeps fun _ => Keeps.bind (Keeps.forIn fun _ _ => ?_) fun _ => Keeps.pure _
  exact Keeps.bind (host.updateComponent_keeps frames _ dt) fun _ => Keeps.pure _

/-- The callback phase keeps `R`: taking the due calls off the queue leaves the instances alone. -/
theorem runDueCallbacks_keeps : Keeps R (fun _ => True) runDueCallbacks := by
  intro s
  rw [runDueCallbacks, ends_bind, ends_get]
  dsimp only
  rw [ends_bind, ends_set]
  refine (Keeps.bind (Keeps.forIn fun cb _ => ?_) fun _ => Keeps.pure _).after (host.still _ _ rfl)
  refine get_bind_keeps fun u => ?_
  split
  · exact Keeps.pure _
  · refine Keeps.bind (host.steps.quietly (component_quiet (fun _ => True) _)) fun c => ?_
    split
    · split
      · exact Keeps.bind (host.steps.log_keeps _ _ _) fun _ => Keeps.pure _
      · exact Keeps.bind ((host.steps.runs _).runMethod _ _ _ _) fun _ => Keeps.pure _
    · exact Keeps.pure _

theorem tick_keeps (dt : Option Number) : Keeps R (fun _ => True) (tick dt) := by
  unfold tick
  refine get_bind_keeps fun s => ?_
  refine Keeps.bind (host.modify_keeps fun _ => rfl) fun _ => ?_
  refine Keeps.bind (Keeps.tryFinally ?_ ?_) fun _ => host.modify_keeps fun _ => rfl
  · refine Keeps.ofExcept_bind (fun _ _ => trivial) fun step => ?_
    refine Keeps.bind (host.modify_keeps fun _ => rfl) fun _ => ?_
    refine get_bind_keeps fun u => Keeps.ofExcept_bind (fun _ _ => trivial) fun scheduler => ?_
    refine Keeps.bind (host.modify_keeps fun _ => rfl) fun _ => ?_
    exact Keeps.bind host.runDueCallbacks_keeps fun _ => Keeps.bind (host.updateAll_keeps _ _)
      fun _ => host.modify_keeps fun _ => rfl
  · exact Keeps.bind (host.modify_keeps fun _ => rfl) fun _ => host.modify_keeps fun _ => rfl

theorem repeatTicks_keeps (dt : Option Number) (n : Nat) :
    Keeps R (fun _ => True) (repeatTicks dt n) := by
  induction n with
  | zero => exact Keeps.pure _
  | succ n more =>
    rw [repeatTicks]
    exact Keeps.bind (host.tick_keeps dt) fun _ => more

theorem call_keeps (name method : String) (args : List Value) :
    Keeps R (fun _ => True) (call name method args) := by
  unfold call
  refine get_bind_keeps fun s => ?_
  dsimp only
  split
  · exact Keeps.pure _
  · split
    · exact Keeps.pure _
    · exact Keeps.bind ((host.steps.runs _).runMethod _ _ _ _) fun _ => Keeps.pure _

theorem destroyComponent_keeps (name : String) :
    Keeps R (fun _ => True) (destroyComponent name) := by
  unfold destroyComponent
  refine get_bind_keeps fun s => ?_
  split
  · exact Keeps.pure _
  · refine Keeps.bind (Keeps.modify fun s => host.deactivate s _ _ rfl) fun _ => ?_
    exact Keeps.bind (host.steps.log_keeps _ _ _) fun _ => Keeps.pure _

/-- Removing a component deactivates it inside a tick, and only unregisters it outside one. -/
theorem removeComponent_keeps (name : String) :
    Keeps R (fun _ => True) (removeComponent name) := by
  intro s
  rw [removeComponent, ends_bind, ends_get]
  dsimp only
  split
  · exact Keeps.pure _ s
  · split
    · rw [ends_bind, ends_set]
      exact host.deactivate s _ _ rfl
    · rw [ends_bind, ends_set]
      exact host.still _ _ rfl

theorem createComponent_keeps (source : String) (index : Int) (instanceName : Option String) :
    Keeps R (fun _ => True) (createComponent source index instanceName) := by
  unfold createComponent
  refine Keeps.bind (host.parse_keeps source) fun parsed => ?_
  dsimp only
  split
  · exact Keeps.pure _
  · split
    · exact Keeps.throw trivial
    · refine Keeps.bind (host.instantiate _ instanceName _) fun serial => ?_
      exact Keeps.bind (host.steps.quietly (component_quiet (fun _ => True) serial)) fun _ =>
        Keeps.pure _

theorem evaluateText_keeps (source : String) (name : Option String) (scope : Scope) :
    Keeps R (fun _ => True) (evaluateText source name scope) := by
  unfold evaluateText
  split
  · exact Keeps.pure _
  · refine get_bind_keeps fun s => ?_
    refine Keeps.bind (Keeps.mapM fun _ => Keeps.bind (host.steps.quietly
      (share_quiet (fun _ => True) _)) fun _ => Keeps.pure _) fun shared => ?_
    exact Keeps.bind ((host.steps.runs _).evaluateTop _ _ _) fun _ => Keeps.pure _

theorem schedule_keeps (delay : Number) (name method : String) (args : List Value) :
    Keeps R (fun _ => True) (schedule delay name method args) := by
  intro s
  rw [schedule, ends_bind, ends_get]
  dsimp only
  rw [ends_bind, ends_set]
  refine (Keeps.ofExcept_bind (fun _ _ => trivial) fun _ =>
    Keeps.bind (host.note_keeps _ _ _) fun _ => Keeps.pure _).after (host.still _ _ rfl)

theorem cancel_keeps (id : Nat) : Keeps R (fun _ => True) (cancel id) := by
  intro s
  rw [cancel, ends_bind, ends_get]
  dsimp only
  rw [ends_bind, ends_set]
  exact (Keeps.pure _).after (host.still _ _ rfl)

/-- Every request but a reset keeps `R`, whether it answers or fails. -/
theorem answer_keeps (request : Request) (kept : request.resets = false) :
    Keeps R (fun _ => True) (answer request) := by
  have runs := host.steps.runs
  unfold answer
  refine get_bind_keeps fun s => ?_
  dsimp only
  cases request with
  | load => exact Keeps.bind (host.load_keeps _ _) fun _ => Keeps.pure _
  | tick => exact Keeps.bind (host.tick_keeps _) fun _ => Keeps.pure _
  | ticks => exact Keeps.bind (host.repeatTicks_keeps _ _) fun _ => Keeps.pure _
  | call => exact Keeps.bind (host.call_keeps _ _ _) fun _ => Keeps.pure _
  | update => exact Keeps.bind (host.updateComponent_keeps _ _ _) fun _ => Keeps.pure _
  | updateAll => exact Keeps.bind (host.updateAll_keeps _ _) fun _ => Keeps.pure _
  | broadcast => exact Keeps.bind ((runs _).broadcast _ _) fun _ => Keeps.pure _
  | subscribe =>
    exact Keeps.bind (Keeps.bind (host.modify_keeps fun _ => rfl) fun _ => host.note_keeps _ _ _)
      fun _ => Keeps.pure _
  | createEntity =>
    refine Keeps.bind ((runs _).createEntity _ _ _) fun _ => ?_
    exact get_bind_keeps fun _ => Keeps.pure _
  | destroyEntity => exact Keeps.bind ((runs _).destroyEntity _) fun _ => Keeps.pure _
  | getEntity => exact Keeps.pure _
  | destroyComponent => exact Keeps.bind (host.destroyComponent_keeps _) fun _ => Keeps.pure _
  | removeComponent => exact Keeps.bind (host.removeComponent_keeps _) fun _ => Keeps.pure _
  | createComponent =>
    refine Keeps.bind (host.createComponent_keeps _ _ _) fun _ => ?_
    split <;> exact Keeps.pure _
  | builtin => exact Keeps.bind ((runs _).callBuiltin _ _) fun _ => Keeps.pure _
  | evaluate =>
    refine Keeps.bind (host.evaluateText_keeps _ _ _) fun _ => ?_
    split <;> exact Keeps.pure _
  | schedule => exact Keeps.bind (host.schedule_keeps _ _ _ _) fun _ => Keeps.pure _
  | cancel =>
    dsimp only
    split
    · exact Keeps.pure _
    · exact Keeps.bind (host.cancel_keeps _) fun _ => Keeps.pure _
  | logs => exact Keeps.pure _
  | clearLogs => exact Keeps.bind (host.modify_keeps fun _ => rfl) fun _ => Keeps.pure _
  | snapshot => exact Keeps.pure _
  | reset => cases kept
  | describe => exact Keeps.pure _
  | stats => exact Keeps.pure _

/-- After every request but a reset, the session is related by `R` to the one it was made in. -/
theorem perform_related (request : Request) (kept : request.resets = false) (s : Session) :
    R s (s.perform request).2.1 :=
  perform_session ((host.answer_keeps request kept).ends s (fun _ _ later => later)
    fun _ _ _ later => later)

end HostKeeps

end Sim

end GameScript

import GameScript.Proofs.Outcome

/-!
# Steps that only keep books

Most steps of a running script touch only the books of a session: the log and
the diagnostic trace, the random source, the identities handed out to shared
values, the counters, the event bus, the queue of the scheduler, and the
positions and render properties of entities. `Session.Quiet s t` says that `t`
differs from `s` at most there. The settings, the component instances and the
registry, the outline of every entity (its id, whether it is active, whether it
is still in the table), the world's next id, both clocks and the scheduler's
limit, the tick, the pending removals, the entities being destroyed and the
call stack are as they were.

The built-in functions that run no script are quiet, and they fail only as a
built-in reports. This module proves both facts, one lemma per family of
built-ins, from one lemma per bookkeeping step.
-/

namespace GameScript

/-- What the lifecycle of an entity reads of it: its id, whether it is active, and whether it is still in the table. -/
def Entity.outline (e : Entity) : Nat × Bool × Bool := (e.id, e.active, e.listed)

namespace Session

/-- `t` differs from `s` at most in its books. -/
structure Quiet (s t : Session) : Prop where
  settings : t.settings = s.settings
  store : t.store = s.store
  registry : t.registry = s.registry
  outline : t.world.entities.map Entity.outline = s.world.entities.map Entity.outline
  nextId : t.world.nextId = s.world.nextId
  now : t.scheduler.now = s.scheduler.now
  perTick : t.scheduler.perTick = s.scheduler.perTick
  time : t.time = s.time
  ticks : t.ticks = s.ticks
  inTick : t.inTick = s.inTick
  pendingEntities : t.pendingEntities = s.pendingEntities
  pendingComponents : t.pendingComponents = s.pendingComponents
  destroying : t.destroying = s.destroying
  callStack : t.callStack = s.callStack

theorem Quiet.refl (s : Session) : Quiet s s :=
  ⟨rfl, rfl, rfl, rfl, rfl, rfl, rfl, rfl, rfl, rfl, rfl, rfl, rfl, rfl⟩

theorem Quiet.trans {s t u : Session} (first : Quiet s t) (second : Quiet t u) : Quiet s u where
  settings := second.settings.trans first.settings
  store := second.store.trans first.store
  registry := second.registry.trans first.registry
  outline := second.outline.trans first.outline
  nextId := second.nextId.trans first.nextId
  now := second.now.trans first.now
  perTick := second.perTick.trans first.perTick
  time := second.time.trans first.time
  ticks := second.ticks.trans first.ticks
  inTick := second.inTick.trans first.inTick
  pendingEntities := second.pendingEntities.trans first.pendingEntities
  pendingComponents := second.pendingComponents.trans first.pendingComponents
  destroying := second.destroying.trans first.destroying
  callStack := second.callStack.trans first.callStack

/-- A change of the books alone is quiet. -/
theorem Quiet.of_books (s : Session) {log : LogRing} {trace : Array HostRecord}
    {random : RandomSource} {events : EventBus} {usage : List (String × Nat)} {stats : RunStats}
    {nextIdent : Nat} : Quiet s { s with log, trace, random, events, usage, stats, nextIdent } :=
  ⟨rfl, rfl, rfl, rfl, rfl, rfl, rfl, rfl, rfl, rfl, rfl, rfl, rfl, rfl⟩

/-- Changing the scheduler's queue and counters, and neither its clock nor its limit, is bookkeeping. -/
theorem Quiet.of_scheduler (s : Session) {scheduler : Scheduler} (now : scheduler.now = s.scheduler.now)
    (perTick : scheduler.perTick = s.scheduler.perTick) : Quiet s { s with scheduler } :=
  ⟨rfl, rfl, rfl, rfl, rfl, now, perTick, rfl, rfl, rfl, rfl, rfl, rfl, rfl⟩

instance : IsPreorder Session Quiet where
  refl := Quiet.refl
  trans _ _ _ := Quiet.trans

/-- Changing the entities of one id in a way that keeps their outline is quiet. -/
theorem Quiet.modify_entity (s : Session) (id : Nat) (f : Entity → Entity)
    (kept : ∀ e, (f e).outline = e.outline) : Quiet s { s with world := s.world.modify id f } := by
  refine ⟨rfl, rfl, rfl, ?_, rfl, rfl, rfl, rfl, rfl, rfl, rfl, rfl, rfl, rfl⟩
  simp only [World.modify, List.map_map]
  refine List.map_congr_left fun e _ => ?_
  by_cases same : e.id = id <;> simp [same, kept]

end Session

/-- Scheduling a call changes the queue and its counters, never the clock or the limit. -/
theorem Scheduler.schedule_clock (s : Scheduler) (delay : Number) (component method : String)
    (args : List Value) :
    (s.schedule delay component method args).2.now = s.now ∧
      (s.schedule delay component method args).2.perTick = s.perTick := by
  simp only [Scheduler.schedule]
  split <;> exact ⟨rfl, rfl⟩

open Session

namespace Sim

/-! ## Bookkeeping steps -/

section Books

variable (E : Fault → Prop)

theorem log_quiet (level : LogLevel) (message : String) (entity : Option Nat) :
    Keeps Quiet E (log level message entity) :=
  Keeps.modify fun s => Quiet.of_books s

theorem note_quiet (level : LogLevel) (channel message : String) :
    Keeps Quiet E (note level channel message) :=
  Keeps.modify fun s => Quiet.of_books s

theorem uniform_quiet : Keeps Quiet E uniform := fun s => by
  simp only [uniform, ends_bind, ends_get, ends_set, ends_pure]
  exact Quiet.of_books s

theorem share_quiet (v : Value) : Keeps Quiet E (share v) := fun s => by
  simp only [share, ends_bind, ends_get, ends_set, ends_pure]
  exact Quiet.of_books s

theorem shareVec2_quiet (v : Vec2) : Keeps Quiet E (shareVec2 v) := fun s => by
  simp only [shareVec2, ends_bind, ends_get, ends_set, ends_pure]
  exact Quiet.of_books s

theorem countUse_quiet (name : String) : Keeps Quiet E (countUse name) :=
  Keeps.modify fun s => by
    split
    · exact Quiet.of_books s
    · exact Quiet.of_books s

theorem component_quiet (serial : Nat) : Keeps Quiet E (component serial) :=
  fun s => .refl s

end Books

end Sim

/-! ## Built-in functions that run no script -/

namespace Builtin

open Sim

theorem setProperties_quiet (E : Fault → Prop) (entries : List (String × Value)) :
    Keeps Quiet E (setProperties entries) :=
  Keeps.modify fun s => by
    split
    · exact Quiet.modify_entity s _ _ fun _ => rfl
    · exact .refl s

section Leaves

/-! The faults a built-in reports as an error entry are among those the caller allows. -/

variable {E : Fault → Prop} (reported : ∀ fault : Fault, fault.isBuiltinFailure → E fault)

include reported

theorem toDouble_quiet (n : Number) : Keeps Quiet E (toDouble n) :=
  Keeps.ofExcept (Number.toFloat_raises E (reported _ rfl) n)

theorem between_quiet (low high : Number) : Keeps Quiet E (between low high) := by
  unfold between
  have combined := fun f g a b => Number.combine_raises E (reported _ rfl) f g a b
  refine Keeps.bind (uniform_quiet _) fun r => ?_
  refine Keeps.ofExcept_bind (combined _ _ _ _) fun span => ?_
  refine Keeps.ofExcept_bind (combined _ _ _ _) fun scaled => ?_
  exact Keeps.ofExcept_bind (combined _ _ _ _) fun sum => toDouble_quiet reported sum

/-- Writing a value, reading a vector or naming an entity fails only as a built-in reports. -/
theorem format_reported (s : Session) (v : Value) : Raises E (s.format v) :=
  Session.format_raises E (reported _ rfl) s v

theorem vectorView_reported (s : Session) (v : Value) : Raises E (vectorView s v) :=
  vectorView_raises E (fun _ => reported _ rfl) (fun _ => reported _ rfl) (reported _ rfl) s v

theorem vectorOfArgs_reported (s : Session) (args : List Value) :
    Raises E (vectorOfArgs s args) :=
  vectorOfArgs_raises E (fun _ => reported _ rfl) (fun _ => reported _ rfl) (reported _ rfl)
    (reported _ rfl) s args

/--
The mathematical built-ins are quiet; sine, cosine and the square root refuse
an argument outside their domain.
-/
theorem math_quiet (name : String) (args : List Value) : Keeps Quiet E (math name args) := by
  have combined := fun f g a b => Number.combine_raises E (reported _ rfl) f g a b
  unfold math
  dsimp only
  split
  case h_1 | h_2 | h_3 =>
    refine Keeps.ofExcept_bind (Number.toFloat_raises E (reported _ rfl) _) fun x => ?_
    split
    · exact Keeps.throw_bind (reported _ rfl)
    · exact Keeps.pure _
  case h_4 => split <;> exact Keeps.pure _
  case h_8 => exact Keeps.bind (uniform_quiet _) fun _ => Keeps.pure _
  case h_9 =>
    refine Keeps.bind (uniform_quiet _) fun r => ?_
    refine Keeps.ofExcept_bind (combined _ _ _ _) fun span => ?_
    refine Keeps.ofExcept_bind (combined _ _ _ _) fun scaled => ?_
    refine Keeps.bind (toDouble_quiet reported scaled) fun x => ?_
    refine Keeps.ofExcept_bind (Number.floorFloat_raises E (reported _ rfl) (reported _ rfl) x)
      fun low => ?_
    exact Keeps.ofExcept_bind (Number.truncate_raises E (reported _ rfl) (reported _ rfl) _)
      fun _ => Keeps.pure _
  case h_10 =>
    refine Keeps.ofExcept_bind (combined _ _ _ _) fun span => ?_
    refine Keeps.ofExcept_bind (combined _ _ _ _) fun step => ?_
    exact Keeps.ofExcept_bind (combined _ _ _ _) fun _ => Keeps.pure _
  all_goals exact Keeps.pure _

theorem geometry_quiet (name : String) (args : List Value) :
    Keeps Quiet E (geometry name args) := by
  refine get_bind_keeps fun s => ?_
  dsimp only
  split
  case h_1 =>
    refine Keeps.bind (between_quiet reported _ _) fun x => ?_
    exact Keeps.bind (between_quiet reported _ _) fun y => Keeps.pure _
  case h_2 =>
    refine Keeps.ofExcept_bind (vectorView_reported reported s _) fun p => ?_
    exact Keeps.ofExcept_bind (vectorView_reported reported s _) fun q => Keeps.pure _
  case h_3 | h_4 | h_6 | h_7 =>
    exact Keeps.ofExcept_bind (vectorView_reported reported s _) fun v => Keeps.pure _
  case h_5 =>
    exact Keeps.ofExcept_bind (makeVec2_raises E (fun _ => reported _ rfl) _ _ _) fun v =>
      Keeps.pure _
  case h_8 =>
    exact Keeps.ofExcept_bind (makeColor_raises E (fun _ => reported _ rfl) _ _ _ _ _) fun c =>
      Keeps.pure _
  case h_9 => exact Keeps.pure _

/-- The entity built-ins are quiet: moving an entity keeps its outline. -/
theorem entities_quiet (name : String) (args : List Value) :
    Keeps Quiet E (entities name args) := by
  refine get_bind_keeps fun s => ?_
  dsimp only
  split
  case h_1 =>
    exact Keeps.ofExcept_bind (Number.truncate_raises E (reported _ rfl) (reported _ rfl) _)
      fun n => Keeps.pure _
  case h_4 =>
    exact Keeps.ofExcept_bind (vectorView_reported reported s _) fun center => Keeps.pure _
  case h_5 =>
    split
    · exact Keeps.bind (Keeps.pure _) fun target => Keeps.pure _
    · exact Keeps.ofExcept_bind (entityArg_raises E (reported _ rfl) (reported _ rfl) s _)
        fun target => Keeps.pure _
  case h_6 =>
    split
    · rename_i e _
      refine Keeps.ofExcept_bind (vectorOfArgs_reported reported s args) fun v => ?_
      refine Keeps.bind (shareVec2_quiet _ v) fun shared => ?_
      refine Keeps.bind ?_ fun _ => Keeps.pure _
      exact Keeps.modify fun t => Quiet.modify_entity t e.id _ fun _ => rfl
    · exact Keeps.pure _
  all_goals exact Keeps.pure _

/--
The timing built-ins are quiet: the session holds the new queue, whose clock
and limit are the old ones.
-/
theorem timing_quiet (name : String) (args : List Value) : Keeps Quiet E (timing name args) :=
  fun s => by
    rw [timing, ends_bind, ends_get]
    dsimp only
    split
    case h_2 =>
      rw [ends_bind, ends_ofExcept]
      refine ⟨fun method _ => ?_, fun fault failed =>
        ⟨format_reported reported s _ fault failed, .refl s⟩⟩
      split
      · exact Keeps.bind (log_quiet _ _ _ _) (fun _ => Keeps.pure _) s
      · rw [ends_bind, ends_set]
        obtain ⟨now, perTick⟩ := Scheduler.schedule_clock s.scheduler _ _ _ _
        refine (Keeps.ofExcept_bind (Scheduler.schedule_raises E (reported _ rfl) _ _ _ _ _)
          fun c => ?_).after
            ⟨rfl, rfl, rfl, rfl, rfl, now, perTick, rfl, rfl, rfl, rfl, rfl, rfl, rfl⟩
        exact Keeps.bind (note_quiet _ _ _ _) fun _ => Keeps.pure _
    case h_3 =>
      rw [ends_bind, ends_ofExcept]
      refine ⟨fun event _ => ?_, fun fault failed =>
        ⟨format_reported reported s _ fault failed, .refl s⟩⟩
      rw [ends_bind, ends_ofExcept]
      refine ⟨fun handler _ => ?_, fun fault failed =>
        ⟨format_reported reported s _ fault failed, .refl s⟩⟩
      rw [ends_bind, ends_set]
      exact (Keeps.bind (note_quiet _ _ _ _) fun _ => Keeps.pure _).after (Quiet.of_books s)
    case h_4 =>
      refine Keeps.bind (Keeps.mapM fun v => Keeps.ofExcept (format_reported reported s v))
        (fun parts => ?_) s
      exact Keeps.bind (log_quiet _ _ _ _) fun _ => Keeps.pure _
    all_goals exact Keeps.pure _ s

theorem effects_quiet (name : String) (args : List Value) : Keeps Quiet E (effects name args) := by
  have collaborates := fun message => note_quiet E .debug "soulscript.collaborators" message
  refine get_bind_keeps fun s => ?_
  dsimp only
  split
  case h_1 =>
    refine Keeps.bind (setProperties_quiet E _) fun _ => ?_
    refine Keeps.ofExcept_bind (format_reported reported s _) fun frameText => ?_
    refine Keeps.ofExcept_bind (format_reported reported s _) fun rowText => ?_
    exact Keeps.bind (log_quiet _ _ _ _) fun _ => Keeps.pure _
  case h_2 | h_3 | h_4 | h_5 | h_6 =>
    exact Keeps.bind (setProperties_quiet E _) fun _ => Keeps.pure _
  case h_7 | h_8 | h_10 =>
    refine Keeps.ofExcept_bind (format_reported reported s _) fun _ => ?_
    exact Keeps.bind (collaborates _) fun _ => Keeps.pure _
  case h_9 | h_11 | h_12 => exact Keeps.bind (collaborates _) fun _ => Keeps.pure _
  case h_13 | h_14 =>
    split
    · refine Keeps.ofExcept_bind (vectorOfArgs_reported reported s args) fun v => ?_
      exact Keeps.bind (collaborates _) fun _ => Keeps.pure _
    · exact Keeps.bind (Keeps.pure _) fun _ => Keeps.pure _
  case h_15 =>
    refine Keeps.ofExcept_bind (vectorOfArgs_reported reported s args) fun v => ?_
    exact Keeps.bind (collaborates _) fun _ => Keeps.pure _
  case h_16 => exact Keeps.bind (Keeps.pure _) fun _ => Keeps.pure _

/-- A built-in that runs no script is quiet, and fails only as a built-in reports. -/
theorem leaf_quiet (name : String) (args : List Value) : Keeps Quiet E (leaf name args) := by
  unfold leaf
  split
  · exact math_quiet reported name args
  · exact geometry_quiet reported name args
  · exact geometry_quiet reported name args
  · exact entities_quiet reported name args
  · exact timing_quiet reported name args
  · exact timing_quiet reported name args
  · exact timing_quiet reported name args
  · exact effects_quiet reported name args

end Leaves

end Builtin

end GameScript

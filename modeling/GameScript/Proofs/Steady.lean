import GameScript.Proofs.Outcome

/-!
# What a running script leaves in place

A host operation may run script methods, and those may log, draw random
numbers, move entities, schedule callbacks, create and destroy entities and
call further methods; but some parts of the session they hand back as they
found them.  `Session.Steady s t` collects these: the call stack, the
entities whose destruction is running, the tick flag, the clock of the
session and of its scheduler, and the components waiting to be unregistered
are the same in `t` as in `s`; outside a tick no entity was queued for
removal; and the table stays `Settled`: each entity in it is active, or
waits to leave it when the running tick ends.

This module proves that the built-in functions that run no script keep
`Steady` and raise only faults a built-in call reports (`BuiltinFault`); the
interpreter's own functions are treated in `GameScript.Proofs.Runs`.
-/

namespace GameScript

namespace Session

/-- Every entity of the table is active, or waits in `pendingEntities` to leave it. -/
def Settled (s : Session) : Prop :=
  ∀ e ∈ s.world.entities, e.listed = true → e.active = true ∨ e.id ∈ s.pendingEntities

/-- What running a script hands back as it found it. -/
structure Steady (s t : Session) : Prop where
  callStack : t.callStack = s.callStack
  destroying : t.destroying = s.destroying
  inTick : t.inTick = s.inTick
  time : t.time = s.time
  now : t.scheduler.now = s.scheduler.now
  pendingComponents : t.pendingComponents = s.pendingComponents
  pendingEntities : s.inTick = false → t.pendingEntities = s.pendingEntities
  settled : s.Settled → t.Settled

theorem Steady.refl (s : Session) : Steady s s :=
  ⟨rfl, rfl, rfl, rfl, rfl, rfl, fun _ => rfl, id⟩

theorem Steady.trans {s t u : Session} (first : Steady s t) (second : Steady t u) : Steady s u where
  callStack := second.callStack.trans first.callStack
  destroying := second.destroying.trans first.destroying
  inTick := second.inTick.trans first.inTick
  time := second.time.trans first.time
  now := second.now.trans first.now
  pendingComponents := second.pendingComponents.trans first.pendingComponents
  pendingEntities outside :=
    (second.pendingEntities (first.inTick.trans outside)).trans (first.pendingEntities outside)
  settled := second.settled ∘ first.settled

instance : IsPreorder Session Steady where
  refl := Steady.refl
  trans _ _ _ := Steady.trans

/-- A change of the entities that keeps each one's id, place in the table and activity keeps the table settled. -/
theorem Settled.map {s t : Session} (settled : s.Settled) (g : Entity → Entity)
    (entities : t.world.entities = s.world.entities.map g)
    (kept : ∀ e, (g e).id = e.id ∧ (g e).listed = e.listed ∧ (g e).active = e.active)
    (pending : t.pendingEntities = s.pendingEntities) : t.Settled := by
  intro e member listed
  rw [entities, List.mem_map] at member
  obtain ⟨e, member, rfl⟩ := member
  obtain ⟨sameId, sameListed, sameActive⟩ := kept e
  rw [sameListed] at listed
  rw [sameId, sameActive, pending]
  exact settled e member listed

/-- A change that leaves the call stack, the tick, the clocks, the pending removals and the entities alone. -/
theorem Steady.of_frame {s t : Session} (callStack : t.callStack = s.callStack)
    (destroying : t.destroying = s.destroying) (inTick : t.inTick = s.inTick)
    (time : t.time = s.time) (now : t.scheduler.now = s.scheduler.now)
    (pendingComponents : t.pendingComponents = s.pendingComponents)
    (pendingEntities : t.pendingEntities = s.pendingEntities)
    (entities : t.world.entities = s.world.entities) : Steady s t :=
  ⟨callStack, destroying, inTick, time, now, pendingComponents, fun _ => pendingEntities,
    fun settled => settled.map id (by simpa using entities) (fun _ => ⟨rfl, rfl, rfl⟩)
      pendingEntities⟩

/-- Changing entities of one id in a way that keeps ids, places in the table and activity is steady. -/
theorem Steady.modify_entity (s : Session) (id : Nat) (f : Entity → Entity)
    (kept : ∀ e, (f e).id = e.id ∧ (f e).listed = e.listed ∧ (f e).active = e.active) :
    Steady s { s with world := s.world.modify id f } :=
  ⟨rfl, rfl, rfl, rfl, rfl, rfl, fun _ => rfl, fun settled =>
    settled.map _ rfl (fun e => by split <;> simp [kept]) rfl⟩

/-- Entering a method pushes its component and counts the call; leaving pops the component again. -/
theorem Steady.pop {s t : Session} {serial : Nat} {stats : RunStats}
    (inner : Steady { s with callStack := serial :: s.callStack, stats } t) :
    Steady s { t with callStack := t.callStack.tail } := by
  refine ⟨?_, inner.destroying, inner.inTick, inner.time, inner.now, inner.pendingComponents,
    inner.pendingEntities, inner.settled⟩
  show t.callStack.tail = s.callStack
  rw [inner.callStack, List.tail_cons]

/-- Marking an entity as being destroyed and taking the mark off again is steady, if it was not marked. -/
theorem Steady.unmark {s t : Session} {id : Nat} (unmarked : s.destroying.contains id = false)
    (inner : Steady { s with destroying := id :: s.destroying } t) :
    Steady s { t with destroying := t.destroying.filter (· != id) } := by
  refine ⟨inner.callStack, ?_, inner.inTick, inner.time, inner.now, inner.pendingComponents,
    inner.pendingEntities, inner.settled⟩
  have absent : id ∉ s.destroying := by simpa using unmarked
  show t.destroying.filter (· != id) = s.destroying
  rw [inner.destroying, List.filter_cons_of_neg (by simp), List.filter_eq_self]
  intro other member
  simpa using ne_of_mem_of_not_mem member absent

/-- Adding a new entity to the table is steady: it starts active. -/
theorem Steady.create (s : Session) (kind : String) (position : Vec2) (driver : Option Nat) :
    Steady s { s with world := (s.world.create kind position driver).2 } := by
  refine ⟨rfl, rfl, rfl, rfl, rfl, rfl, fun _ => rfl, fun settled e member listed => ?_⟩
  simp only [World.create, List.mem_append, List.mem_singleton] at member
  rcases member with old | rfl
  · exact settled e old listed
  · exact Or.inl rfl

/-- Deactivating the entities of an id keeps the table settled when the id then waits to leave it. -/
theorem Steady.retire_queue (s : Session) (id : Nat) (store : Array Component)
    (inTick : s.inTick = true) :
    Steady s
      { s with
        world := s.world.modify id fun e => { e with active := false }
        store := store
        pendingEntities := s.pendingEntities ++ [id] } := by
  refine ⟨rfl, rfl, rfl, rfl, rfl, rfl, fun outside => absurd inTick (by simp [outside]),
    fun settled e member listed => ?_⟩
  simp only [World.modify, List.mem_map] at member
  obtain ⟨e, member, rfl⟩ := member
  by_cases same : e.id = id
  · simp [same]
  · simp only [same, beq_iff_eq, if_false] at listed ⊢
    exact (settled e member listed).imp_right (List.mem_append_left _)

/-- Deactivating the entities of an id and taking them out of the table keeps it settled. -/
theorem Steady.retire_remove (s : Session) (id : Nat) (store : Array Component) :
    Steady s
      { s with
        world := (s.world.modify id fun e => { e with active := false }).remove id
        store := store } := by
  refine ⟨rfl, rfl, rfl, rfl, rfl, rfl, fun _ => rfl, fun settled e member listed => ?_⟩
  simp only [World.remove, World.modify, List.map_map, List.mem_map, Function.comp_apply] at member
  obtain ⟨e, member, rfl⟩ := member
  by_cases same : e.id = id
  · simp [same] at listed
  · simp only [same, beq_iff_eq, if_false] at listed ⊢
    exact settled e member listed

/--
Destroying an entity deactivates the entities of its id (and maybe its component), then queues
the id for removal in a tick, or takes the entities out of the table otherwise: that is steady.
-/
theorem Steady.retire {s t : Session} (id : Nat)
    (deactivated : t = { s with
      world := s.world.modify id fun e => { e with active := false }
      store := t.store }) :
    Steady s (if t.inTick then { t with pendingEntities := t.pendingEntities ++ [id] }
      else { t with world := t.world.remove id }) := by
  obtain ⟨store, rfl⟩ : ∃ store, t = { s with
      world := s.world.modify id fun e => { e with active := false }
      store := store } := ⟨t.store, deactivated⟩
  split
  · exact Steady.retire_queue s id store ‹_›
  · exact Steady.retire_remove s id store

end Session

/-- Scheduling a call changes the queue and its counters, never its clock. -/
theorem Scheduler.schedule_now (s : Scheduler) (delay : Number) (component method : String)
    (args : List Value) : (s.schedule delay component method args).2.now = s.now := by
  simp only [Scheduler.schedule]
  split <;> rfl

open Session

namespace Sim

/-- The faults a built-in reports as an error entry instead of passing on. -/
def BuiltinFault (fault : Fault) : Prop := fault.isBuiltinFailure

/-! ## Primitive steps -/

theorem log_keeps (E : Fault → Prop) (level : LogLevel) (message : String) (entity : Option Nat) :
    Keeps Steady E (log level message entity) :=
  Keeps.modify fun _ => Steady.of_frame rfl rfl rfl rfl rfl rfl rfl rfl

theorem note_keeps (E : Fault → Prop) (level : LogLevel) (channel message : String) :
    Keeps Steady E (note level channel message) :=
  Keeps.modify fun _ => Steady.of_frame rfl rfl rfl rfl rfl rfl rfl rfl

theorem uniform_keeps (E : Fault → Prop) : Keeps Steady E uniform := fun s => by
  simp only [uniform, ends_bind, ends_get, ends_set, ends_pure]
  exact Steady.of_frame rfl rfl rfl rfl rfl rfl rfl rfl

theorem share_keeps (E : Fault → Prop) (v : Value) : Keeps Steady E (share v) := fun s => by
  simp only [share, ends_bind, ends_get, ends_set, ends_pure]
  exact Steady.of_frame rfl rfl rfl rfl rfl rfl rfl rfl

theorem shareVec2_keeps (E : Fault → Prop) (v : Vec2) : Keeps Steady E (shareVec2 v) := fun s => by
  simp only [shareVec2, ends_bind, ends_get, ends_set, ends_pure]
  exact Steady.of_frame rfl rfl rfl rfl rfl rfl rfl rfl

theorem countUse_keeps (E : Fault → Prop) (name : String) : Keeps Steady E (countUse name) :=
  Keeps.modify fun _ => by
    split
    · exact Steady.of_frame rfl rfl rfl rfl rfl rfl rfl rfl
    · exact Steady.of_frame rfl rfl rfl rfl rfl rfl rfl rfl

theorem modifyComponent_keeps (E : Fault → Prop) (serial : Nat) (f : Component → Component) :
    Keeps Steady E (modifyComponent serial f) :=
  Keeps.modify fun _ => Steady.of_frame rfl rfl rfl rfl rfl rfl rfl rfl

theorem component_keeps (E : Fault → Prop) (serial : Nat) : Keeps Steady E (component serial) :=
  fun s => Steady.refl s

end Sim

/-! ## Built-in functions that run no script -/

namespace Builtin

open Sim

theorem setProperties_keeps (E : Fault → Prop) (entries : List (String × Value)) :
    Keeps Steady E (setProperties entries) :=
  Keeps.modify fun s => by
    split
    · exact Steady.modify_entity s _ _ fun _ => ⟨rfl, rfl, rfl⟩
    · exact Steady.refl s

theorem collaborator_keeps (E : Fault → Prop) (message : String) :
    Keeps Steady E (collaborator message) :=
  note_keeps E _ _ _

theorem toDouble_keeps (n : Number) : Keeps Steady BuiltinFault (toDouble n) :=
  Keeps.ofExcept (Number.toFloat_raises BuiltinFault rfl n)

theorem between_keeps (low high : Number) : Keeps Steady BuiltinFault (between low high) := by
  unfold between
  refine Keeps.bind (uniform_keeps _) fun r => ?_
  refine Keeps.ofExcept_bind (Number.combine_raises BuiltinFault rfl _ _ _ _) fun span => ?_
  refine Keeps.ofExcept_bind (Number.combine_raises BuiltinFault rfl _ _ _ _) fun scaled => ?_
  exact Keeps.ofExcept_bind (Number.combine_raises BuiltinFault rfl _ _ _ _) fun sum => toDouble_keeps sum

/-- The faults of writing a value, reading a vector and naming an entity are all reported by a built-in. -/
theorem format_builtinFault (s : Session) (v : Value) : Raises BuiltinFault (s.format v) :=
  Session.format_raises BuiltinFault rfl s v

theorem vectorView_builtinFault (s : Session) (v : Value) :
    Raises BuiltinFault (vectorView s v) :=
  vectorView_raises BuiltinFault (fun _ => rfl) (fun _ => rfl) rfl s v

theorem vectorOfArgs_builtinFault (s : Session) (args : List Value) :
    Raises BuiltinFault (vectorOfArgs s args) :=
  vectorOfArgs_raises BuiltinFault (fun _ => rfl) (fun _ => rfl) rfl rfl s args

/--
The mathematical built-ins keep a session steady; sine, cosine and the square
root refuse an argument outside their domain.
-/
theorem math_keeps (name : String) (args : List Value) :
    Keeps Steady BuiltinFault (math name args) := by
  unfold math
  dsimp only
  split
  case h_1 | h_2 | h_3 =>
    refine Keeps.ofExcept_bind (Number.toFloat_raises BuiltinFault rfl _) fun x => ?_
    split
    · exact Keeps.throw_bind rfl
    · exact Keeps.pure _
  case h_4 => split <;> exact Keeps.pure _
  case h_8 => exact Keeps.bind (uniform_keeps _) fun _ => Keeps.pure _
  case h_9 =>
    refine Keeps.bind (uniform_keeps _) fun r => ?_
    refine Keeps.ofExcept_bind (Number.combine_raises BuiltinFault rfl _ _ _ _) fun span => ?_
    refine Keeps.ofExcept_bind (Number.combine_raises BuiltinFault rfl _ _ _ _) fun scaled => ?_
    refine Keeps.bind (toDouble_keeps scaled) fun x => ?_
    refine Keeps.ofExcept_bind (Number.floorFloat_raises BuiltinFault rfl rfl x) fun low => ?_
    exact Keeps.ofExcept_bind (Number.truncate_raises BuiltinFault rfl rfl _) fun _ => Keeps.pure _
  case h_10 =>
    refine Keeps.ofExcept_bind (Number.combine_raises BuiltinFault rfl _ _ _ _) fun span => ?_
    refine Keeps.ofExcept_bind (Number.combine_raises BuiltinFault rfl _ _ _ _) fun step => ?_
    exact Keeps.ofExcept_bind (Number.combine_raises BuiltinFault rfl _ _ _ _) fun _ => Keeps.pure _
  all_goals exact Keeps.pure _

theorem geometry_keeps (name : String) (args : List Value) :
    Keeps Steady BuiltinFault (geometry name args) := by
  refine get_bind_keeps fun s => ?_
  dsimp only
  split
  case h_1 =>
    refine Keeps.bind (between_keeps _ _) fun x => ?_
    exact Keeps.bind (between_keeps _ _) fun y => Keeps.pure _
  case h_2 =>
    refine Keeps.ofExcept_bind (vectorView_builtinFault s _) fun p => ?_
    exact Keeps.ofExcept_bind (vectorView_builtinFault s _) fun q => Keeps.pure _
  case h_3 | h_4 | h_6 | h_7 =>
    exact Keeps.ofExcept_bind (vectorView_builtinFault s _) fun v => Keeps.pure _
  case h_5 =>
    exact Keeps.ofExcept_bind (makeVec2_raises BuiltinFault (fun _ => rfl) _ _ _) fun v =>
      Keeps.pure _
  case h_8 =>
    exact Keeps.ofExcept_bind (makeColor_raises BuiltinFault (fun _ => rfl) _ _ _ _ _) fun c =>
      Keeps.pure _
  case h_9 => exact Keeps.pure _

/--
The entity built-ins keep a session steady: moving an entity keeps its id, its
place in the table and its activity.
-/
theorem entities_keeps (name : String) (args : List Value) :
    Keeps Steady BuiltinFault (entities name args) := by
  refine get_bind_keeps fun s => ?_
  dsimp only
  split
  case h_1 =>
    exact Keeps.ofExcept_bind (Number.truncate_raises BuiltinFault rfl rfl _) fun n => Keeps.pure _
  case h_4 =>
    exact Keeps.ofExcept_bind (vectorView_builtinFault s _) fun center => Keeps.pure _
  case h_5 =>
    split
    · exact Keeps.bind (Keeps.pure _) fun target => Keeps.pure _
    · exact Keeps.ofExcept_bind (entityArg_raises BuiltinFault rfl rfl s _) fun target =>
        Keeps.pure _
  case h_6 =>
    split
    · rename_i e _
      refine Keeps.ofExcept_bind (vectorOfArgs_builtinFault s args) fun v => ?_
      refine Keeps.bind (shareVec2_keeps _ v) fun shared => ?_
      refine Keeps.bind ?_ fun _ => Keeps.pure _
      exact Keeps.modify fun t => Steady.modify_entity t e.id _ fun _ => ⟨rfl, rfl, rfl⟩
    · exact Keeps.pure _
  all_goals exact Keeps.pure _

/--
The timing built-ins keep a session steady: the session holds the new queue,
whose clock is the old one.
-/
theorem timing_keeps (name : String) (args : List Value) :
    Keeps Steady BuiltinFault (timing name args) := fun s => by
  rw [timing, ends_bind, ends_get]
  dsimp only
  split
  case h_2 =>
    rw [ends_bind, ends_ofExcept]
    refine ⟨fun method _ => ?_, fun fault failed => ⟨format_builtinFault s _ fault failed, .refl s⟩⟩
    split
    · exact Keeps.bind (log_keeps _ _ _ _) (fun _ => Keeps.pure _) s
    · rw [ends_bind, ends_set]
      refine (Keeps.ofExcept_bind (Scheduler.schedule_raises BuiltinFault rfl _ _ _ _ _)
        fun c => ?_).after (Steady.of_frame rfl rfl rfl rfl (Scheduler.schedule_now _ _ _ _ _)
          rfl rfl rfl)
      exact Keeps.bind (note_keeps _ _ _ _) fun _ => Keeps.pure _
  case h_3 =>
    rw [ends_bind, ends_ofExcept]
    refine ⟨fun event _ => ?_, fun fault failed => ⟨format_builtinFault s _ fault failed, .refl s⟩⟩
    rw [ends_bind, ends_ofExcept]
    refine ⟨fun handler _ => ?_, fun fault failed => ⟨format_builtinFault s _ fault failed, .refl s⟩⟩
    rw [ends_bind, ends_set]
    exact (Keeps.bind (note_keeps _ _ _ _) fun _ => Keeps.pure _).after
      (Steady.of_frame rfl rfl rfl rfl rfl rfl rfl rfl)
  case h_4 =>
    refine Keeps.bind (Keeps.mapM fun v => Keeps.ofExcept (format_builtinFault s v)) (fun parts => ?_) s
    exact Keeps.bind (log_keeps _ _ _ _) fun _ => Keeps.pure _
  all_goals exact Keeps.pure _ s

theorem effects_keeps (name : String) (args : List Value) :
    Keeps Steady BuiltinFault (effects name args) := by
  refine get_bind_keeps fun s => ?_
  dsimp only
  split
  case h_1 =>
    refine Keeps.bind (setProperties_keeps _ _) fun _ => ?_
    refine Keeps.ofExcept_bind (format_builtinFault s _) fun frameText => ?_
    refine Keeps.ofExcept_bind (format_builtinFault s _) fun rowText => ?_
    exact Keeps.bind (log_keeps _ _ _ _) fun _ => Keeps.pure _
  case h_2 | h_3 | h_4 | h_5 | h_6 =>
    exact Keeps.bind (setProperties_keeps _ _) fun _ => Keeps.pure _
  case h_7 | h_8 | h_10 =>
    refine Keeps.ofExcept_bind (format_builtinFault s _) fun _ => ?_
    exact Keeps.bind (collaborator_keeps _ _) fun _ => Keeps.pure _
  case h_9 | h_11 | h_12 => exact Keeps.bind (collaborator_keeps _ _) fun _ => Keeps.pure _
  case h_13 | h_14 =>
    split
    · refine Keeps.ofExcept_bind (vectorOfArgs_builtinFault s args) fun v => ?_
      exact Keeps.bind (collaborator_keeps _ _) fun _ => Keeps.pure _
    · exact Keeps.bind (Keeps.pure _) fun _ => Keeps.pure _
  case h_15 =>
    refine Keeps.ofExcept_bind (vectorOfArgs_builtinFault s args) fun v => ?_
    exact Keeps.bind (collaborator_keeps _ _) fun _ => Keeps.pure _
  case h_16 => exact Keeps.bind (Keeps.pure _) fun _ => Keeps.pure _

/-- A built-in that runs no script keeps what running a script keeps, and fails only as a built-in reports. -/
theorem leaf_keeps (name : String) (args : List Value) :
    Keeps Steady BuiltinFault (leaf name args) := by
  unfold leaf
  split
  · exact math_keeps name args
  · exact geometry_keeps name args
  · exact geometry_keeps name args
  · exact entities_keeps name args
  · exact timing_keeps name args
  · exact timing_keeps name args
  · exact timing_keeps name args
  · exact effects_keeps name args

end Builtin

end GameScript

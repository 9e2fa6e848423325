import GameScript.Proofs.IdentityShift
import GameScript.Session.Basic

/-!
# Moving the identities held in a session's state

Values with identities are held in four places of a session: the fields of
component instances, the positions and render properties of entities, and the
arguments of scheduled calls.  This module moves the identities in each
(`Component.shift`, `Entity.shift`, `World.shift`, `Scheduler.shift`) and
proves that every operation on these parts commutes with the move: reading
and writing fields and properties, creating, finding, changing, removing and
ageing entities, and scheduling, cancelling and handing out calls.

The scheduler keeps its calls in a binary heap that compares calls by time and
sequence number only, so the heap's moves commute with any change of the
calls that keeps those two (`Heap.push_map`, `Heap.pop_map`).
-/

namespace GameScript

/-- Named values (fields, render properties, local variables) with their identities moved up by `d`. -/
def shiftNamed (d : Nat) (named : List (String × Value)) : List (String × Value) :=
  named.map fun entry => (entry.1, entry.2.shift d)

section Named

variable {d : Nat}

@[simp]
theorem shiftNamed_nil : shiftNamed d [] = [] := rfl

@[simp]
theorem shiftNamed_cons (entry : String × Value) (rest : List (String × Value)) :
    shiftNamed d (entry :: rest) = (entry.1, entry.2.shift d) :: shiftNamed d rest := rfl

@[simp]
theorem shiftNamed_append (xs ys : List (String × Value)) :
    shiftNamed d (xs ++ ys) = shiftNamed d xs ++ shiftNamed d ys := by
  simp only [shiftNamed, List.map_append]

@[simp]
theorem shiftNamed_singleton (name : String) (v : Value) :
    shiftNamed d [(name, v)] = [(name, v.shift d)] := rfl

/-- A name is looked up among moved values as among the old ones. -/
theorem find?_shiftNamed (named : List (String × Value)) (name : String) :
    (shiftNamed d named).find? (·.1 == name) =
      (named.find? (·.1 == name)).map fun entry => (entry.1, entry.2.shift d) := by
  simp only [shiftNamed, List.find?_map]
  rfl

@[simp]
theorem any_shiftNamed (named : List (String × Value)) (name : String) :
    (shiftNamed d named).any (·.1 == name) = named.any (·.1 == name) := by
  simp only [shiftNamed, List.any_map]
  rfl

/-- Writing a moved value under a name commutes with moving. -/
theorem shiftNamed_write (named : List (String × Value)) (name : String) (v : Value) :
    (shiftNamed d named).map (fun entry => if entry.1 == name then (name, v.shift d) else entry) =
      shiftNamed d (named.map fun entry => if entry.1 == name then (name, v) else entry) := by
  simp only [shiftNamed, List.map_map]
  congr 1
  funext entry
  simp only [Function.comp]
  split <;> rfl

end Named

/-! ## Component instances -/

namespace Component

/-- An instance with the identities in its fields moved up by `d`. -/
def shift (d : Nat) (c : Component) : Component := { c with fields := shiftNamed d c.fields }

variable {d : Nat}

@[simp] theorem shift_name (c : Component) : (c.shift d).name = c.name := rfl
@[simp] theorem shift_declaration (c : Component) : (c.shift d).declaration = c.declaration := rfl
@[simp] theorem shift_methods (c : Component) : (c.shift d).methods = c.methods := rfl
@[simp] theorem shift_active (c : Component) : (c.shift d).active = c.active := rfl
@[simp] theorem shift_fields (c : Component) : (c.shift d).fields = shiftNamed d c.fields := rfl

@[simp]
theorem method?_shift (c : Component) (name : String) : (c.shift d).method? name = c.method? name := rfl

@[simp]
theorem hasField_shift (c : Component) (name : String) : (c.shift d).hasField name = c.hasField name :=
  any_shiftNamed c.fields name

theorem field?_shift (c : Component) (name : String) :
    (c.shift d).field? name = (c.field? name).map (Value.shift d) := by
  simp only [field?, shift_fields, find?_shiftNamed, Option.map_map]
  rfl

theorem setField_shift (c : Component) (name : String) (v : Value) :
    (c.shift d).setField name (v.shift d) = (c.setField name v).shift d := by
  unfold setField
  rw [hasField_shift]
  split
  · simp only [shift, shiftNamed_write]
  · simp only [shift, shiftNamed_append, shiftNamed_singleton]

@[simp]
theorem shift_default : (default : Component).shift d = default := rfl

theorem shift_deactivate (c : Component) :
    { c.shift d with active := false } = ({ c with active := false } : Component).shift d := rfl

end Component

/-! ## Entities and the world -/

namespace Entity

/-- An entity with the identities in its position and render properties moved up by `d`. -/
def shift (d : Nat) (e : Entity) : Entity :=
  { e with position := e.position.shift d, properties := shiftNamed d e.properties }

variable {d : Nat}

@[simp] theorem shift_id (e : Entity) : (e.shift d).id = e.id := rfl
@[simp] theorem shift_kind (e : Entity) : (e.shift d).kind = e.kind := rfl
@[simp] theorem shift_position (e : Entity) : (e.shift d).position = e.position.shift d := rfl
@[simp] theorem shift_properties (e : Entity) : (e.shift d).properties = shiftNamed d e.properties := rfl
@[simp] theorem shift_component (e : Entity) : (e.shift d).component = e.component := rfl
@[simp] theorem shift_active (e : Entity) : (e.shift d).active = e.active := rfl
@[simp] theorem shift_lifespan (e : Entity) : (e.shift d).lifespan = e.lifespan := rfl
@[simp] theorem shift_listed (e : Entity) : (e.shift d).listed = e.listed := rfl
@[simp] theorem shift_name (e : Entity) : (e.shift d).name = e.name := rfl

/-- Writing one moved render property commutes with moving. -/
theorem writeProperty_shift (props : List (String × Value)) (name : String) (v : Value) :
    (if (shiftNamed d props).any (·.1 == name) then
        (shiftNamed d props).map (fun p => if p.1 == name then (name, v.shift d) else p)
      else shiftNamed d props ++ [(name, v.shift d)]) =
      shiftNamed d (if props.any (·.1 == name) then
        props.map (fun p => if p.1 == name then (name, v) else p)
      else props ++ [(name, v)]) := by
  rw [any_shiftNamed]
  split
  · exact shiftNamed_write props name v
  · simp only [shiftNamed_append, shiftNamed_singleton]

/--
Writing moved render properties commutes with moving. The properties written
so far are moved in step, one entry at a time.
-/
theorem setProperties_shift (e : Entity) (entries : List (String × Value)) :
    (e.shift d).setProperties (shiftNamed d entries) = (e.setProperties entries).shift d := by
  simp only [setProperties, shift]
  congr 1
  generalize e.properties = props
  induction entries generalizing props with
  | nil => rfl
  | cons entry rest more =>
    obtain ⟨name, v⟩ := entry
    simp only [shiftNamed_cons, List.foldl_cons]
    rw [writeProperty_shift, more]

end Entity

namespace World

/-- The world with the identities held by its entities moved up by `d`. -/
def shift (d : Nat) (w : World) : World := { w with entities := w.entities.map (Entity.shift d) }

variable {d : Nat}

@[simp] theorem shift_nextId (w : World) : (w.shift d).nextId = w.nextId := rfl
@[simp] theorem shift_entities (w : World) : (w.shift d).entities = w.entities.map (Entity.shift d) := rfl

@[simp]
theorem shift_empty : ({} : World).shift d = {} := rfl

theorem create_shift (w : World) (kind : String) (position : Vec2) (driver : Option Nat) :
    (w.shift d).create kind (position.shift d) driver =
      ((w.create kind position driver).1.shift d, (w.create kind position driver).2.shift d) := by
  simp only [create, shift, List.map_append, List.map_cons, List.map_nil]
  rfl

theorem find?_shift (w : World) (id : Nat) : (w.shift d).find? id = (w.find? id).map (Entity.shift d) := by
  simp only [find?, shift_entities, List.find?_map]
  rfl

theorem get?_shift (w : World) (id : Nat) : (w.shift d).get? id = (w.get? id).map (Entity.shift d) := by
  simp only [get?, shift_entities, List.find?_map]
  rfl

theorem table_shift (w : World) : (w.shift d).table = w.table.map (Entity.shift d) := by
  simp only [table, shift_entities, List.filter_map]
  rfl

theorem active_shift (w : World) : (w.shift d).active = w.active.map (Entity.shift d) := by
  simp only [active, shift_entities, List.filter_map]
  rfl

theorem driving?_shift (w : World) (serial : Nat) :
    (w.shift d).driving? serial = (w.driving? serial).map (Entity.shift d) := by
  simp only [driving?, shift_entities, List.find?_map]
  rfl

/-- Changing an entity commutes with moving, for a change that commutes with it. -/
theorem modify_shift (w : World) (id : Nat) {f g : Entity → Entity}
    (commutes : ∀ e, g (e.shift d) = (f e).shift d) :
    (w.shift d).modify id g = (w.modify id f).shift d := by
  have pointwise : ∀ e : Entity, (if (e.shift d).id == id then g (e.shift d) else e.shift d) =
      (if e.id == id then f e else e).shift d := by
    intro e
    rw [Entity.shift_id]
    split
    · exact commutes e
    · rfl
  simp only [modify, shift, List.map_map]
  congr 2
  funext e
  exact pointwise e

theorem remove_shift (w : World) (id : Nat) : (w.shift d).remove id = (w.remove id).shift d :=
  modify_shift w id fun _ => rfl

theorem age_shift (w : World) (dt : Float) : (w.shift d).age dt = (w.age dt).shift d := by
  have pointwise : ∀ e : Entity,
      (if ((e.shift d).listed && (e.shift d).active) = true then
        { e.shift d with lifespan := (e.shift d).lifespan + dt } else e.shift d) =
      (if (e.listed && e.active) = true then { e with lifespan := e.lifespan + dt } else e).shift d := by
    intro e
    rw [Entity.shift_listed, Entity.shift_active]
    split <;> rfl
  simp only [age, shift, List.map_map]
  congr 2
  funext e
  exact pointwise e

theorem foldl_remove_shift (w : World) (ids : List Nat) :
    ids.foldl World.remove (w.shift d) = (ids.foldl World.remove w).shift d := by
  induction ids generalizing w with
  | nil => rfl
  | cons id rest more => simp only [List.foldl_cons, remove_shift, more]

end World

/-! ## Heaps under a change of their entries -/

namespace Heap

variable {α β : Type} {lt : α → α → Bool} {lt' : β → β → Bool} {f : α → β}

@[simp]
theorem getD_map (a : Array α) (i : Nat) (fill : α) : (a.map f).getD i (f fill) = f (a.getD i fill) := by
  simp only [Array.getD_eq_getD_getElem?, Array.getElem?_map]
  cases a[i]? <;> rfl

section Moves

variable (same : ∀ x y, lt' (f x) (f y) = lt x y)
include same

theorem rise_map (item : α) : ∀ (a : Array α) (hole : Nat),
    rise lt' (f item) (a.map f) hole = (rise lt item a hole).map f := by
  intro a hole
  induction a, hole using rise.induct lt item with
  | case1 a hole positive above moved rest =>
    rw [rise.eq_1 lt' (f item) (a.map f) hole, rise.eq_1 lt item a hole, if_pos positive,
      if_pos positive]
    dsimp only
    rw [getD_map, same, if_pos moved, if_pos moved, ← Array.map_setIfInBounds, rest]
  | case2 a hole positive above kept =>
    rw [rise.eq_1 lt' (f item) (a.map f) hole, rise.eq_1 lt item a hole, if_pos positive,
      if_pos positive]
    dsimp only
    rw [getD_map, same, if_neg kept, if_neg kept, Array.map_setIfInBounds]
  | case3 a hole atRoot =>
    rw [rise.eq_1 lt' (f item) (a.map f) hole, rise.eq_1 lt item a hole, if_neg atRoot,
      if_neg atRoot, Array.map_setIfInBounds]

theorem smallerChild_map (a : Array α) (pos : Nat) (fill : α) :
    smallerChild lt' (a.map f) pos (f fill) = smallerChild lt a pos fill := by
  simp only [smallerChild, Array.size_map, getD_map, same]

theorem fall_map (fill : α) : ∀ (a : Array α) (pos : Nat),
    fall lt' (f fill) (a.map f) pos = ((fall lt fill a pos).1.map f, (fall lt fill a pos).2) := by
  intro a pos
  induction a, pos using fall.induct lt fill with
  | case1 a pos hasChild child rest =>
    rw [fall.eq_1 lt' (f fill) (a.map f) pos, fall.eq_1 lt fill a pos, Array.size_map,
      if_pos hasChild, if_pos hasChild]
    dsimp only
    rw [smallerChild_map same, getD_map, ← Array.map_setIfInBounds, rest]
  | case2 a pos leaf =>
    rw [fall.eq_1 lt' (f fill) (a.map f) pos, fall.eq_1 lt fill a pos, Array.size_map,
      if_neg leaf, if_neg leaf]

theorem push_map (a : Array α) (item : α) : push lt' (a.map f) (f item) = (push lt a item).map f := by
  simp only [push, ← Array.map_push, Array.size_map, rise_map same]

theorem pop_map (a : Array α) :
    pop lt' (a.map f) = (pop lt a).map fun popped => (f popped.1, popped.2.map f) := by
  have empty : (a.pop.map f).isEmpty = a.pop.isEmpty := by
    simp only [Array.isEmpty, Array.size_map]
  unfold pop
  rw [Array.back?_map]
  cases a.back? with
  | none => rfl
  | some last =>
    simp only [Option.map_some, ← Array.map_pop, empty]
    by_cases emptied : a.pop.isEmpty = true
    · rw [if_pos emptied, if_pos emptied]
      rfl
    · rw [if_neg emptied, if_neg emptied, getD_map, fall_map same, rise_map same]
      rfl

end Moves

end Heap

/-! ## Scheduled calls -/

namespace Callback

/-- A call with the identities in its arguments moved up by `d`. -/
def shift (d : Nat) (c : Callback) : Callback := { c with args := c.args.map (Value.shift d) }

variable {d : Nat}

@[simp] theorem shift_id (c : Callback) : (c.shift d).id = c.id := rfl
@[simp] theorem shift_time (c : Callback) : (c.shift d).time = c.time := rfl
@[simp] theorem shift_component (c : Callback) : (c.shift d).component = c.component := rfl
@[simp] theorem shift_method (c : Callback) : (c.shift d).method = c.method := rfl
@[simp] theorem shift_args (c : Callback) : (c.shift d).args = c.args.map (Value.shift d) := rfl
@[simp] theorem shift_cancelled (c : Callback) : (c.shift d).cancelled = c.cancelled := rfl

@[simp]
theorem before_shift (a b : Callback) : before (a.shift d) (b.shift d) = before a b := rfl

end Callback

namespace Scheduler

/-- The scheduler with the identities in the arguments of its calls moved up by `d`. -/
def shift (d : Nat) (s : Scheduler) : Scheduler := { s with queue := s.queue.map (Callback.shift d) }

variable {d : Nat}

@[simp] theorem shift_now (s : Scheduler) : (s.shift d).now = s.now := rfl
@[simp] theorem shift_perTick (s : Scheduler) : (s.shift d).perTick = s.perTick := rfl

@[simp]
theorem reset_shift (s : Scheduler) : (s.shift d).reset = s.reset := rfl

theorem live_shift (s : Scheduler) : (s.shift d).live = s.live.map (Callback.shift d) := by
  simp only [live, shift, Array.toList_map, List.filter_map]
  rfl

theorem schedule_shift (s : Scheduler) (delay : Number) (component method : String) (args : List Value) :
    (s.shift d).schedule delay component method (args.map (Value.shift d)) =
      ((s.schedule delay component method args).1.map (Callback.shift d),
        (s.schedule delay component method args).2.shift d) := by
  unfold schedule
  cases (wait delay).toFloat with
  | error fault => rfl
  | ok w =>
    simp only [shift]
    let call : Callback :=
      { id := s.nextId, time := s.now + w, sequence := s.nextSequence, component, method, args }
    rw [show ({ call with args := args.map (Value.shift d) } : Callback) = call.shift d from rfl,
      Heap.push_map fun _ _ => rfl]
    rfl

theorem cancel_shift (s : Scheduler) (id : Nat) :
    (s.shift d).cancel id = ((s.cancel id).1, (s.cancel id).2.shift d) := by
  have marked : ∀ c : Callback,
      (if (c.shift d).id == id then { c.shift d with cancelled := true } else c.shift d) =
        (if c.id == id then { c with cancelled := true } else c).shift d := by
    intro c
    rw [Callback.shift_id]
    split <;> rfl
  unfold cancel
  rw [live_shift, List.any_map]
  by_cases found : (s.live.any fun c => c.id == id) = true
  · rw [if_pos (show s.live.any ((fun c => c.id == id) ∘ Callback.shift d) = true from found),
      if_pos found]
    simp only [shift, Array.map_map]
    congr 3
    funext c
    exact marked c
  · rw [if_neg (show ¬ s.live.any ((fun c => c.id == id) ∘ Callback.shift d) = true from found),
      if_neg found]

theorem advance_shift (s : Scheduler) (dt : Number) :
    (s.shift d).advance dt = (s.advance dt).map (Scheduler.shift d) := by
  unfold advance
  cases dt.toFloat <;> rfl

/--
Draining moved calls gives the moved drain; the proof rewrites rather than
simplifies, so that the comparisons of the heap follow.
-/
theorem drain_shift (now : Float) (limit : Int) : ∀ (fuel : Nat) (heap : Array Callback)
    (due : List Callback),
    drain now limit fuel (heap.map (Callback.shift d)) (due.map (Callback.shift d)) =
      ((drain now limit fuel heap due).1.map (Callback.shift d),
        (drain now limit fuel heap due).2.map (Callback.shift d)) := by
  intro fuel
  induction fuel with
  | zero => intro heap due; rfl
  | succ fuel more =>
    intro heap due
    rw [drain.eq_2, drain.eq_2, Array.getElem?_map]
    cases heap[0]? with
    | none => rfl
    | some root =>
      dsimp only [Option.map_some]
      rw [Callback.shift_time, List.length_map]
      by_cases ready : (decide (root.time ≤ now) && decide (↑due.length < limit)) = true
      · rw [if_pos ready, if_pos ready, @Heap.pop_map Callback Callback Callback.before Callback.before
          (Callback.shift d) (fun _ _ => rfl) heap]
        cases Heap.pop Callback.before heap with
        | none => rfl
        | some popped =>
          obtain ⟨c, rest⟩ := popped
          dsimp only [Option.map_some]
          rw [Callback.shift_cancelled]
          by_cases cancelled : c.cancelled = true
          · rw [if_pos cancelled, if_pos cancelled]
            exact more rest due
          · rw [if_neg cancelled, if_neg cancelled,
              show due.map (Callback.shift d) ++ [c.shift d] = (due ++ [c]).map (Callback.shift d) by
                simp only [List.map_append, List.map_cons, List.map_nil]]
            exact more rest (due ++ [c])
      · rw [if_neg ready, if_neg ready]

theorem popDue_shift (s : Scheduler) (limit : Option Int) :
    (s.shift d).popDue limit =
      ((s.popDue limit).1.map (Callback.shift d), (s.popDue limit).2.shift d) := by
  unfold popDue
  have drained := @drain_shift d s.now (limit.getD s.perTick) s.queue.size s.queue []
  simp only [List.map_nil] at drained
  simp only [shift, Array.size_map, drained, List.length_map]

end Scheduler

end GameScript

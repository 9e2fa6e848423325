import GameScript.Proofs.TwinSessions

/-!
# Built-in functions on twin sessions

Every built-in function that runs no script answers twin sessions alike: given
the arguments of one twin moved, it answers the other's answer moved, or the
same fault, and leaves twin sessions.  What a built-in reads of a session
(entities and their positions, the clock, the current entity, the texts of
values) reads alike in twins; the values it builds are new temporaries, which
moving leaves as they are; and the values it passes on (an argument, a field of
a vector) come out moved.
-/

namespace GameScript

namespace Builtin

variable {d : Nat}

/-- A list of values moved, read at a position with a default that moving keeps. -/
theorem getD_shift (args : List Value) (i : Nat) {fallback : Value} (fixed : fallback.shift d = fallback) :
    (args.map (Value.shift d)).getD i fallback = (args.getD i fallback).shift d := by
  rw [List.getD_eq_getElem?_getD, List.getD_eq_getElem?_getD, List.getElem?_map, ← fixed,
    Option.getD_map, fixed]

theorem arg_shift (args : List Value) (i : Nat) : arg (args.map (Value.shift d)) i = (arg args i).shift d :=
  getD_shift args i rfl

theorem given?_shift (args : List Value) (i : Nat) :
    given? (args.map (Value.shift d)) i = (given? args i).map (Value.shift d) := by
  unfold given?
  rw [List.getElem?_map]
  cases args[i]? with
  | none => rfl
  | some v => cases v <;> rfl

@[simp]
theorem toNumber_comp_shift : Value.toNumber ∘ Value.shift d = Value.toNumber :=
  funext Value.toNumber_shift

@[simp]
theorem truthy_comp_shift : Value.truthy ∘ Value.shift d = Value.truthy :=
  funext Value.truthy_shift

@[simp]
theorem Vec2.length_shift (v : GameScript.Vec2) : Vec2.length (v.shift d) = Vec2.length v := rfl

theorem double_shift (v : Value) : double (v.shift d) = double v := by
  unfold double
  rw [Value.toNumber_shift]

/-- A field double from a moved value: the same double, its identity moved. -/
theorem fieldDouble_shift (v : Value) :
    fieldDouble (v.shift d) = (fieldDouble v).map fun p => (p.1, shiftIdent d p.2) := by
  cases v with
  | int n =>
    show fieldDouble (.int n) = _
    simp only [fieldDouble, Value.toNumber]
    cases (Number.int n).toFloat <;> rfl
  | _ => rfl

theorem makeVec2_shift (wording : RefusalWording) (x y : Value) :
    makeVec2 wording (x.shift d) (y.shift d) = Vec2.shift d <$> makeVec2 wording x y := by
  unfold makeVec2
  rw [fieldDouble_shift, fieldDouble_shift]
  cases fieldDouble x <;> cases fieldDouble y <;> rfl

theorem makeColor_shift (wording : RefusalWording) (r g b a : Value) :
    makeColor wording (r.shift d) (g.shift d) (b.shift d) (a.shift d) =
      Color.shift d <$> makeColor wording r g b a := by
  unfold makeColor
  rw [fieldDouble_shift, fieldDouble_shift, fieldDouble_shift, fieldDouble_shift]
  cases fieldDouble r <;> cases fieldDouble g <;> cases fieldDouble b <;> cases fieldDouble a <;> rfl

section Reads

variable {o : Offset} {s t : Session}

/-- The vector a moved value stands for in one twin is the moved vector of the other. -/
theorem vectorView_shift (twin : s.Twin o t) (v : Value) :
    vectorView s (v.shift o.ident) = Vec2.shift o.ident <$> vectorView t v := by
  have refused : ∀ v : Value, (do throw (Fault.notAVector (← s.format (v.shift o.ident))) :
      Except Fault Vec2) = Vec2.shift o.ident <$> (do throw (Fault.notAVector (← t.format v))) := by
    intro v
    rw [twin.format]
    cases t.format v <;> rfl
  cases v with
  | vec2 w => rfl
  | entity id =>
    simp only [Value.shift, vectorView, twin.world, World.find?_shift]
    cases t.world.find? id with
    | some e => rfl
    | none => exact refused (.entity id)
  | map ident entries =>
    have key : ∀ name : String, ∀ key : Value,
        Value.equals (.str name) (key.shift o.ident) = Value.equals (.str name) key :=
      fun name key => Value.equals_shift (.str name) key
    simp only [Value.shift, vectorView, Value.findEntry_shift _ _ (key "x"),
      Value.findEntry_shift _ _ (key "y"), twin.platform]
    cases Value.findEntry (Value.equals (.str "x")) entries with
    | none => exact refused (.map ident entries)
    | some x =>
      cases Value.findEntry (Value.equals (.str "y")) entries with
      | none => exact refused (.map ident entries)
      | some y => exact makeVec2_shift _ x y
  | _ => exact refused _

theorem vectorOfArgs_shift (twin : s.Twin o t) (args : List Value) :
    vectorOfArgs s (args.map (Value.shift o.ident)) = Vec2.shift o.ident <$> vectorOfArgs t args := by
  rcases args with _ | ⟨v, _ | ⟨y, _⟩⟩
  · rfl
  · exact vectorView_shift twin v
  · simp only [List.map_cons, vectorOfArgs, twin.platform]
    exact makeVec2_shift _ v y

theorem activeEntity_shift (twin : s.Twin o t) (n : Int) :
    entityArg.activeEntity s n = (entityArg.activeEntity t n).map (Entity.shift o.ident) := by
  unfold entityArg.activeEntity
  split
  · rfl
  · rw [twin.world, World.get?_shift, Option.filter_map]
    rfl

/-- The entity a moved argument names in one twin is the moved entity of the other. -/
theorem entityArg_shift (twin : s.Twin o t) (v : Value) :
    entityArg s (v.shift o.ident) = Option.map (Entity.shift o.ident) <$> entityArg t v := by
  cases v with
  | entity id =>
    simp only [Value.shift, entityArg, twin.world, World.find?_shift]
    rfl
  | _ =>
    have looked : ∀ x : Except Fault Int,
        (do let n ← x; return (entityArg.activeEntity t n).map (Entity.shift o.ident)) =
          Option.map (Entity.shift o.ident) <$> (do let n ← x; return entityArg.activeEntity t n) := by
      intro x
      cases x <;> rfl
    simp only [entityArg, Value.toNumber_shift, activeEntity_shift twin]
    exact looked _

end Reads

open Sim

variable {o : Offset}

/-- A choice between two moved values is the moved choice. -/
theorem ite_shift (c : Prop) [Decidable c] (x y : Value) :
    (if c then x.shift o.ident else y.shift o.ident) = (if c then x else y).shift o.ident :=
  (apply_ite _ _ _ _).symm

/--
The mathematical functions answer moved arguments alike: a number, or one of
the arguments moved. Sine and cosine refuse infinities, the square root
negative numbers.
-/
theorem math_alike (name : String) (args : List Value) :
    Alike o (Moved o) (math name (args.map (Value.shift o.ident))) (math name args) := by
  unfold math
  simp only [arg_shift, double_shift, Value.toNumber_shift, Value.numeric_shift]
  split
  case h_1 | h_2 | h_3 =>
    exact (Alike.ofExcept _).bind_same fun x =>
      Alike.ite _ (fun _ => Alike.throw_bind _) fun _ => Alike.pure rfl
  case h_4 => split <;> exact Alike.pure rfl
  case h_5 | h_6 => exact Alike.pure (ite_shift _ _ _)
  case h_7 =>
    refine Alike.pure ?_
    by_cases below : lessThan (arg args 0).numeric.toNumber (arg args 2).numeric.toNumber = true <;>
      simp only [below, if_true, Bool.false_eq_true, if_false, Value.toNumber_shift] <;>
      exact ite_shift _ _ _
  case h_8 => exact uniform_alike.bind_same fun _ => Alike.pure rfl
  case h_9 =>
    refine uniform_alike.bind_same fun _ => ?_
    exact (Alike.ofExcept _).bind_same fun _ => (Alike.ofExcept _).bind_same fun _ =>
      (Alike.ofExcept _).bind_same fun _ => (Alike.ofExcept _).bind_same fun _ =>
      (Alike.ofExcept _).bind_same fun _ => Alike.pure rfl
  case h_10 =>
    exact (Alike.ofExcept _).bind_same fun _ => (Alike.ofExcept _).bind_same fun _ =>
      (Alike.ofExcept _).bind_same fun n => Alike.pure (Value.shift_toValue n).symm
  case h_11 => exact Alike.pure rfl

/-- A draw between two bounds, alike in twins. -/
theorem between_alike (low high : Number) : Alike o Eq (between low high) (between low high) :=
  uniform_alike.bind_same fun _ => (Alike.ofExcept _).bind_same fun _ =>
    (Alike.ofExcept _).bind_same fun _ => (Alike.ofExcept _).bind_same fun _ => Alike.ofExcept _

/--
The vector and colour functions answer moved arguments alike: new vectors and
numbers, or a vector or colour built from the moved fields.
-/
theorem geometry_alike (name : String) (args : List Value) :
    Alike o (Moved o) (geometry name (args.map (Value.shift o.ident))) (geometry name args) := by
  unfold geometry
  refine Alike.get_bind fun s t twin => ?_
  have zero : (Value.int 0).shift o.ident = .int 0 := rfl
  have one : (Value.float 1.0 0).shift o.ident = .float 1.0 0 := rfl
  simp only [arg_shift, given?_shift, Option.map_map, toNumber_comp_shift, Value.toNumber_shift,
    vectorView_shift twin, getD_shift args 0 zero, getD_shift args 1 zero, getD_shift args 3 one,
    twin.platform, makeVec2_shift, makeColor_shift]
  split
  case h_1 =>
    exact (between_alike _ _).bind_same fun _ => (between_alike _ _).bind_same fun _ => Alike.pure rfl
  case h_2 =>
    exact (Alike.ofExcept_map _ _).bind_moved fun _ => (Alike.ofExcept_map _ _).bind_moved fun _ =>
      Alike.pure rfl
  case h_3 =>
    refine (Alike.ofExcept_map _ _).bind_moved fun v => Alike.pure ?_
    simp only [Vec2.length_shift, Vec2.shift_x, Vec2.shift_y]
    by_cases small : Vec2.length v ≤ 0.0 <;> simp only [small, ↓reduceIte] <;> rfl
  case h_4 | h_5 | h_6 | h_7 | h_8 => exact (Alike.ofExcept_map _ _).bind_moved fun _ => Alike.pure rfl
  case h_9 => exact Alike.pure rfl

/-- A list of entity handles is no object a moving can reach. -/
theorem shift_entityList (es : List Entity) :
    (Value.list 0 (es.map fun e => Value.entity e.id)).shift o.ident =
      Value.list 0 (es.map fun e => Value.entity e.id) := by
  show Value.list 0 (Value.shiftItems o.ident _) = _
  rw [Value.shiftItems_eq_map, List.map_map]
  rfl

/-- Entity handles in both twins, the moved entities naming the same ids. -/
theorem entityList_alike (es : List Entity) :
    Alike o (Moved o) (pure (Value.list 0 ((es.map (Entity.shift o.ident)).map fun e => Value.entity e.id)))
      (pure (Value.list 0 (es.map fun e => Value.entity e.id))) :=
  Alike.pure (by rw [List.map_map]; exact (shift_entityList es).symm)

/--
The queries and moves of entities answer moved arguments alike: entity handles
and counts, or the moved position of an entity. The target is the current
entity or the entity the argument names, moved.
-/
theorem entities_alike (name : String) (args : List Value) :
    Alike o (Moved o) (entities name (args.map (Value.shift o.ident))) (entities name args) := by
  unfold entities
  refine Alike.get_bind fun s t twin => ?_
  simp only [arg_shift, given?_shift, Value.toNumber_shift, vectorView_shift twin,
    activeEntity_shift twin, twin.world, World.active_shift, twin.currentEntity?,
    vectorOfArgs_shift twin]
  split
  case h_1 =>
    refine (Alike.ofExcept _).bind_same fun n => Alike.pure ?_
    cases entityArg.activeEntity t n <;> rfl
  case h_2 => exact entityList_alike _
  case h_3 => exact Alike.pure (by rw [List.length_map]; rfl)
  case h_4 =>
    refine (Alike.ofExcept_map _ _).bind_moved fun center => ?_
    rw [List.filter_map]
    exact entityList_alike _
  case h_5 =>
    have position : ∀ target : Option Entity,
        Moved o (((target.map (Entity.shift o.ident)).map fun e => Value.vec2 e.position).getD .null)
          ((target.map fun e => Value.vec2 e.position).getD .null) := by
      intro target
      cases target <;> rfl
    cases given? args 0 with
    | none =>
      exact (Alike.pure_moved (Option.map (Entity.shift o.ident)) t.currentEntity?).bind_moved
        fun target => Alike.pure (position target)
    | some v =>
      dsimp only [Option.map_some]
      rw [entityArg_shift twin]
      exact (Alike.ofExcept_map _ _).bind_moved fun target => Alike.pure (position target)
  case h_6 =>
    cases t.currentEntity? with
    | none => exact Alike.pure rfl
    | some e =>
      refine (Alike.ofExcept_map _ _).bind_moved fun v => ?_
      refine (shareVec2_alike v).bind_moved fun v => ?_
      refine (Alike.modify fun s t twin => ?_).bind_same fun _ => Alike.pure rfl
      refine { twin with world := ?_ }
      show s.world.modify e.id _ = (t.world.modify e.id _).shift o.ident
      rw [twin.world]
      exact World.modify_shift _ _ fun _ => rfl
  case h_7 => exact Alike.pure rfl

/--
The clock, scheduling, subscriptions and the log answer moved arguments alike.
A call is made with the moved arguments and is due at the same time.
-/
theorem timing_alike (name : String) (args : List Value) :
    Alike o (Moved o) (timing name (args.map (Value.shift o.ident))) (timing name args) := by
  unfold timing
  refine Alike.get_bind fun s t twin => ?_
  simp only [arg_shift, Value.toNumber_shift, twin.format]
  split
  case h_1 => exact Alike.pure (by rw [twin.time]; rfl)
  case h_2 =>
    refine (Alike.ofExcept _).bind_same fun method => ?_
    rw [twin.callStack]
    cases t.callStack.head? with
    | none => exact (log_alike _ _ _).bind_same fun _ => Alike.pure rfl
    | some serial =>
      dsimp only
      rw [twin.component, Component.shift_name, twin.scheduler, ← List.map_drop,
        Scheduler.schedule_shift]
      refine (Alike.set ?_).bind_same fun _ => ?_
      · exact { twin with scheduler := rfl, callStack := rfl }
      exact (Alike.ofExcept_map _ _).bind_moved fun c =>
        (note_alike _ _ _).bind_same fun _ => Alike.pure rfl
  case h_3 =>
    refine (Alike.ofExcept _).bind_same fun event => (Alike.ofExcept _).bind_same fun handler => ?_
    refine (Alike.set ?_).bind_same fun _ => ?_
    · exact { twin with events := by rw [twin.events] }
    exact (note_alike _ _ _).bind_same fun _ => Alike.pure rfl
  case h_4 =>
    refine (Alike.mapM_same fun v => ?_).bind_same fun parts =>
      (log_alike _ _ _).bind_same fun _ => Alike.pure rfl
    simp only [twin.format]
    exact Alike.ofExcept _
  case h_5 => exact Alike.pure rfl

/-- Writing render properties of the current entity, the moved values in one twin. -/
theorem setProperties_alike {moved entries : List (String × Value)}
    (shifted : moved = shiftNamed o.ident entries) : Alike o Eq (setProperties moved) (setProperties entries) := by
  subst shifted
  refine Alike.modify fun s t twin => ?_
  rw [twin.currentEntity?]
  cases t.currentEntity? with
  | none => exact twin
  | some e =>
    refine { twin with world := ?_ }
    show s.world.modify e.id _ = (t.world.modify e.id _).shift o.ident
    rw [twin.world]
    exact World.modify_shift _ _ fun e => Entity.setProperties_shift e entries

/-- Render properties, audio and physics answer moved arguments alike. -/
theorem effects_alike (name : String) (args : List Value) :
    Alike o (Moved o) (effects name (args.map (Value.shift o.ident))) (effects name args) := by
  unfold effects
  refine Alike.get_bind fun s t twin => ?_
  have zero : (Value.int 0).shift o.ident = .int 0 := rfl
  simp only [arg_shift, given?_shift, Option.getD_map, getD_shift args 1 zero, List.getElem?_map,
    Option.map_map, toNumber_comp_shift, truthy_comp_shift, Value.toNumber_shift,
    Value.numeric_shift, Value.truthy_shift, twin.format, twin.currentEntity?,
    vectorOfArgs_shift twin]
  have done : Alike o (Moved o) (pure Value.null) (pure Value.null) := Alike.pure rfl
  split
  case h_1 =>
    refine (setProperties_alike ?_).bind_same fun _ => ?_
    · rfl
    exact (Alike.ofExcept _).bind_same fun _ => (Alike.ofExcept _).bind_same fun _ =>
      (log_alike _ _ _).bind_same fun _ => done
  case h_2 | h_3 | h_4 | h_5 =>
    refine (setProperties_alike ?_).bind_same fun _ => done
    rfl
  case h_6 =>
    refine (setProperties_alike ?_).bind_same fun _ => done
    rw [shiftNamed_singleton, Value.shift_toValue]
  case h_7 | h_8 | h_10 =>
    exact (Alike.ofExcept _).bind_same fun _ => (note_alike _ _ _).bind_same fun _ => done
  case h_9 | h_11 | h_12 => exact (note_alike _ _ _).bind_same fun _ => done
  case h_13 | h_14 =>
    cases t.currentEntity? with
    | none => exact done
    | some e =>
      exact (Alike.ofExcept_map _ _).bind_moved fun _ => (note_alike _ _ _).bind_same fun _ => done
  case h_15 =>
    exact (Alike.ofExcept_map _ _).bind_moved fun _ => (note_alike _ _ _).bind_same fun _ => done
  case h_16 => exact done

/-- Every built-in that runs no script answers moved arguments alike. -/
theorem leaf_alike (name : String) (args : List Value) :
    Alike o (Moved o) (leaf name (args.map (Value.shift o.ident))) (leaf name args) := by
  unfold leaf
  split
  · exact math_alike name args
  · exact geometry_alike name args
  · exact geometry_alike name args
  · exact entities_alike name args
  · exact timing_alike name args
  · exact timing_alike name args
  · exact timing_alike name args
  · exact effects_alike name args

end Builtin

end GameScript

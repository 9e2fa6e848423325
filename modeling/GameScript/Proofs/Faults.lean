import GameScript.Session.Builtin

/-!
# Which faults a computation can raise

The computations of values, texts and vectors fail with a `Fault` in a few
places only: converting an integer beyond the doubles, dividing integers
beyond them, converting a double that is not finite to an integer, writing
an integer of too many digits, building a vector or colour of numbers that
are not doubles, and using as a vector what is none.

`Raises E x` says that `x` fails, if at all, with a fault in `E`.  Each
lemma below states what one function can raise in the form "for every class
`E` that holds the faults this function names, it raises only faults of
`E`", so that a caller proves membership of the few named faults and never
opens the function.  The class that matters most is `Fault.isArithmetic`: the
faults that arithmetic on values a script computed can raise.
-/

namespace GameScript

/--
The faults of arithmetic on script values: an integer used as a double
beyond the doubles' range, a quotient of integers beyond it, and an integer
written as text with too many digits.
-/
def Fault.isArithmetic : Fault → Bool
  | .intTooLarge | .quotientTooLarge | .intTextTooLong => true
  | _ => false

theorem Fault.isBuiltinFailure_of_isArithmetic {fault : Fault} (arithmetic : fault.isArithmetic) :
    fault.isBuiltinFailure := by
  cases fault <;> simp_all [isArithmetic, isBuiltinFailure]

/-- `x` fails, if at all, with a fault in `E`. -/
def Raises (E : Fault → Prop) (x : Except Fault α) : Prop :=
  ∀ fault, x = .error fault → E fault

variable {E : Fault → Prop} {x : Except Fault α}

@[simp]
theorem raises_ok (a : α) : Raises E (.ok a) ↔ True := by
  simp [Raises]

@[simp]
theorem raises_pure (a : α) : Raises E (pure a) ↔ True := raises_ok a

@[simp]
theorem raises_error (fault : Fault) : Raises E (.error fault : Except Fault α) ↔ E fault := by
  simp [Raises]

@[simp]
theorem raises_throw (fault : Fault) : Raises E (throw fault : Except Fault α) ↔ E fault :=
  raises_error fault

@[simp]
theorem raises_bind (f : α → Except Fault β) :
    Raises E (x >>= f) ↔ Raises E x ∧ ∀ a, x = .ok a → Raises E (f a) := by
  cases x <;> simp [Raises, bind, Except.bind]

@[simp]
theorem raises_map (f : α → β) : Raises E (f <$> x) ↔ Raises E x := by
  cases x <;> simp [Raises, Functor.map, Except.map]

theorem Raises.mono {E' : Fault → Prop} (raises : Raises E x)
    (widen : ∀ fault, E fault → E' fault) : Raises E' x := fun fault failed => widen fault (raises fault failed)

variable (E)

/-! ## Numbers -/

namespace Number

theorem toFloat_raises (tooLarge : E .intTooLarge) (n : Number) : Raises E n.toFloat := by
  cases n with
  | int n =>
      simp only [toFloat]
      split <;> simp [tooLarge]
  | float x => simp [toFloat]

theorem combine_raises (tooLarge : E .intTooLarge) (onInt : Int → Int → Int)
    (onFloat : Float → Float → Float) (a b : Number) : Raises E (combine onInt onFloat a b) := by
  unfold combine
  split
  · simp
  · simp [toFloat_raises E tooLarge]

theorem div_raises (tooLarge : E .intTooLarge) (quotient : E .quotientTooLarge) (a b : Number) :
    Raises E (div a b) := by
  unfold div
  split
  · dsimp only
    split <;> simp [quotient]
  · simp [toFloat_raises E tooLarge]

theorem truncate_raises (nan : E .nanToInt) (infinite : E .infinityToInt) (n : Number) :
    Raises E n.truncate := by
  unfold truncate
  split
  · simp
  · split <;> simp [nan, infinite]

theorem floorFloat_raises (nan : E .nanToInt) (infinite : E .infinityToInt) (x : Float) :
    Raises E (floorFloat x) := by
  unfold floorFloat
  split
  · simp [nan]
  · simp [infinite]
  · split <;> simp

end Number

/-! ## Texts -/

theorem checkedIntText_raises (tooLong : E .intTextTooLong) (n : Int) :
    Raises E (checkedIntText n) := by
  unfold checkedIntText
  split <;> simp [tooLong]

section Texts

variable {t : EntityText}

mutual

theorem Value.repr_raises (tooLong : E .intTextTooLong)
    (record : ∀ opened id, Raises E (t.record opened id)) :
    ∀ (opened : List Holder) (v : Value), Raises E (v.repr t opened)
  | _, .null | _, .bool _ | _, .float _ _ | _, .str _ | _, .vec2 _ | _, .color _ => by
      simp [Value.repr]
  | _, .int n => by simp [Value.repr, checkedIntText_raises E tooLong]
  | opened, .entity id => by simp [Value.repr, record opened id]
  | opened, .map ident entries => by
      have inner := Value.reprEntries_raises tooLong record (.object ident :: opened) entries
      unfold Value.repr
      split <;> simp [inner]
  | opened, .list ident items => by
      have inner := Value.reprItems_raises tooLong record (.object ident :: opened) items
      unfold Value.repr
      split
      · simp
      · split <;> simp [inner]

theorem Value.reprItems_raises (tooLong : E .intTextTooLong)
    (record : ∀ opened id, Raises E (t.record opened id)) :
    ∀ (opened : List Holder) (items : List Value), Raises E (Value.reprItems t opened items)
  | _, [] => by simp [Value.reprItems]
  | opened, [v] => by simp [Value.reprItems, Value.repr_raises tooLong record opened v]
  | opened, v :: w :: rest => by
      have first := Value.repr_raises tooLong record opened v
      have more := Value.reprItems_raises tooLong record opened (w :: rest)
      simp only [Value.reprItems]
      simp [first, more]

theorem Value.reprEntries_raises (tooLong : E .intTextTooLong)
    (record : ∀ opened id, Raises E (t.record opened id)) :
    ∀ (opened : List Holder) (entries : List (Value × Value)),
      Raises E (Value.reprEntries t opened entries)
  | _, [] => by simp [Value.reprEntries]
  | opened, [(k, v)] => by
      simp [Value.reprEntries, Value.repr_raises tooLong record opened k,
        Value.repr_raises tooLong record opened v]
  | opened, (k, v) :: entry :: rest => by
      have key := Value.repr_raises tooLong record opened k
      have value := Value.repr_raises tooLong record opened v
      have more := Value.reprEntries_raises tooLong record opened (entry :: rest)
      simp only [Value.reprEntries]
      simp [key, value, more]

end

theorem Value.format_raises (tooLong : E .intTextTooLong)
    (record : ∀ opened id, Raises E (t.record opened id)) (v : Value) : Raises E (v.format t) := by
  unfold Value.format
  split <;> simp [checkedIntText_raises E tooLong, Value.repr_raises E tooLong record]

end Texts

namespace Session

/--
Writing an entity record raises only a too-long integer text: a nested record
is written with one unit of fuel less, its component part first.
-/
theorem entityRecord_raises (tooLong : E .intTextTooLong) (s : Session) :
    ∀ fuel opened id, Raises E (s.entityRecord fuel opened id)
  | 0, _, _ => by simp [entityRecord]
  | fuel + 1, opened, id => by
      have nested := entityRecord_raises tooLong s fuel
      have inner : ∀ opened holder entries,
          Raises E (namedMapText ⟨s.entityName, s.entityRecord fuel⟩ opened holder entries) := by
        intro opened holder entries
        unfold namedMapText
        split
        · simp
        · split
          · simp
          · simp [Value.reprEntries_raises E (t := ⟨s.entityName, s.entityRecord fuel⟩) tooLong
              nested]
      unfold entityRecord
      split
      · simp
      · refine (raises_bind _).2 ⟨inner _ _ _, fun _ _ => ?_⟩
        dsimp only
        split <;> simp [inner]

/-- Writing a value in a session fails only on an integer too long for text. -/
theorem format_raises (tooLong : E .intTextTooLong) (s : Session) (v : Value) :
    Raises E (s.format v) :=
  Value.format_raises E tooLong (entityRecord_raises E tooLong s _) v

end Session

/-! ## Operators -/

theorem Value.scaleVec_raises (tooLarge : E .intTooLarge) (v : Vec2) (k : Number) :
    Raises E (Value.scaleVec v k) := by
  simp [Value.scaleVec, Number.toFloat_raises E tooLarge]

/-- A binary operator fails only by arithmetic on its operands' numbers, or by writing one as text. -/
theorem Value.binary_raises {t : EntityText} (record : ∀ opened id, Raises E (t.record opened id))
    (tooLarge : E .intTooLarge) (quotient : E .quotientTooLarge) (tooLong : E .intTextTooLong)
    (op : BinOp) (l r : Value) : Raises E (Value.binary t op l r) := by
  have format := Value.format_raises E tooLong record
  cases op <;> simp only [Value.binary]
  case add =>
    split <;> simp [format, Number.combine_raises E tooLarge, Number.add]
  case sub =>
    split <;> simp [Number.combine_raises E tooLarge, Number.sub]
  case mul =>
    split <;> simp [Number.combine_raises E tooLarge, Number.mul, Value.scaleVec_raises E tooLarge]
  case div =>
    split
    · split
      · simp
      · simp [Number.div_raises E tooLarge quotient, Value.scaleVec_raises E tooLarge]
    · split
      · simp
      · simp [Number.div_raises E tooLarge quotient]
  all_goals simp

/-! ## Vectors and entities -/

namespace Builtin

theorem makeVec2_raises (refused : ∀ message, E (.invalidFields message))
    (wording : RefusalWording) (x y : Value) : Raises E (makeVec2 wording x y) := by
  unfold makeVec2
  split <;> simp [refused]

theorem makeColor_raises (refused : ∀ message, E (.invalidFields message))
    (wording : RefusalWording) (r g b a : Value) : Raises E (makeColor wording r g b a) := by
  unfold makeColor
  split <;> simp [refused]

theorem vectorView_raises (refused : ∀ message, E (.invalidFields message))
    (notVector : ∀ shown, E (.notAVector shown)) (tooLong : E .intTextTooLong) (s : Session)
    (v : Value) : Raises E (vectorView s v) := by
  unfold vectorView
  split
  · simp
  · split <;> simp [notVector, Session.format_raises E tooLong]
  · split
    · exact makeVec2_raises E refused _ _ _
    · simp [notVector, Session.format_raises E tooLong]
  · simp [notVector, Session.format_raises E tooLong]

theorem vectorOfArgs_raises (refused : ∀ message, E (.invalidFields message))
    (notVector : ∀ shown, E (.notAVector shown)) (tooLong : E .intTextTooLong)
    (noArguments : E .noVectorArguments) (s : Session) (args : List Value) :
    Raises E (vectorOfArgs s args) := by
  unfold vectorOfArgs
  split
  · simp [noArguments]
  · exact vectorView_raises E refused notVector tooLong s _
  · exact makeVec2_raises E refused _ _ _

theorem entityArg_raises (nan : E .nanToInt) (infinite : E .infinityToInt) (s : Session)
    (v : Value) : Raises E (entityArg s v) := by
  unfold entityArg
  split
  · simp
  · simp [Number.truncate_raises E nan infinite]

end Builtin

/-- Scheduling fails only when the delay is an integer beyond the doubles. -/
theorem Scheduler.schedule_raises (tooLarge : E .intTooLarge) (s : Scheduler) (delay : Number)
    (component method : String) (args : List Value) :
    Raises E (s.schedule delay component method args).1 := by
  intro fault failed
  simp only [schedule] at failed
  generalize Scheduler.wait delay = waited at failed
  cases converted : waited.toFloat with
  | error reason =>
      rw [converted] at failed
      cases failed
      exact Number.toFloat_raises E tooLarge waited _ converted
  | ok w =>
      rw [converted] at failed
      cases failed

end GameScript

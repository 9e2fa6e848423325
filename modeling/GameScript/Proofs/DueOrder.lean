import Mathlib
import GameScript.Scheduler

/-!
# The order of doubles that are numbers

A double compares with `<`, `≤` and `==` by the rules of IEEE 754, read off
its unpacked form: the infinities at the ends, negative finite doubles by
exponent and mantissa reversed, the two zeros equal, positive finite doubles
by exponent and mantissa.  Not-a-number compares false both ways with every
double, itself included.

`Float.rank` places a double on a line: for doubles that are numbers `<` is
the order of their ranks, `==` the equality of their ranks, and `≤` the
order-or-equality of them.  So on numbers the comparisons of doubles are
those of a linear order, and every fact about them is a fact about ranks.

The heap and the sort compare entries only through a test `lt a b`, "`a`
comes strictly before `b`", and the test need not be an order on all entries:
a time that is not a number compares false both ways with every time.
`Keyed lt key good` says that on the entries where `good` holds the test is
the strict order of their keys in a linear order.  There a test that fails
one way is the order of the keys the other way, which is what a sort that
places an entry after those it does not come before relies on.

A call waiting on the scheduler is due at a double.  When that double is a
number, `Callback.before` is the lexicographic order of its rank and the
call's sequence number, `Callback.dueKey`.
-/

namespace GameScript

section Keyed

variable {α K : Type} [LinearOrder K]

/-- On entries that are `good`, the test `lt` compares keys. -/
def Keyed (lt : α → α → Bool) (key : α → K) (good : α → Prop) : Prop :=
  ∀ a b, good a → good b → (lt a b = true ↔ key a < key b)

namespace Keyed

variable {lt : α → α → Bool} {key : α → K} {good : α → Prop} {a b : α}

/-- An entry that does not come strictly before another has a key no smaller. -/
theorem le_of_false (keyed : Keyed lt key good) (goodA : good a) (goodB : good b)
    (notBefore : lt b a = false) : key a ≤ key b := by
  rcases lt_or_ge (key b) (key a) with earlier | later
  · have test := (keyed b a goodB goodA).2 earlier
    rw [notBefore] at test
    exact absurd test Bool.false_ne_true
  · exact later

theorem lt_of_true (keyed : Keyed lt key good) (goodA : good a) (goodB : good b)
    (before : lt a b = true) : key a < key b :=
  (keyed a b goodA goodB).1 before

end Keyed

end Keyed

open Float.Model

/--
Where an unpacked double sits on the line of doubles: negative infinity,
then the negative finite doubles (the larger exponent and mantissa the
earlier), the zeros, the positive finite doubles, positive infinity.
Not-a-number is put past them all; no comparison reads its place.
-/
def unpackedRank : UnpackedFloat → ℕ ×ₗ ℤ ×ₗ ℤ
  | .infinity .negative => toLex (0, toLex (0, 0))
  | .finite .negative m e _ => toLex (1, toLex (-e, -(m : ℤ)))
  | .zero _ => toLex (2, toLex (0, 0))
  | .finite .positive m e _ => toLex (3, toLex (e, (m : ℤ)))
  | .infinity .positive => toLex (4, toLex (0, 0))
  | .notANumber => toLex (5, toLex (0, 0))

section Unpacked

variable {a b : UnpackedFloat}

theorem unpackedRank_lt (numberA : a.isNaN = false) (numberB : b.isNaN = false) :
    a.lt b = true ↔ unpackedRank a < unpackedRank b := by
  rcases a with (_ | _) | _ | (_ | _) | ⟨(_ | _), m, e, _⟩ <;>
  rcases b with (_ | _) | _ | (_ | _) | ⟨(_ | _), m', e', _⟩ <;>
  simp_all [UnpackedFloat.lt, UnpackedFloat.compare, unpackedRank, UnpackedFloat.isNaN,
    Prod.Lex.toLex_lt_toLex, Ordering.then_eq_lt, Ordering.then_eq_gt, Ordering.swap_eq_lt,
    compare_lt_iff_lt, compare_gt_iff_gt]
  all_goals decide

theorem unpackedRank_beq (numberA : a.isNaN = false) (numberB : b.isNaN = false) :
    a.beq b = true ↔ unpackedRank a = unpackedRank b := by
  rcases a with (_ | _) | _ | (_ | _) | ⟨(_ | _), m, e, _⟩ <;>
  rcases b with (_ | _) | _ | (_ | _) | ⟨(_ | _), m', e', _⟩ <;>
  simp_all [UnpackedFloat.beq, UnpackedFloat.compare, unpackedRank, UnpackedFloat.isNaN,
    Ordering.then_eq_eq] <;>
  rfl

/-- `≤` is `<` or `==`, for every two unpacked doubles. -/
theorem unpacked_le_iff : a.le b = true ↔ a.lt b = true ∨ a.beq b = true := by
  simp only [UnpackedFloat.le, UnpackedFloat.lt, UnpackedFloat.beq, beq_iff_eq]
  cases a.compare b with
  | none => simp
  | some o => cases o <;> simp

theorem unpacked_not_le_of_isNaN (notNumber : b.isNaN = true) : a.le b = false := by
  cases b <;> simp_all [UnpackedFloat.isNaN, UnpackedFloat.le, UnpackedFloat.compare]
  cases a <;> rfl

end Unpacked

namespace Float

/-- The place of a double on the line of doubles. -/
def rank (x : Float) : ℕ ×ₗ ℤ ×ₗ ℤ := unpackedRank x.toModel.unpack

section Rank

variable {x y : Float}

theorem lt_iff_rank (numberX : x.isNaN = false) (numberY : y.isNaN = false) :
    x < y ↔ Float.rank x < Float.rank y := by
  show decide (x.toModel.unpack.lt y.toModel.unpack = true) = true ↔ _
  rw [decide_eq_true_iff]
  exact unpackedRank_lt numberX numberY

theorem beq_iff_rank (numberX : x.isNaN = false) (numberY : y.isNaN = false) :
    (x == y) = true ↔ Float.rank x = Float.rank y :=
  unpackedRank_beq numberX numberY

theorem le_iff_rank (numberX : x.isNaN = false) (numberY : y.isNaN = false) :
    x ≤ y ↔ Float.rank x ≤ Float.rank y := by
  have split : x ≤ y ↔ x < y ∨ (x == y) = true := by
    show decide (x.toModel.unpack.le y.toModel.unpack = true) = true ↔
      decide (x.toModel.unpack.lt y.toModel.unpack = true) = true ∨
        x.toModel.unpack.beq y.toModel.unpack = true
    rw [decide_eq_true_iff, decide_eq_true_iff]
    exact unpacked_le_iff
  rw [split, lt_iff_rank numberX numberY, beq_iff_rank numberX numberY, le_iff_lt_or_eq]

/-- Nothing is at most not-a-number. -/
theorem not_le_of_isNaN (notNumber : y.isNaN = true) : ¬ x ≤ y := by
  show ¬ decide (x.toModel.unpack.le y.toModel.unpack = true) = true
  rw [decide_eq_true_iff, unpacked_not_le_of_isNaN notNumber]
  exact Bool.false_ne_true

/-- `≤` chains through doubles that are numbers, whatever the last double is. -/
theorem le_of_le_of_le {z : Float} (numberX : x.isNaN = false) (numberY : y.isNaN = false)
    (first : x ≤ y) (second : y ≤ z) : x ≤ z := by
  cases numberZ : z.isNaN with
  | false =>
      rw [le_iff_rank numberX numberZ]
      exact le_trans ((le_iff_rank numberX numberY).1 first) ((le_iff_rank numberY numberZ).1 second)
  | true => exact absurd second (not_le_of_isNaN numberZ)

end Rank

end Float

namespace Callback

/-- A call due at a double that is a number. -/
def Timed (c : Callback) : Prop := c.time.isNaN = false

/-- The due order of calls due at numbers, as a key: the rank of the time, then the sequence number. -/
def dueKey (c : Callback) : (ℕ ×ₗ ℤ ×ₗ ℤ) ×ₗ ℕ := toLex (Float.rank c.time, c.sequence)

variable {c d : Callback}

/-- Of two calls due at numbers, one comes before the other exactly when its key is smaller. -/
theorem before_iff_dueKey (timedC : c.Timed) (timedD : d.Timed) :
    c.before d = true ↔ c.dueKey < d.dueKey := by
  unfold before dueKey
  rw [Prod.Lex.toLex_lt_toLex]
  by_cases same : (c.time == d.time) = true
  · have ranks := (Float.beq_iff_rank timedC timedD).1 same
    simp [bne, same, ranks]
  · have ranks : Float.rank c.time ≠ Float.rank d.time := fun equal =>
      same ((Float.beq_iff_rank timedC timedD).2 equal)
    simp only [bne, same, Bool.not_false, if_true, ranks, false_and, or_false,
      decide_eq_true_iff]
    exact Float.lt_iff_rank timedC timedD

/-- Calls with different sequence numbers have different keys. -/
theorem dueKey_ne (different : c.sequence ≠ d.sequence) : c.dueKey ≠ d.dueKey := by
  intro same
  have sequences := congrArg (fun k => (ofLex k).2) same
  exact different sequences

/-- Calls with distinct sequence numbers have distinct keys. -/
theorem nodup_dueKey {calls : List Callback} (distinct : (calls.map (·.sequence)).Nodup) :
    (calls.map dueKey).Nodup := by
  rw [List.Nodup, List.pairwise_map] at distinct ⊢
  exact distinct.imp fun different same => different (congrArg (fun k => (ofLex k).2) same)

/-- On calls due at numbers, `before` is the order of their keys. -/
theorem before_keyed : Keyed before dueKey Timed := fun _ _ timedC timedD =>
  before_iff_dueKey timedC timedD

/-- A call due no later than another, by key, is due no later in time. -/
theorem time_le_of_dueKey_le (timedC : c.Timed) (timedD : d.Timed) (earlier : c.dueKey ≤ d.dueKey) :
    c.time ≤ d.time := by
  rw [Float.le_iff_rank timedC timedD]
  unfold dueKey at earlier
  rcases Prod.Lex.toLex_le_toLex.1 earlier with lower | ⟨same, _⟩
  · exact lower.le
  · exact same.le

end Callback

end GameScript

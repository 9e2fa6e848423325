import GameScript.Value.Basic
import GameScript.Fault
import GameScript.Number.Binary64

/-!
# Number arithmetic

Two integers combine exactly; as soon as a double takes part, the integer is
converted to the nearest double first, and an integer beyond the range of
doubles fails with `Fault.intTooLarge`. A quotient of two integers is rounded
once, from the exact ratio, and fails with `Fault.quotientTooLarge` when it
lies beyond the largest double. Comparisons are exact across the two kinds, so
`2^53 + 1` differs from the double `2^53`.
-/

namespace GameScript.Number

/-- A number as a double; an integer beyond the range of doubles fails. -/
def toFloat : Number → Except Fault Float
  | .int n =>
    match Binary64.ofInt? n with
    | some x => .ok x
    | none => .error .intTooLarge
  | .float x => .ok x

/-- An exact operation on two integers, a double operation once a double takes part. -/
def combine (onInt : Int → Int → Int) (onFloat : Float → Float → Float) :
    Number → Number → Except Fault Number
  | .int a, .int b => .ok (.int (onInt a b))
  | a, b => do
    let x ← a.toFloat
    let y ← b.toFloat
    return .float (onFloat x y)

/-- Sum. -/
def add : Number → Number → Except Fault Number :=
  combine (· + ·) (· + ·)

/-- Difference. -/
def sub : Number → Number → Except Fault Number :=
  combine (· - ·) (· - ·)

/-- Product. -/
def mul : Number → Number → Except Fault Number :=
  combine (· * ·) (· * ·)

/--
True quotient, always a double. Two integers give the double nearest their
exact ratio; its sign is negative when the signs differ, so `0 / -5` is `-0.0`.
-/
def div : Number → Number → Except Fault Number
  | .int a, .int b =>
    let x := Binary64.ofRatio ((a < 0) != (b < 0)) a.natAbs b.natAbs
    if x.isInf then .error .quotientTooLarge else .ok (.float x)
  | a, b => do
    let x ← a.toFloat
    let y ← b.toFloat
    return .float (x / y)

/-- Negation; integers stay exact. -/
def neg : Number → Number
  | .int n => .int (-n)
  | .float x => .float (-x)

/-- Order of two doubles; `none` when one is not a number. -/
def compareFloat (x y : Float) : Option Ordering :=
  if x < y then some .lt
  else if x == y then some .eq
  else if y < x then some .gt
  else none

/-- Exact order of two numbers; `none` when a not-a-number takes part. -/
def compare? : Number → Number → Option Ordering
  | .int a, .int b => some (compare a b)
  | .int a, .float y => Binary64.compareIntFloat a y
  | .float x, .int b => (Binary64.compareIntFloat b x).map Ordering.swap
  | .float x, .float y => compareFloat x y

/-- Whether a number is zero (either sign of zero). -/
def isZero : Number → Bool
  | .int n => n == 0
  | .float x => x == 0.0

/-- The integer part, toward zero; infinities and not-a-number fail. -/
def truncate : Number → Except Fault Int
  | .int n => .ok n
  | .float x =>
    match Binary64.shape x with
    | .notANumber => .error .nanToInt
    | .infinite _ => .error .infinityToInt
    | .finite f => .ok f.truncate

/-- The largest integer not above a double; infinities and not-a-number fail. -/
def floorFloat (x : Float) : Except Fault Int :=
  match Binary64.shape x with
  | .notANumber => .error .nanToInt
  | .infinite _ => .error .infinityToInt
  | .finite f =>
    let t := f.truncate
    if f.negative && !f.isIntegral then .ok (t - 1) else .ok t

end GameScript.Number

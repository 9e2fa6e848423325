/-!
# Binary64 numbers as exact quantities

A double is read off its bit pattern as a sign, an integer significand and a
power of two. In the other direction a ratio of natural numbers is rounded to
the nearest double, a tie going to the even significand, and a ratio past the
largest double becomes an infinity.

Every exact conversion of the value layer (from integers, from decimal text,
from integer quotients) goes through `Binary64.ofRatio`, so a single rounding
rule serves them all. Comparisons between integers and doubles are made on the
exact values, never on a rounded copy.
-/

namespace GameScript.Binary64

/-- A finite double, worth `(-1)^negative * significand * 2^exponent`. -/
structure Finite where
  negative : Bool
  significand : Nat
  exponent : Int
  deriving Repr, DecidableEq

/-- What a bit pattern denotes. -/
inductive Shape where
  | notANumber
  | infinite (negative : Bool)
  | finite (value : Finite)
  deriving Repr, DecidableEq

/-- The value of a 64-bit pattern: sign bit, eleven exponent bits, fifty-two fraction bits. -/
def shapeOfBits (bits : Nat) : Shape :=
  let negative := bits / Nat.pow 2 63 % 2 == 1
  let biased : Nat := bits / Nat.pow 2 52 % Nat.pow 2 11
  let fraction : Nat := bits % Nat.pow 2 52
  if biased = Nat.pow 2 11 - 1 then
    if fraction = 0 then .infinite negative else .notANumber
  else if biased = 0 then
    .finite ⟨negative, fraction, -1074⟩
  else
    .finite ⟨negative, fraction + Nat.pow 2 52, (biased : Int) - 1075⟩

/-- The value a double denotes. -/
def shape (x : Float) : Shape :=
  shapeOfBits x.toBits.toNat

/-- Whether the sign bit of a double is set (true also of `-0.0`). -/
def signBit (x : Float) : Bool :=
  x.toBits.toNat / Nat.pow 2 63 % 2 == 1

/-- Quotient, remainder and divisor of `num / den` measured in units of `2^exponent`. -/
def scaledDivision (num den : Nat) (exponent : Int) : Nat × Nat × Nat :=
  if 0 ≤ exponent then
    let divisor := den * Nat.pow 2 exponent.toNat
    (num / divisor, num % divisor, divisor)
  else
    let dividend := num * Nat.pow 2 (-exponent).toNat
    (dividend / den, dividend % den, den)

/-- Round a quotient `q` with remainder `r` of divisor `d` to the nearest integer, a tie to the even one. -/
def roundHalfEven (q r d : Nat) : Nat :=
  if d < 2 * r ∨ (2 * r = d ∧ q % 2 = 1) then q + 1 else q

/--
The unit in the last place for `num / den`: the exponent that leaves 53
significant bits, but never below the subnormal step `2^-1074`.
-/
def unitExponent (num den : Nat) : Int :=
  let estimate : Int := (num.log2 : Int) - (den.log2 : Int) - 53
  let first := (scaledDivision num den estimate).1
  let exponent := if Nat.pow 2 53 ≤ first then estimate + 1 else estimate
  max exponent (-1074)

/--
Bit pattern of the double nearest to `num / den` with the given sign. A value
whose rounded significand needs more than 53 bits at exponent 971 is infinite.
-/
def ratioBits (negative : Bool) (num den : Nat) : Nat :=
  let sign := if negative then Nat.pow 2 63 else 0
  if num = 0 ∨ den = 0 then sign
  else
    let exponent := unitExponent num den
    let (q, r, d) := scaledDivision num den exponent
    let rounded := roundHalfEven q r d
    let (significand, exponent) :=
      if rounded = Nat.pow 2 53 then (Nat.pow 2 52, exponent + 1) else (rounded, exponent)
    if 971 < exponent then sign + (Nat.pow 2 11 - 1) * Nat.pow 2 52
    else if significand < Nat.pow 2 52 then sign + significand
    else sign + (exponent + 1075).toNat * Nat.pow 2 52 + (significand - Nat.pow 2 52)

/-- The double nearest to `num / den`, with the given sign. -/
def ofRatio (negative : Bool) (num den : Nat) : Float :=
  Float.ofBits (ratioBits negative num den).toUInt64

/-- The infinity of the given sign. -/
def infinity (negative : Bool) : Float :=
  Float.ofBits
    ((if negative then Nat.pow 2 63 else 0) + (Nat.pow 2 11 - 1) * Nat.pow 2 52 : Nat).toUInt64

/-- The quiet not-a-number. -/
def notANumber : Float :=
  Float.ofBits ((Nat.pow 2 11 - 1) * Nat.pow 2 52 + Nat.pow 2 51 : Nat).toUInt64

/-- The double nearest to an integer; `none` when it rounds past the largest double. -/
def ofInt? (n : Int) : Option Float :=
  let x := ofRatio (n < 0) n.natAbs 1
  if x.isInf then none else some x

/-- The exact value of a finite double as a numerator over a power-of-two denominator. -/
def Finite.ratio (f : Finite) : Int × Nat :=
  let magnitude : Int :=
    if 0 ≤ f.exponent then (f.significand * Nat.pow 2 f.exponent.toNat : Nat) else f.significand
  let denominator := if 0 ≤ f.exponent then 1 else Nat.pow 2 (-f.exponent).toNat
  (if f.negative then -magnitude else magnitude, denominator)

/-- The integer part of a finite double, rounded toward zero. -/
def Finite.truncate (f : Finite) : Int :=
  let (num, den) := f.ratio
  if num < 0 then -((-num).toNat / den : Nat) else (num.toNat / den : Nat)

/-- Whether a finite double is a whole number. -/
def Finite.isIntegral (f : Finite) : Bool :=
  let (num, den) := f.ratio
  num.natAbs % den == 0

/-- Order of two exact ratios `a / b` and `c / d` with positive denominators. -/
def compareRatio (a : Int) (b : Nat) (c : Int) (d : Nat) : Ordering :=
  compare (a * d) (c * b)

/--
Exact order of an integer and a double; `none` when the double is not a number.
An infinity lies beyond every integer.
-/
def compareIntFloat (n : Int) (x : Float) : Option Ordering :=
  match shape x with
  | .notANumber => none
  | .infinite negative => some (if negative then .gt else .lt)
  | .finite f =>
    let (num, den) := f.ratio
    some (compareRatio n 1 num den)

end GameScript.Binary64

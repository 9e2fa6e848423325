import GameScript.Number.Binary64

/-!
# The length of a vector

`Binary64.hypot` is the length `√(x² + y²)` of a pair of doubles, computed
in double arithmetic the way the scripting host computes it, so that it agrees
with the host to the last bit, not only to within a rounding.

Both coordinates are scaled by the power of two that brings the larger into
`[1/2, 1)`. Each scaled coordinate is split into two halves of at most 26
significant bits, so that every partial product of its square is exact, and
the products are added to a running sum that starts at one, the rounding
error of each addition being collected apart. The root of the sum less one is
then corrected by one Newton step computed the same way, and scaled back.
When the larger coordinate is below `2⁻¹⁰²⁴` its scaling power is beyond the
doubles; both coordinates are then divided by the larger one instead, their
squares summed the same way, and the root multiplied back.

An infinite coordinate gives an infinite length even beside a not-a-number;
otherwise a not-a-number gives a not-a-number, and a zero pair a zero.
-/

namespace GameScript.Binary64

/-- The exponent `e` with `|x| = m · 2^e` and `1/2 ≤ m < 1`, for a finite nonzero double. -/
def binaryExponent (x : Float) : Int :=
  match shape x with
  | .finite f => if f.significand = 0 then 0 else f.exponent + f.significand.log2 + 1
  | _ => 0

/-- The double `2^k`, exact for `-1074 ≤ k ≤ 1023`. -/
def twoPow (k : Int) : Float :=
  if 0 ≤ k then ofRatio false (Nat.pow 2 k.toNat) 1 else ofRatio false 1 (Nat.pow 2 (-k).toNat)

/-- Split a double into a high part of at most 26 significant bits and the exact rest. -/
def halves (x : Float) : Float × Float :=
  let t := 134217729.0 * x
  let hi := t - (t - x)
  (hi, x - hi)

/-- Add `x` to the running sum, collecting the rounding error of the addition apart. -/
def accumulate (acc : Float × Float) (x : Float) : Float × Float :=
  let sum := acc.1 + x
  (sum, acc.2 + ((acc.1 - sum) + x))

/-- Add the square of `hi + lo` to the running sum, product by product. -/
def addSquare (acc : Float × Float) (hi lo : Float) : Float × Float :=
  accumulate (accumulate (accumulate acc (hi * hi)) (2.0 * hi * lo)) (lo * lo)

/-- Take the square of `hi + lo` from the running sum, product by product. -/
def takeSquare (acc : Float × Float) (hi lo : Float) : Float × Float :=
  accumulate (accumulate (accumulate acc (-hi * hi)) (-2.0 * hi * lo)) (-lo * lo)

/--
The length of `(a, b)` for finite `a, b ≥ 0` whose larger `top` is at least
`2⁻¹⁰²⁴`.
-/
def scaledLength (a b top : Float) : Float :=
  let scale := twoPow (-binaryExponent top)
  let (ahi, alo) := halves (a * scale)
  let (bhi, blo) := halves (b * scale)
  let acc := addSquare (addSquare (1.0, 0.0) ahi alo) bhi blo
  let h := Float.sqrt (acc.1 - 1.0 + acc.2)
  let (hhi, hlo) := halves h
  let acc := takeSquare acc hhi hlo
  let x := acc.1 - 1.0 + acc.2
  (h + x / (2.0 * h)) / scale

/--
The length `√(x² + y²)` of a pair of doubles. The larger coordinate is found
as a running maximum from zero that skips a not-a-number.
-/
def hypot (x y : Float) : Float :=
  let a := x.abs
  let b := y.abs
  let top := if a > 0.0 then a else 0.0
  let top := if b > top then b else top
  if top.isInf then top
  else if a.isNaN || b.isNaN then notANumber
  else if top == 0.0 then top
  else if binaryExponent top < -1023 then
    let acc := accumulate (accumulate (1.0, 0.0) ((a / top) * (a / top))) ((b / top) * (b / top))
    top * Float.sqrt (acc.1 - 1.0 + acc.2)
  else scaledLength a b top

end GameScript.Binary64

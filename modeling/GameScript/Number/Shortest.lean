import GameScript.Number.Binary64

/-!
# Shortest decimal digits of a double

A positive finite double `m * 2^q` stands for every real that rounds to it: the
interval between the midpoints to its two neighbours, both ends included when
`m` is even (a tie rounds to the even significand). `Decimal.shortest` looks
for the fewest significant digits whose decimal lies in that interval, trying
1, 2, ... 17 digits. On each grid only the two grid points around the value
need testing: if any point of the grid lies in the interval, the interval,
which contains the value, also contains the neighbour on that side. Of two
hits the nearer one wins, and an exact tie goes to the even digit string.

All comparisons are exact, on natural numbers scaled by powers of 2 and 10.
-/

namespace GameScript

/-- A decimal `digits * 10^exponent`; a nonzero `digits` has no trailing zero. -/
structure Decimal where
  digits : Nat
  exponent : Int
  deriving Repr, DecidableEq

namespace Decimal

/-- Order of `a * 10^k` against `b * 2^j`, both sides exact. -/
def compareScaled (a : Nat) (k : Int) (b : Nat) (j : Int) : Ordering :=
  let left := a * Nat.pow 10 k.toNat * Nat.pow 2 (-j).toNat
  let right := b * Nat.pow 2 j.toNat * Nat.pow 10 (-k).toNat
  compare left right

/-- `⌊m * 2^q / 10^k⌋`. -/
def gridFloor (m : Nat) (q k : Int) : Nat :=
  (m * Nat.pow 2 q.toNat * Nat.pow 10 (-k).toNat) / (Nat.pow 2 (-q).toNat * Nat.pow 10 k.toNat)

/-- The largest `e` with `10^e ≤ m * 2^q`, for `m > 0`. -/
def decimalExponent (m : Nat) (q : Int) : Int :=
  let estimate : Int := ((m.log2 : Int) + q) * 30103 / 100000
  let fits (e : Int) : Bool := compareScaled 1 e m q != .gt
  if fits (estimate + 1) then estimate + 1
  else if fits estimate then estimate
  else if fits (estimate - 1) then estimate - 1
  else estimate - 2

/-- Remove trailing zeros, raising the exponent for each. -/
def normalize (digits : Nat) (exponent : Int) : Decimal :=
  go digits exponent digits
where
  go (digits : Nat) (exponent : Int) : Nat → Decimal
    | 0 => ⟨digits, exponent⟩
    | fuel + 1 =>
      if digits ≠ 0 ∧ digits % 10 = 0 then go (digits / 10) (exponent + 1) fuel
      else ⟨digits, exponent⟩

/--
The rounding interval of `m * 2^q` in units of `2^(q-2)`: the value is `4m`,
the upper end `4m + 2`, and the lower end `4m - 2`, or `4m - 1` when the
significand is the smallest of a binade above the subnormals (the gap below
is then half as wide).
-/
def interval (m : Nat) (q : Int) : Nat × Nat :=
  let narrowBelow := m = Nat.pow 2 52 ∧ -1074 < q
  (if narrowBelow then 4 * m - 1 else 4 * m - 2, 4 * m + 2)

/-- Whether `d * 10^k` lies in the rounding interval of `m * 2^q`. -/
def inInterval (m : Nat) (q : Int) (d : Nat) (k : Int) : Bool :=
  let (low, high) := interval m q
  let inclusive := m % 2 = 0
  let aboveLow := match compareScaled d k low (q - 2) with
    | .gt => true
    | .eq => inclusive
    | .lt => false
  let belowHigh := match compareScaled d k high (q - 2) with
    | .lt => true
    | .eq => inclusive
    | .gt => false
  aboveLow && belowHigh

/--
The candidate with `digitCount` significant digits, if one lies in the
interval. The value is weighed against the midpoint `(below + above) / 2 *
10^k`.
-/
def candidate (m : Nat) (q : Int) (digitCount : Nat) : Option Decimal :=
  let k := decimalExponent m q - digitCount + 1
  let below := gridFloor m q k
  let above := below + 1
  match inInterval m q below k, inInterval m q above k with
  | true, true =>
    match compareScaled (below + above) k (8 * m) (q - 2) with
    | .gt => some (normalize below k)
    | .lt => some (normalize above k)
    | .eq => some (normalize (if below % 2 = 0 then below else above) k)
  | true, false => some (normalize below k)
  | false, true => some (normalize above k)
  | false, false => none

/-- The fewest-digit decimal that reads back as the positive double `m * 2^q`. -/
def shortest (m : Nat) (q : Int) : Decimal :=
  go 1 17
where
  go (digitCount : Nat) : Nat → Decimal
    | 0 => normalize (gridFloor m q (decimalExponent m q - 16)) (decimalExponent m q - 16)
    | fuel + 1 =>
      match candidate m q digitCount with
      | some d => d
      | none => go (digitCount + 1) fuel

end Decimal

end GameScript

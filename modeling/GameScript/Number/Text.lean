import GameScript.Number.Shortest

/-!
# Doubles as text

Two renderings of a double. `Float.reprText` writes the shortest digits that
read back, positionally for decimal exponents from -4 to 15 and in scientific
form outside, where the exponent carries a sign and at least two digits; a
positional whole number keeps a trailing `.0`. `Float.integralText?` writes a
finite whole double as its exact integer, so `1e22` prints all its zeros.
`Float.fixedText places x` writes a double with exactly `places` digits after
the point, rounded from its exact binary value to the nearest, a tie to the
even last digit; the sign of a negative value is kept even when it rounds to
zero, and so is the sign of `-0.0`, and infinities and not-a-number read
`inf`, `-inf` and `nan`.

The layout decisions sit in one record, `FloatLayout`, and the one value used
by the language, `FloatLayout.script`.
-/

namespace GameScript

/-- The decisions of a positional-or-scientific float layout. -/
structure FloatLayout where
  /-- Smallest decimal exponent written positionally. -/
  lowestPositional : Int
  /-- Largest decimal exponent written positionally. -/
  highestPositional : Int
  /-- Suffix written after a positional whole number. -/
  wholeSuffix : String
  /-- Letter before the exponent. -/
  exponentMark : String
  /-- Whether a positive exponent carries a plus sign. -/
  plusSign : Bool
  /-- Least number of exponent digits. -/
  exponentWidth : Nat
  nanText : String
  infinityText : String

/-- The script language's layout: positional for exponents -4 to 15, `1e+16`, `1e-05`, `1.0`. -/
def FloatLayout.script : FloatLayout :=
  { lowestPositional := -4, highestPositional := 15, wholeSuffix := ".0",
    exponentMark := "e", plusSign := true, exponentWidth := 2,
    nanText := "nan", infinityText := "inf" }

/-- Decimal digits of a natural number. -/
def digitText (n : Nat) : String :=
  String.ofList (Nat.toDigits 10 n)

/-- Left-pad with zeros to at least `width` characters. -/
def padZeros (width : Nat) (s : String) : String :=
  String.ofList (List.replicate (width - s.length) '0') ++ s

/-- Text of an integer in decimal, with a leading minus when negative. -/
def intText (n : Int) : String :=
  if n < 0 then "-" ++ digitText n.natAbs else digitText n.natAbs

namespace Decimal

/-- Lay out a positive decimal according to `layout`. -/
def render (layout : FloatLayout) (d : Decimal) : String :=
  let digits := digitText d.digits
  let count := digits.length
  let scientific : Int := d.exponent + count - 1
  if layout.lowestPositional ≤ scientific ∧ scientific ≤ layout.highestPositional then
    if 0 ≤ d.exponent then
      digits ++ String.ofList (List.replicate d.exponent.toNat '0') ++ layout.wholeSuffix
    else if 0 ≤ scientific then
      let whole := (scientific + 1).toNat
      String.ofList (digits.toList.take whole) ++ "." ++ String.ofList (digits.toList.drop whole)
    else
      "0." ++ String.ofList (List.replicate (-scientific - 1).toNat '0') ++ digits
  else
    let head := String.ofList (digits.toList.take 1)
    let tail := String.ofList (digits.toList.drop 1)
    let mantissa := if tail.isEmpty then head else head ++ "." ++ tail
    let sign := if scientific < 0 then "-" else if layout.plusSign then "+" else ""
    mantissa ++ layout.exponentMark ++ sign ++ padZeros layout.exponentWidth (digitText scientific.natAbs)

end Decimal

/-- Shortest round-trip text of a double in the given layout. -/
def Float.reprWith (layout : FloatLayout) (x : Float) : String :=
  match Binary64.shape x with
  | .notANumber => layout.nanText
  | .infinite negative => (if negative then "-" else "") ++ layout.infinityText
  | .finite f =>
    let sign := if f.negative then "-" else ""
    if f.significand = 0 then sign ++ "0" ++ layout.wholeSuffix
    else sign ++ (Decimal.shortest f.significand f.exponent).render layout

/-- Shortest round-trip text of a double, as the script language writes it. -/
def Float.reprText (x : Float) : String :=
  Float.reprWith FloatLayout.script x

/-- The exact integer a finite whole double equals, if it is one. -/
def Float.integralValue? (x : Float) : Option Int :=
  match Binary64.shape x with
  | .finite f => if f.isIntegral then some f.truncate else none
  | _ => none

/-- A finite whole double as its exact integer text (`-0.0` gives `0`). -/
def Float.integralText? (x : Float) : Option String :=
  (Float.integralValue? x).map intText

/-- A double with exactly `places` decimals, correctly rounded. -/
def Float.fixedText (places : Nat) (x : Float) : String :=
  match Binary64.shape x with
  | .notANumber => "nan"
  | .infinite negative => if negative then "-inf" else "inf"
  | .finite f =>
    let (num, den) := f.ratio
    let scaled := num.natAbs * Nat.pow 10 places
    let rounded := Binary64.roundHalfEven (scaled / den) (scaled % den) den
    let digits := padZeros (places + 1) (digitText rounded)
    let whole := digits.toList.take (digits.length - places)
    let fraction := digits.toList.drop (digits.length - places)
    (if f.negative then "-" else "") ++ String.ofList whole ++
      (if places = 0 then "" else "." ++ String.ofList fraction)

end GameScript

import GameScript.Number.Binary64
import GameScript.Text.Ranges

/-!
# Reading a number from text

`readFloat?` accepts the text forms of a number that the language's string to
number coercion accepts, and rounds the decimal it denotes to the nearest
double; `readInt?` accepts the integer forms that the command line takes.

* A character outside ASCII counts as a space if it is a blank of its script
  and as the ASCII digit of the same value if it is a decimal digit of its
  script; any other one makes the text unreadable. ASCII characters stand for
  themselves.
* Spaces around the number are dropped, where a space is one of the six ASCII
  spaces (space, tab, line feed, vertical tab, form feed, carriage return) or a
  character that counts as one: the ASCII separators `\x1c` to `\x1f` are not
  spaces.
* An underscore may stand only between two digits (`1_000`), and is dropped.
* A double is an optional sign, then `inf`, `infinity` or `nan` in any case, or
  digits with an optional fraction (`5.`, `.5`), at least one digit in all,
  then an optional exponent `e` or `E` with an optional sign and at least one
  digit. An integer is an optional sign and digits, at most `maxDigits` of them.

Decimals too large for a double read as an infinity, and those too small as
zero, the same as the exact rounding would give.
-/

namespace GameScript.Reading

/-- Whether an ASCII character is one of the six spaces dropped around a number. -/
def isAsciiSpace (c : Char) : Bool :=
  c == ' ' || (0x09 ≤ c.toNat && c.toNat ≤ 0x0D)

/-- ASCII characters stand for themselves; beyond ASCII, blanks become spaces and digits become ASCII digits; `none` marks any other character. -/
def asciiForm (c : Char) : Option Char :=
  if c.toNat < 127 then some c
  else if Text.isBlank c then some ' '
  else match Text.decimalValue? c with
    | some d => some (Char.ofNat ('0'.toNat + d))
    | none => none

/-- The most digits an integer read from text may have. -/
def maxDigits : Nat := 4300

/-- Whether every underscore stands between two ASCII digits; `previous` is the character before. -/
def underscoresValidAfter (previous : Option Char) : List Char → Bool
  | [] => true
  | c :: rest =>
    if c == '_' then
      let digitBefore := match previous with
        | some p => p.isDigit
        | none => false
      let digitAfter := match rest with
        | next :: _ => next.isDigit
        | [] => false
      digitBefore && digitAfter && underscoresValidAfter (some c) rest
    else underscoresValidAfter (some c) rest

/-- Whether every underscore of a text stands between two ASCII digits. -/
def underscoresValid (cs : List Char) : Bool :=
  underscoresValidAfter none cs

/-- Drop spaces at both ends. -/
def trimSpaces (cs : List Char) : List Char :=
  ((cs.dropWhile isAsciiSpace).reverse.dropWhile isAsciiSpace).reverse

/-- The value of a string of ASCII digits. -/
def digitsValue (ds : List Char) : Nat :=
  ds.foldl (fun n d => 10 * n + (d.toNat - '0'.toNat)) 0

/-- Split off a leading sign: whether the number is negated, and the rest. -/
def splitSign : List Char → Bool × List Char
  | '-' :: rest => (true, rest)
  | '+' :: rest => (false, rest)
  | cs => (false, cs)

/-- Lower-case an ASCII letter. -/
def lowerAscii (c : Char) : Char :=
  if 'A' ≤ c ∧ c ≤ 'Z' then Char.ofNat (c.toNat + 32) else c

/-- The double nearest to `mantissa * 10^exponent`, with a sign. -/
def decimalToFloat (negative : Bool) (mantissa : Nat) (exponent : Int) : Float :=
  let length : Int := (Nat.toDigits 10 mantissa).length
  if mantissa = 0 then Binary64.ofRatio negative 0 1
  else if 310 < exponent + length then Binary64.infinity negative
  else if exponent + length < -330 then Binary64.ofRatio negative 0 1
  else if 0 ≤ exponent then Binary64.ofRatio negative (mantissa * Nat.pow 10 exponent.toNat) 1
  else Binary64.ofRatio negative mantissa (Nat.pow 10 (-exponent).toNat)

/-- The exponent part `e[+-]digits`, or `none` if it is malformed. -/
def readExponent : List Char → Option Int
  | [] => some 0
  | e :: rest =>
    if e == 'e' || e == 'E' then
      let (negative, digits) := splitSign rest
      if !digits.isEmpty && digits.all Char.isDigit then
        let value : Int := digitsValue digits
        some (if negative then -value else value)
      else none
    else none

/-- A decimal number without its sign: digits, optional fraction, optional exponent. -/
def readUnsigned (negative : Bool) (cs : List Char) : Option Float :=
  let whole := cs.takeWhile Char.isDigit
  let afterWhole := cs.dropWhile Char.isDigit
  let (fraction, afterFraction) :=
    match afterWhole with
    | '.' :: rest => (rest.takeWhile Char.isDigit, rest.dropWhile Char.isDigit)
    | rest => ([], rest)
  if whole.isEmpty && fraction.isEmpty then none
  else
    (readExponent afterFraction).map fun exponent =>
      decimalToFloat negative (digitsValue (whole ++ fraction)) (exponent - fraction.length)

/-- A signed number, infinity or not-a-number, in ASCII form without surrounding spaces. -/
def readSigned (cs : List Char) : Option Float :=
  let (negative, rest) := splitSign cs
  let word := String.ofList (rest.map lowerAscii)
  if word == "inf" || word == "infinity" then
    some (Binary64.infinity negative)
  else if word == "nan" then
    some Binary64.notANumber
  else readUnsigned negative rest

/-- The double a text denotes, if it is a number. -/
def readFloat? (s : String) : Option Float :=
  match s.toList.mapM asciiForm with
  | none => none
  | some cs =>
    if underscoresValid cs then readSigned (trimSpaces (cs.filter (· != '_')))
    else none

/--
The integer a text denotes, if it is one: spaces around it, an optional sign,
and at most `maxDigits` decimal digits of any script with single underscores
between digits.
-/
def readInt? (s : String) : Option Int :=
  match s.toList.mapM asciiForm with
  | none => none
  | some cs =>
    if !underscoresValid cs then none
    else
      let (negative, digits) := splitSign (trimSpaces cs)
      let ds := digits.filter (· != '_')
      if ds.isEmpty || !ds.all Char.isDigit || ds.length > maxDigits then none
      else
        let n : Int := digitsValue ds
        some (if negative then -n else n)

end GameScript.Reading

import GameScript.Text.Printable

/-!
# Quoted strings

`Text.quote` writes a string between single quotes, or between double quotes
when it holds a single quote and no double quote. Inside, the backslash and the
chosen quote are escaped, tab, line feed and carriage return get their letter
escapes, and every other character that is not printable is written as a hex
escape: `\x` with two digits up to U+00FF, `\u` with four up to U+FFFF, `\U`
with eight beyond.
-/

namespace GameScript.Text

/-- Lower-case hex digits of `n`, padded with zeros to `width`. -/
def hexDigits (width n : Nat) : String :=
  let digits := Nat.toDigits 16 n
  String.ofList (List.replicate (width - digits.length) '0' ++ digits)

/-- How one character is written inside quotes delimited by `delimiter`. -/
def escapeChar (delimiter c : Char) : String :=
  if c == delimiter || c == '\\' then String.ofList ['\\', c]
  else if c == '\t' then "\\t"
  else if c == '\n' then "\\n"
  else if c == '\r' then "\\r"
  else if c.toNat < 0x20 || c.toNat == 0x7F then "\\x" ++ hexDigits 2 c.toNat
  else if c.toNat < 0x7F then String.singleton c
  else if isPrintable c then String.singleton c
  else if c.toNat ≤ 0xFF then "\\x" ++ hexDigits 2 c.toNat
  else if c.toNat ≤ 0xFFFF then "\\u" ++ hexDigits 4 c.toNat
  else "\\U" ++ hexDigits 8 c.toNat

/-- The single quote, U+0027. -/
def singleQuote : Char := Char.ofNat 39

/-- The quote character a string is written between. -/
def delimiterFor (s : String) : Char :=
  if s.contains singleQuote && !s.contains '"' then '"' else singleQuote

/-- A string between quotes, with its special characters escaped. -/
def quote (s : String) : String :=
  let delimiter := delimiterFor s
  String.singleton delimiter ++ String.join (s.toList.map (escapeChar delimiter))
    ++ String.singleton delimiter

end GameScript.Text

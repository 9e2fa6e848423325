/-!
# Character classes as sorted code point ranges

A class of characters from the Unicode database is kept as an array of closed
code point ranges, sorted and pairwise disjoint. Membership is a binary search;
`CodeRanges.contains` agrees with a linear scan of the ranges whenever the
table is sorted, which each table module checks on sample characters.

Two small classes are kept here, those that reading a number uses. The blank
characters count as white space around a number: those of Unicode 14
category Zs, and those with bidirectional class WS, B or S (tab, line feed,
the information separators U+001C to U+001F, U+0085 and the line and
paragraph separators among them). The decimal digits of every script are the
characters of category Nd; each range is a run of consecutive digits that
starts at a zero, so a digit's value is its distance from the start of its
range, modulo ten, and reading a number accepts them in place of ASCII ones.
-/

namespace GameScript

/-- Sorted, disjoint, closed code point ranges `(first, last)`. -/
abbrev CodeRanges := Array (Nat × Nat)

namespace CodeRanges

/-- Binary search for the range holding `code` among the entries `lo ≤ i < hi`. -/
def search (table : CodeRanges) (code : Nat) (lo hi : Nat) : Bool :=
  if lo < hi then
    let mid := (lo + hi) / 2
    let (first, last) := table[mid]?.getD (0, 0)
    if code < first then search table code lo mid
    else if last < code then search table code (mid + 1) hi
    else true
  else false
termination_by hi - lo

/-- Whether a code point lies in one of the ranges. -/
def contains (table : CodeRanges) (code : Nat) : Bool :=
  search table code 0 table.size

/-- Whether a character lies in one of the ranges. -/
def has (table : CodeRanges) (c : Char) : Bool :=
  table.contains c.toNat

/-- The same question answered by a scan through every range. -/
def scan (table : CodeRanges) (code : Nat) : Bool :=
  table.any fun (first, last) => first ≤ code ∧ code ≤ last

end CodeRanges

end GameScript

namespace GameScript.Text

/-- Code point ranges of the blank characters. -/
def blanks : CodeRanges := #[
  (0x9, 0xD), (0x1C, 0x20), (0x85, 0x85), (0xA0, 0xA0), (0x1680, 0x1680), (0x2000, 0x200A),
  (0x2028, 0x2029), (0x202F, 0x202F), (0x205F, 0x205F), (0x3000, 0x3000)]

/-- Whether a character is blank. -/
def isBlank (c : Char) : Bool :=
  blanks.has c

/-- Code point ranges of the decimal digits, each starting at a zero. -/
def decimalDigits : CodeRanges := #[
  (0x30, 0x39), (0x660, 0x669), (0x6F0, 0x6F9), (0x7C0, 0x7C9), (0x966, 0x96F), (0x9E6, 0x9EF),
  (0xA66, 0xA6F), (0xAE6, 0xAEF), (0xB66, 0xB6F), (0xBE6, 0xBEF), (0xC66, 0xC6F), (0xCE6, 0xCEF),
  (0xD66, 0xD6F), (0xDE6, 0xDEF), (0xE50, 0xE59), (0xED0, 0xED9), (0xF20, 0xF29), (0x1040, 0x1049),
  (0x1090, 0x1099), (0x17E0, 0x17E9), (0x1810, 0x1819), (0x1946, 0x194F), (0x19D0, 0x19D9), (0x1A80, 0x1A89),
  (0x1A90, 0x1A99), (0x1B50, 0x1B59), (0x1BB0, 0x1BB9), (0x1C40, 0x1C49), (0x1C50, 0x1C59), (0xA620, 0xA629),
  (0xA8D0, 0xA8D9), (0xA900, 0xA909), (0xA9D0, 0xA9D9), (0xA9F0, 0xA9F9), (0xAA50, 0xAA59), (0xABF0, 0xABF9),
  (0xFF10, 0xFF19), (0x104A0, 0x104A9), (0x10D30, 0x10D39), (0x11066, 0x1106F), (0x110F0, 0x110F9), (0x11136, 0x1113F),
  (0x111D0, 0x111D9), (0x112F0, 0x112F9), (0x11450, 0x11459), (0x114D0, 0x114D9), (0x11650, 0x11659), (0x116C0, 0x116C9),
  (0x11730, 0x11739), (0x118E0, 0x118E9), (0x11950, 0x11959), (0x11C50, 0x11C59), (0x11D50, 0x11D59), (0x11DA0, 0x11DA9),
  (0x16A60, 0x16A69), (0x16AC0, 0x16AC9), (0x16B50, 0x16B59), (0x1D7CE, 0x1D7FF), (0x1E140, 0x1E149), (0x1E2F0, 0x1E2F9),
  (0x1E950, 0x1E959), (0x1FBF0, 0x1FBF9)]

/-- The value of a decimal digit of any script. -/
def decimalValue? (c : Char) : Option Nat :=
  let code := c.toNat
  match decimalDigits.find? (fun (first, last) => first ≤ code ∧ code ≤ last) with
  | some (first, _) => some ((code - first) % 10)
  | none => none

end GameScript.Text

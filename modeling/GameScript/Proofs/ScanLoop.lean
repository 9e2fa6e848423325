import GameScript.Syntax.Parse
import GameScript.Proofs.Scanning

/-!
# The scan loop over whole texts

`Token.scanFrom` reads a text lexeme by lexeme and goes on past every error it
records; `Token.scanStrictFrom` reads it the same way but stops at the first
error. This module relates the two loops run over whole texts.

The two scanners differ only where an error is reported, so they are compared
in lock step: as long as no error has been met they read the same lexemes at
the same positions, and the first error the lenient scanner records is the
one the strict scanner stops with (`scanStrictFrom_eq`). A reader built on the
strict scanner therefore fails with that error before it reads a single token,
and otherwise reads what the lenient reader reads (`strict_reading_agrees`).

Every number the scanner reads is digits with an optional fraction, and every
such text is a number for `Reading.readFloat?`: the literal of a scanned number
token is always read as a double (`Token.scan_numbers_read`).
-/

namespace GameScript

namespace Token

/--
The strict scanner stops with the first error the lenient scanner records, and
when that one records none both give the same tokens. The two loops read the
same lexeme at each step; only the error branches differ.
-/
theorem scanStrictFrom_eq (position : Position) (input : List Char) :
    scanStrictFrom position input =
      match (scanFrom position input).2 with
      | e :: _ => .error e
      | [] => .ok (scanFrom position input).1 := by
  fun_induction scanStrictFrom position input with
  | case1 => rw [scanFrom]
  | case2 p c more piece next blank ih | case3 p c more piece next blank ih =>
    rw [ih, scanFrom]
    simp only [piece, next] at blank ⊢
    simp only [blank]
  | case4 p c more piece next kind text token ih =>
    rw [scanFrom]
    simp only [piece, next] at token ih ⊢
    simp only [token]
    rw [ih]
    split <;> rfl
  | case5 p c more piece next value string ih =>
    rw [scanFrom]
    simp only [piece, next] at string ih ⊢
    simp only [string, if_true]
    rw [ih]
    split <;> rfl
  | case6 p c more piece value closed string unclosed =>
    rw [scanFrom]
    simp only [piece] at string ⊢
    simp [string, unclosed]
  | case7 p c more piece ch stray =>
    rw [scanFrom]
    simp only [piece] at stray ⊢
    simp [stray]

end Token

namespace Reading

/-- An ASCII text is its own ASCII form. -/
theorem mapM_asciiForm {cs : List Char} (ascii : ∀ c ∈ cs, c.toNat < 127) :
    cs.mapM asciiForm = some cs := by
  induction cs with
  | nil => rfl
  | cons c cs more =>
    have rest := more fun d member => ascii d (List.mem_cons_of_mem c member)
    simp [List.mapM_cons, asciiForm, ascii c List.mem_cons_self, rest]

/-- A text without underscores has none out of place. -/
theorem underscoresValidAfter_of_not_mem {cs : List Char} (none : '_' ∉ cs) (previous : Option Char) :
    underscoresValidAfter previous cs = true := by
  induction cs generalizing previous with
  | nil => rfl
  | cons c cs more =>
    have notUnderscore : c ≠ '_' := fun same => none (same ▸ List.mem_cons_self)
    have rest := more (fun member => none (List.mem_cons_of_mem c member))
    simp [underscoresValidAfter, notUnderscore, rest]

section Digits

variable {d : Char} (digit : d.isDigit = true)
include digit

theorem toNat_of_isDigit : 48 ≤ d.toNat ∧ d.toNat ≤ 57 := by
  simp only [Char.isDigit, Bool.and_eq_true, decide_eq_true_eq] at digit
  exact ⟨digit.1, digit.2⟩

theorem isAsciiSpace_of_isDigit : isAsciiSpace d = false := by
  have range := toNat_of_isDigit digit
  have notSpace : d ≠ ' ' := fun same => by subst same; simp at range
  simp only [isAsciiSpace, Bool.or_eq_false_iff, beq_eq_false_iff_ne, Bool.and_eq_false_imp,
    decide_eq_true_eq, decide_eq_false_iff_not, Nat.not_le]
  exact ⟨notSpace, fun _ => by omega⟩

theorem lowerAscii_of_isDigit : lowerAscii d = d := by
  have range := toNat_of_isDigit digit
  unfold lowerAscii
  rw [if_neg]
  intro upper
  have : 65 ≤ d.toNat := upper.1
  omega

/--
A text that starts with a digit has no sign, and is no word such as `inf` or
`nan`. A word the reader knows starts with a letter, and lower-casing keeps
the digit.
-/
theorem readSigned_of_isDigit (rest : List Char) :
    readSigned (d :: rest) = readUnsigned false (d :: rest) := by
  have range := toNat_of_isDigit digit
  have unsigned : splitSign (d :: rest) = (false, d :: rest) := by
    have : d ≠ '-' ∧ d ≠ '+' := ⟨fun same => by subst same; simp at range,
      fun same => by subst same; simp at range⟩
    simp [splitSign, this]
  have notWord : ∀ (w : String) (c : Char), w.toList.head? = some c → c.isDigit = false →
      (String.ofList ((d :: rest).map lowerAscii) == w) = false := by
    intro w c first letter
    cases same : (String.ofList ((d :: rest).map lowerAscii) == w)
    · rfl
    · have spelled := congrArg String.toList (beq_iff_eq.1 same)
      rw [← spelled] at first
      simp only [String.toList_ofList, List.map_cons, List.head?_cons, Option.some.injEq,
        lowerAscii_of_isDigit digit] at first
      simp [first, letter] at digit
  unfold readSigned
  simp only [unsigned, notWord "inf" 'i' (by decide) rfl, notWord "infinity" 'i' (by decide) rfl,
    notWord "nan" 'n' (by decide) rfl, Bool.false_or, Bool.false_eq_true, if_false]

end Digits

/-- Spaces are trimmed from neither end of a text that starts and ends with a character that is no space. -/
theorem trimSpaces_of_ends {d l : Char} {rest front : List Char} (first : isAsciiSpace d = false)
    (last : isAsciiSpace l = false) (split : d :: rest = front ++ [l]) :
    trimSpaces (d :: rest) = d :: rest := by
  unfold trimSpaces
  rw [List.dropWhile_cons_of_neg (by simp [first]), split, List.reverse_append]
  simp [last]

/-- The characters of a number text are digits and the point. -/
theorem numberText_chars {cs : List Char} (numeral : Lexeme.NumberText cs) :
    ∀ c ∈ cs, c.isDigit = true ∨ c = '.' := by
  obtain ⟨whole, fraction, rfl, -, digits, fractional⟩ := numeral
  intro c member
  rcases List.mem_append.1 member with inWhole | inFraction
  · exact .inl (digits c inWhole)
  · rcases fractional with rfl | ⟨ds, rfl, -, fractionDigits⟩
    · cases inFraction
    · rcases List.mem_cons.1 inFraction with point | inDigits
      · exact .inr point
      · exact .inl (fractionDigits c inDigits)

/-- A number text starts with a digit and ends with one. -/
theorem numberText_ends {cs : List Char} (numeral : Lexeme.NumberText cs) :
    ∃ d rest front l, cs = d :: rest ∧ d :: rest = front ++ [l] ∧ d.isDigit = true ∧
      l.isDigit = true := by
  obtain ⟨whole, fraction, rfl, nonEmpty, digits, fractional⟩ := numeral
  obtain ⟨d, more, rfl⟩ := List.exists_cons_of_ne_nil nonEmpty
  refine ⟨d, more ++ fraction, ?_⟩
  rcases fractional with rfl | ⟨ds, rfl, dsNonEmpty, dsDigits⟩
  · refine ⟨(d :: more).dropLast, (d :: more).getLast nonEmpty, rfl, ?_,
      digits d List.mem_cons_self, digits _ (List.getLast_mem _)⟩
    rw [List.append_nil, List.dropLast_concat_getLast]
  · refine ⟨d :: more ++ '.' :: ds.dropLast, ds.getLast dsNonEmpty, rfl, ?_,
      digits d List.mem_cons_self, dsDigits _ (List.getLast_mem _)⟩
    simp only [List.cons_append, List.append_assoc, List.dropLast_concat_getLast dsNonEmpty]

/-- A number text read without its sign: its digits, then its fraction, and no exponent. -/
theorem readUnsigned_numberText {cs : List Char} (numeral : Lexeme.NumberText cs) :
    ∃ x, readUnsigned false cs = some x := by
  obtain ⟨whole, fraction, rfl, nonEmpty, digits, fractional⟩ := numeral
  have stops : ∀ x, fraction.head? = some x → x.isDigit = false := by
    rcases fractional with rfl | ⟨ds, rfl, -, -⟩ <;> simp
  have takeWhole : (whole ++ fraction).takeWhile Char.isDigit = whole :=
    Lexeme.takeWhile_number digits stops
  have dropWhole : (whole ++ fraction).dropWhile Char.isDigit = fraction := by
    rw [List.dropWhile_append_of_pos digits]
    rcases fractional with rfl | ⟨ds, rfl, -, -⟩
    · rfl
    · exact List.dropWhile_cons_of_neg (by decide)
  unfold readUnsigned
  simp only [takeWhole, dropWhole]
  rcases fractional with rfl | ⟨ds, rfl, -, dsDigits⟩
  · simp [readExponent, nonEmpty]
  · have allDigits : ds.takeWhile Char.isDigit = ds := List.takeWhile_eq_self_iff.2 dsDigits
    have noneLeft : ds.dropWhile Char.isDigit = [] := List.dropWhile_eq_nil_iff.2 dsDigits
    simp [allDigits, noneLeft, readExponent, nonEmpty]

/--
A number text, digits with an optional fraction, is a number for `readFloat?`.
Digits and the point are ASCII characters other than the underscore.
-/
theorem readFloat?_numberText {cs : List Char} (numeral : Lexeme.NumberText cs) :
    ∃ x, readFloat? (String.ofList cs) = some x := by
  have chars := numberText_chars numeral
  have ascii : ∀ c ∈ cs, c.toNat < 127 ∧ c ≠ '_' := fun c member => by
    rcases chars c member with digit | rfl
    · have range := toNat_of_isDigit digit
      exact ⟨by omega, fun same => by subst same; simp at range⟩
    · decide
  have noUnderscore : '_' ∉ cs := fun member => (ascii '_' member).2 rfl
  have kept : cs.filter (· != '_') = cs :=
    List.filter_eq_self.2 fun c member => by simpa using (ascii c member).2
  obtain ⟨d, rest, front, l, rfl, split, first, last⟩ := numberText_ends numeral
  unfold readFloat?
  simp only [String.toList_ofList, mapM_asciiForm fun c member => (ascii c member).1,
    underscoresValid, underscoresValidAfter_of_not_mem noUnderscore, if_true, kept,
    trimSpaces_of_ends (isAsciiSpace_of_isDigit first) (isAsciiSpace_of_isDigit last) split,
    readSigned_of_isDigit first]
  exact readUnsigned_numberText numeral

end Reading

namespace Lexeme

/-- A word is a keyword or a name, never a number. -/
theorem word_kind_ne_number (word : String) : (TokenKind.keyword? word).getD .identifier ≠ .number := by
  unfold TokenKind.keyword?
  split_ifs <;> simp

/-- The tokens laid out from pieces that follow the lexical rules: each number token spells a number text. -/
theorem layout_numberText {text : List Char} {pieces : List (Lexeme × List Char)} (cut : Cut text pieces)
    (before : List Char) :
    ∀ t ∈ (layout before pieces).1, t.kind = .number → NumberText t.text.toList := by
  induction cut generalizing before with
  | nil => simp [layout]
  | @cons piece span rest pieces first others more =>
    intro t member number
    have later := more (before ++ span) t
    cases first with
    | blank | comment | stray => exact later (by simpa [layout] using member) number
    | number numeral =>
      simp only [layout, List.mem_cons] at member
      rcases member with rfl | member
      · simpa using numeral
      · exact later member number
    | word starts continues longest =>
      simp only [layout, List.mem_cons] at member
      rcases member with rfl | member
      · exact absurd number (word_kind_ne_number _)
      · exact later member number
    | closedString run | openString run unclosed =>
      simp only [layout, List.mem_cons] at member
      rcases member with rfl | member
      · cases number
      · exact later member number
    | pair operator =>
      simp only [layout, List.mem_cons] at member
      rcases member with rfl | member
      · have : ∀ p ∈ TokenKind.pairs, p.2.2 ≠ .number := by decide
        exact absurd number (this _ operator)
      · exact later member number
    | single operator noPair noComment =>
      simp only [layout, List.mem_cons] at member
      rcases member with rfl | member
      · have : ∀ p ∈ TokenKind.singles, p.2 ≠ .number := by decide
        exact absurd number (this _ operator)
      · exact later member number

end Lexeme

namespace Token

/-- Every number token of a scan is a number for `Reading.readFloat?`. -/
theorem scan_numbers_read (source : String) :
    ∀ t ∈ (scan source).1, t.kind = .number → ∃ x, Reading.readFloat? t.text = some x := by
  obtain ⟨pieces, cut, scanned⟩ := scanFrom_cut [] source.toList
  intro t member number
  rw [scan, ← Position.after_nil, scanned] at member
  rcases List.mem_append.1 member with laidOut | last
  · obtain ⟨x, read⟩ := Reading.readFloat?_numberText (Lexeme.layout_numberText cut [] t laidOut number)
    exact ⟨x, by simpa using read⟩
  · rw [List.mem_singleton] at last
    subst last
    cases number

end Token

/--
Strict and lenient scanning agree: the strict scanner fails exactly when the
lenient one records an error, with the first error it records (its message,
line and column), and otherwise gives the same tokens. So a reader on the
strict scanner fails with that error before reading any token, and otherwise
answers what the lenient reader answers, declarations or syntax error alike.
-/
theorem strict_reading_agrees (source : String) :
    (Token.scanStrict source =
      match (Token.scan source).2 with
      | e :: _ => .error e
      | [] => .ok (Token.scan source).1) ∧
    Declaration.ofSource true source =
      match (Token.scan source).2 with
      | e :: _ => .error (.scan e)
      | [] => Declaration.ofSource false source := by
  have scanned : Token.scanStrict source =
      match (Token.scan source).2 with
      | e :: _ => .error e
      | [] => .ok (Token.scan source).1 :=
    Token.scanStrictFrom_eq {} source.toList
  refine ⟨scanned, ?_⟩
  cases errors : (Token.scan source).2 <;> simp [Declaration.ofSource, scanned, errors]

end GameScript

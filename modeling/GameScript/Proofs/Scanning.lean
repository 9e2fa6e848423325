import Mathlib.Data.List.Induction
import Mathlib.Data.List.TakeWhile
import GameScript.Token.Scan

/-!
# What the scanner cuts a text into

The scanner reads a text from left to right and cuts it into pieces: single
blank characters, `//` comments up to the end of their line, tokens, string
literals and stray characters it reports and skips. This module states the
lexical rules each piece follows, apart from the scanner, and proves that the
scan of every text is a cut of it by these rules, with every token placed at
the line and column of the offset its span starts at.

* `Position.after before` is the position of the character that follows the
  text `before`: one more than the line feeds in it, and one more than the
  characters after the last of them.
* `Lexeme.Spans piece span rest` gives the rules, in the order the scanner
  tries them: a blank; a comment (`//` wins over every operator); a number, a
  longest match of `[0-9]+(\.[0-9]+)?`; a word, a longest run of letters,
  numerals and underscores that starts with a letter or underscore; a string,
  from its quote to the closing quote, or to the end of the line when it has
  none; a two-character operator, which wins over a one-character one; a
  one-character operator; and any other character, which is stray.
* `Lexeme.Cut text pieces`: the pieces, read one after the other by these
  rules, span the whole text.

The main theorem, `Token.scan_cuts_text`, says that the tokens and errors of
a scan are those of a cut of the text, laid out at the positions of their
offsets, and that the end-of-input token comes last, once, at the position
of the end of the text.
-/

namespace GameScript

namespace Position

/-- The position of the character after `before`: its line counts the line feeds before it, its column the characters since the last one. -/
def after (before : List Char) : Position :=
  ⟨1 + before.count '\n', (before.reverse.takeWhile (· != '\n')).length + 1⟩

@[simp]
theorem after_nil : after [] = {} := rfl

theorem after_append_singleton (before : List Char) (c : Char) :
    after (before ++ [c]) = (after before).step c := by
  by_cases feed : c = '\n'
  · subst feed
    simp [after, step]
    omega
  · simp [after, step, feed]

/-- Walking over a text from the first line and column ends at the position after it. -/
theorem walk_start (before : List Char) : ({} : Position).walk before = after before := by
  induction before using List.reverseRecOn with
  | nil => rfl
  | append_singleton before c walked =>
    rw [walk_append, walked, after_append_singleton]
    rfl

theorem after_append (before more : List Char) :
    after (before ++ more) = (after before).walk more := by
  rw [← walk_start, walk_append, walk_start]

end Position

namespace Lexeme

/-! ## The lexical rules -/

/-- Text of the form `[0-9]+(\.[0-9]+)?`, in ASCII digits. -/
def NumberText (cs : List Char) : Prop :=
  ∃ whole fraction, cs = whole ++ fraction ∧ whole ≠ [] ∧ (∀ d ∈ whole, d.isDigit = true) ∧
    (fraction = [] ∨ ∃ digits, fraction = '.' :: digits ∧ digits ≠ [] ∧ ∀ d ∈ digits, d.isDigit = true)

/--
The body of a string literal, read from the text after its opening quote:
`StringRun value body after` when `body` is read, stands for `value`, and is
followed by `after`. The body stops at a double quote, a line feed or the end
of the text. A backslash before `"`, `\`, `n` or `t` escapes it; any other
backslash stands for itself.
-/
inductive StringRun : List Char → List Char → List Char → Prop
  | stop {after : List Char}
      (ends : after = [] ∨ after.head? = some '"' ∨ after.head? = some '\n') :
      StringRun [] [] after
  | escape {e : Char} {value body after : List Char} (escaping : escapes e = true)
      (more : StringRun value body after) :
      StringRun (escaped e :: value) ('\\' :: e :: body) after
  | plain {c : Char} {value body after : List Char} (unquoted : c ≠ '"') (sameLine : c ≠ '\n')
      (kept : c = '\\' → ∀ e, (body ++ after).head? = some e → escapes e = false)
      (more : StringRun value body after) :
      StringRun (c :: value) (c :: body) after

/--
The lexical rules: `Spans piece span rest` when, at the head of `span ++ rest`,
the scanner reads `piece` spanning `span`. The rules are tried in the order of
the constructors; a character that starts none of them is stray.
-/
inductive Spans : Lexeme → List Char → List Char → Prop
  | blank {c : Char} {rest : List Char} (isBlank : isBlank c = true) : Spans .blank [c] rest
  | comment {body rest : List Char} (oneLine : '\n' ∉ body)
      (ends : rest = [] ∨ rest.head? = some '\n') :
      Spans .comment ('/' :: '/' :: body) rest
  | number {span rest : List Char} (numeral : NumberText span)
      (longest : ∀ more, more ≠ [] → more <+: rest → ¬ NumberText (span ++ more)) :
      Spans (.token .number (String.ofList span)) span rest
  | word {c : Char} {tail rest : List Char} (starts : startsWord c = true)
      (continues : ∀ x ∈ tail, continuesWord x = true)
      (longest : ∀ x, rest.head? = some x → continuesWord x = false) :
      Spans (.token ((TokenKind.keyword? (String.ofList (c :: tail))).getD .identifier)
        (String.ofList (c :: tail))) (c :: tail) rest
  | closedString {value body rest : List Char} (run : StringRun value body ('"' :: rest)) :
      Spans (.string (String.ofList value) true) ('"' :: (body ++ ['"'])) rest
  | openString {value body rest : List Char} (run : StringRun value body rest)
      (unclosed : rest = [] ∨ rest.head? = some '\n') :
      Spans (.string (String.ofList value) false) ('"' :: body) rest
  | pair {a b : Char} {kind : TokenKind} {rest : List Char} (operator : (a, b, kind) ∈ TokenKind.pairs) :
      Spans (.token kind (String.ofList [a, b])) [a, b] rest
  | single {c : Char} {kind : TokenKind} {rest : List Char}
      (operator : (c, kind) ∈ TokenKind.singles)
      (noPair : ∀ b other, rest.head? = some b → (c, b, other) ∉ TokenKind.pairs)
      (noComment : c = '/' → rest.head? ≠ some '/') :
      Spans (.token kind (String.singleton c)) [c] rest
  | stray {c : Char} {rest : List Char} (notBlank : isBlank c = false)
      (noComment : c = '/' → rest.head? ≠ some '/') (notDigit : c.isDigit = false)
      (notWord : startsWord c = false) (notQuote : c ≠ '"')
      (noPair : ∀ b other, rest.head? = some b → (c, b, other) ∉ TokenKind.pairs)
      (noSingle : ∀ kind, (c, kind) ∉ TokenKind.singles) :
      Spans (.stray c) [c] rest

/-- Pieces read one after another by the lexical rules, spanning the whole text. -/
inductive Cut : List Char → List (Lexeme × List Char) → Prop
  | nil : Cut [] []
  | cons {piece : Lexeme} {span rest : List Char} {pieces : List (Lexeme × List Char)}
      (first : Spans piece span rest) (others : Cut rest pieces) :
      Cut (span ++ rest) ((piece, span) :: pieces)

/--
The tokens and scan errors of pieces read one after another, the first one
right after the text `before`: each token and error stands at the position
after the text that precedes its piece.
-/
def layout (before : List Char) : List (Lexeme × List Char) → List Token × List ScanError
  | [] => ([], [])
  | (piece, span) :: pieces =>
    let (tokens, errors) := layout (before ++ span) pieces
    let here := Position.after before
    match piece with
    | .blank | .comment => (tokens, errors)
    | .token kind text => (⟨kind, text, here⟩ :: tokens, errors)
    | .string value closed =>
      (⟨.string, value, here⟩ :: tokens,
        if closed then errors else ⟨"Unterminated string", here⟩ :: errors)
    | .stray c => (tokens, ⟨"Unexpected character: '" ++ String.singleton c ++ "'", here⟩ :: errors)

/-! ## The scanner follows the rules -/

/-- A run of a string body is followed by a quote, a line feed, or nothing. -/
theorem StringRun.ends {value body after : List Char} (run : StringRun value body after) :
    after = [] ∨ after.head? = some '"' ∨ after.head? = some '\n' := by
  induction run with
  | stop ends => exact ends
  | escape _ _ ends => exact ends
  | plain _ _ _ _ ends => exact ends

/--
The body of a string is a run of its lexical rule; a backslash is kept when
the character after it escapes nothing.
-/
theorem stringBody_run (cs : List Char) :
    StringRun (stringBody cs).1 (stringBody cs).2.1 (stringBody cs).2.2 := by
  fun_induction stringBody cs with
  | case1 => exact .stop (.inl rfl)
  | case2 e after escaping body run =>
    exact .escape escaping run
  | case3 e after notEscaping body run =>
    refine .plain (by decide) (by decide) (fun _ x head => ?_) run
    rw [stringBody_span_append, List.head?_cons, Option.some_inj] at head
    subst head
    simpa using notEscaping
  | case4 c rest _ stops =>
    refine .stop (.inr ?_)
    simp only [Bool.or_eq_true, beq_iff_eq] at stops
    rcases stops with quote | feed
    · exact .inl (by simp [quote])
    · exact .inr (by simp [feed])
  | case5 c rest notBackslashPair goesOn body run =>
    simp only [Bool.or_eq_true, beq_iff_eq, not_or] at goesOn
    refine .plain goesOn.1 goesOn.2 (fun backslash x head => ?_) run
    subst backslash
    rw [stringBody_span_append] at head
    cases rest with
    | nil => simp at head
    | cons e after => exact (notBackslashPair e after rfl rfl).elim

/-- The digits that start a number text are its whole part, whatever follows a fraction or a character that is no digit. -/
theorem takeWhile_number {whole tail : List Char} (digits : ∀ d ∈ whole, d.isDigit = true)
    (stops : ∀ x, tail.head? = some x → x.isDigit = false) :
    (whole ++ tail).takeWhile Char.isDigit = whole := by
  rw [List.takeWhile_append_of_pos digits]
  cases tail with
  | nil => simp
  | cons x tail => simp [stops x rfl]

/--
A number text is a longest match when the text after it does not start with a
digit, nor, when it has no fraction, with a point and a digit. The whole parts
agree, each the run of digits the text starts with; a text that went on with a
point and a digit, or a fraction that went on with a digit, would have been
read further.
-/
theorem numberText_longest {whole fraction rest : List Char}
    (digits : ∀ d ∈ whole, d.isDigit = true)
    (fractional : fraction = [] ∨ ∃ ds, fraction = '.' :: ds ∧ ds ≠ [] ∧ ∀ d ∈ ds, d.isDigit = true)
    (noDigit : ∀ x, rest.head? = some x → x.isDigit = false)
    (noFraction : fraction = [] → ∀ d r, rest = '.' :: d :: r → d.isDigit = false) :
    ∀ more, more ≠ [] → more <+: rest → ¬ NumberText (whole ++ fraction ++ more) := by
  rintro more nonEmpty ⟨after, rfl⟩ ⟨whole', fraction', same, -, digits', fractional'⟩
  obtain ⟨x, more, rfl⟩ := List.exists_cons_of_ne_nil nonEmpty
  have xNotDigit : x.isDigit = false := noDigit x rfl
  have pointNotDigit : ('.' : Char).isDigit = false := by decide
  have stopsAfter : ∀ y, (fraction ++ x :: more).head? = some y → y.isDigit = false := by
    rcases fractional with rfl | ⟨ds, rfl, -, -⟩
    · simp [xNotDigit]
    · simp [pointNotDigit]
  have stopsAfter' : ∀ y, fraction'.head? = some y → y.isDigit = false := by
    rcases fractional' with rfl | ⟨ds, rfl, -, -⟩
    · simp
    · simp [pointNotDigit]
  have wholeSame : whole = whole' := by
    have := congrArg (List.takeWhile Char.isDigit) same
    rwa [List.append_assoc, takeWhile_number digits stopsAfter,
      takeWhile_number digits' stopsAfter'] at this
  subst wholeSame
  rw [List.append_assoc, List.append_cancel_left_eq] at same
  rcases fractional' with rfl | ⟨ds', rfl, fractionNonEmpty, digitsFraction'⟩
  · simp at same
  rcases fractional with rfl | ⟨ds, rfl, -, -⟩
  · obtain ⟨rfl, rfl⟩ : x = '.' ∧ more = ds' := by simpa using same
    obtain ⟨d, r, rfl⟩ := List.exists_cons_of_ne_nil fractionNonEmpty
    exact absurd (digitsFraction' d (by simp)) (by simp [noFraction rfl d (r ++ after) rfl])
  · have : ds' = ds ++ x :: more := by simpa using same.symm
    exact absurd (digitsFraction' x (by simp [this])) (by simp [xNotDigit])

/-- What is left after dropping a run does not start with a character of the run. -/
theorem dropWhile_stops (p : Char → Bool) (cs : List Char) :
    ∀ x, (cs.dropWhile p).head? = some x → p x = false := by
  intro x head
  have stops := List.head?_dropWhile_not p cs
  rw [head] at stops
  exact stops

/-- After the digits of a number, the scanner reads a fraction exactly when a point and a digit follow. -/
theorem fractionTail_cases (cs : List Char) :
    ((fractionTail cs).1 = [] ∧ (fractionTail cs).2 = cs ∧
        ∀ d r, cs = '.' :: d :: r → d.isDigit = false) ∨
      ∃ d r, cs = '.' :: d :: r ∧ d.isDigit = true ∧
        fractionTail cs = ('.' :: d :: r.takeWhile Char.isDigit, r.dropWhile Char.isDigit) := by
  unfold fractionTail
  split
  · rename_i d r
    split
    · exact .inr ⟨d, r, rfl, ‹_›, rfl⟩
    · exact .inl ⟨rfl, rfl, fun _ _ same => by simp_all⟩
  · rename_i notFraction
    exact .inl ⟨rfl, rfl, fun d r same => absurd same (notFraction d r)⟩

/--
A digit and the tail the scanner reads after it form a longest number text.
Without a fraction the number ends with its digits; after a point and a digit
the fraction is read up to the next character that is no digit.
-/
theorem number_spans (c : Char) (more : List Char) (digit : c.isDigit = true) :
    Spans (.token .number (String.ofList (c :: (numberTail more).1)))
      (c :: (numberTail more).1) (numberTail more).2 := by
  have whole : ∀ d ∈ c :: more.takeWhile Char.isDigit, d.isDigit = true := by
    intro d member
    rcases List.mem_cons.1 member with rfl | inner
    · exact digit
    · exact List.mem_takeWhile_imp inner
  have read : numberTail more = (more.takeWhile Char.isDigit ++
      (fractionTail (more.dropWhile Char.isDigit)).1, (fractionTail (more.dropWhile Char.isDigit)).2) :=
    rfl
  rw [read]
  rcases fractionTail_cases (more.dropWhile Char.isDigit) with
    ⟨noFraction, rest, notFraction⟩ | ⟨d, r, fractionStart, fractionDigit, fraction⟩
  · rw [noFraction, rest, List.append_nil]
    refine .number ⟨_, [], by simp, List.cons_ne_nil _ _, whole, .inl rfl⟩ ?_
    simpa using @numberText_longest _ [] _ whole (.inl rfl)
      (dropWhile_stops Char.isDigit more) (fun _ => notFraction)
  · have fractionDigits : ∀ x ∈ d :: r.takeWhile Char.isDigit, x.isDigit = true := by
      intro x member
      rcases List.mem_cons.1 member with rfl | inner
      · exact fractionDigit
      · exact List.mem_takeWhile_imp inner
    have fractional : ∃ ds, '.' :: d :: r.takeWhile Char.isDigit = '.' :: ds ∧ ds ≠ [] ∧
        ∀ x ∈ ds, x.isDigit = true :=
      ⟨_, rfl, List.cons_ne_nil _ _, fractionDigits⟩
    rw [fraction]
    refine .number ⟨_, _, List.cons_append .., List.cons_ne_nil _ _, whole, .inr fractional⟩ ?_
    rw [← List.cons_append]
    exact numberText_longest whole (.inr fractional) (dropWhile_stops _ r) (fun none => nomatch none)

theorem pairOperator?_some {c : Char} {more : List Char} {kind : TokenKind}
    (found : pairOperator? c more = some kind) :
    ∃ d rest, more = d :: rest ∧ (c, d, kind) ∈ TokenKind.pairs := by
  unfold pairOperator? at found
  split at found
  · rename_i d rest
    obtain ⟨⟨a, b, k⟩, first, rfl⟩ := Option.map_eq_some_iff.1 found
    have selected := List.find?_some first
    simp only [Bool.and_eq_true, beq_iff_eq] at selected
    obtain ⟨rfl, rfl⟩ := selected
    exact ⟨b, rest, rfl, List.mem_of_find?_eq_some first⟩
  · cases found

theorem pairOperator?_none {c : Char} {more : List Char} (none : pairOperator? c more = none) :
    ∀ b other, more.head? = some b → (c, b, other) ∉ TokenKind.pairs := by
  intro b other head member
  obtain ⟨rest, rfl⟩ : ∃ rest, more = b :: rest := by
    cases more with
    | nil => cases head
    | cons x rest => exact ⟨rest, by simpa using head⟩
  simp only [pairOperator?, Option.map_eq_none_iff, List.find?_eq_none] at none
  exact none _ member (by simp)

theorem singleOperator?_some {c : Char} {kind : TokenKind} (found : singleOperator? c = some kind) :
    (c, kind) ∈ TokenKind.singles := by
  obtain ⟨⟨a, k⟩, first, rfl⟩ := Option.map_eq_some_iff.1 found
  have same : a = c := by simpa using List.find?_some first
  exact same ▸ List.mem_of_find?_eq_some first

theorem singleOperator?_none {c : Char} (none : singleOperator? c = none) :
    ∀ kind, (c, kind) ∉ TokenKind.singles := by
  intro kind member
  simp only [singleOperator?, Option.map_eq_none_iff, List.find?_eq_none] at none
  exact none _ member (by simp)

/--
Each lexeme the scanner reads follows the lexical rules. A comment runs up to
the line feed, which it leaves.
-/
theorem read_spans (c : Char) (more : List Char) :
    Spans (read c more).1 (c :: (read c more).2.1) (read c more).2.2 := by
  unfold read
  split
  · exact .blank ‹_›
  rename_i notBlank
  split
  · rename_i comment
    simp only [Bool.and_eq_true, beq_iff_eq] at comment
    obtain ⟨rfl, head⟩ := comment
    obtain ⟨rest, rfl⟩ : ∃ rest, more = '/' :: rest := by
      cases more with
      | nil => cases head
      | cons x rest => exact ⟨rest, by simpa using head⟩
    rw [List.takeWhile_cons_of_pos (by decide), List.dropWhile_cons_of_pos (by decide)]
    refine .comment (fun feed => ?_) ?_
    · simpa using List.mem_takeWhile_imp feed
    · cases after : rest.dropWhile (· != '\n') with
      | nil => exact .inl rfl
      | cons x after' =>
        have stops := dropWhile_stops (· != '\n') rest x (by simp [after])
        exact .inr (by simpa using stops)
  rename_i notComment
  split
  · exact number_spans c more ‹_›
  rename_i notDigit
  split
  · exact .word ‹_› (fun _ member => List.mem_takeWhile_imp member) (dropWhile_stops _ more)
  rename_i notWord
  split
  · rename_i quote
    have quote : c = '"' := by simpa using quote
    subst quote
    have run := stringBody_run more
    split
    · rename_i value body after found
      rw [found] at run
      exact .closedString run
    · rename_i value body rest notClosed found
      rw [found] at run
      refine .openString run ?_
      rcases run.ends with done | closing | feed
      · exact .inl done
      · cases rest with
        | nil => exact .inl rfl
        | cons x after =>
          obtain rfl : x = '"' := by simpa using closing
          exact (notClosed after rfl).elim
      · exact .inr feed
  rename_i notQuote
  have noComment : c = '/' → more.head? ≠ some '/' := by
    intro slash head
    simp [slash, head] at notComment
  split
  · rename_i kind found
    obtain ⟨d, rest, rfl, operator⟩ := pairOperator?_some found
    exact .pair operator
  · rename_i noPair
    split
    · rename_i kind found
      exact .single (singleOperator?_some found) (pairOperator?_none noPair) noComment
    · rename_i noSingle
      exact .stray (by simpa using notBlank) noComment (by simpa using notDigit)
        (by simpa using notWord) (by simpa using notQuote) (pairOperator?_none noPair)
        (singleOperator?_none noSingle)

/-- Every piece the rules allow spans some text. -/
theorem Spans.ne_nil {piece : Lexeme} {span rest : List Char} (spans : Spans piece span rest) :
    span ≠ [] := by
  cases spans with
  | number numeral _ =>
    obtain ⟨whole, fraction, rfl, nonEmpty, -⟩ := numeral
    simp [nonEmpty]
  | _ => simp

/-- No token the rules allow is the end of input. -/
theorem Spans.not_end {piece : Lexeme} {span rest : List Char} (spans : Spans piece span rest) :
    ∀ kind text, piece = .token kind text → kind ≠ .endOfInput := by
  intro kind text named
  cases spans with
  | number =>
    obtain ⟨rfl, -⟩ := Lexeme.token.inj named
    decide
  | word =>
    obtain ⟨rfl, -⟩ := Lexeme.token.inj named
    unfold TokenKind.keyword?
    split_ifs <;> decide
  | pair operator =>
    obtain ⟨rfl, -⟩ := Lexeme.token.inj named
    have operators : ∀ x ∈ TokenKind.pairs, x.2.2 ≠ .endOfInput := by decide
    exact operators _ operator
  | single operator =>
    obtain ⟨rfl, -⟩ := Lexeme.token.inj named
    have operators : ∀ x ∈ TokenKind.singles, x.2 ≠ .endOfInput := by decide
    exact operators _ operator
  | _ => cases named

/-- The tokens laid out from a cut are never the end of input. -/
theorem Cut.not_end {text : List Char} {pieces : List (Lexeme × List Char)} (cut : Cut text pieces)
    (before : List Char) : ∀ t ∈ (layout before pieces).1, t.kind ≠ .endOfInput := by
  induction cut generalizing before with
  | nil => simp [layout]
  | @cons piece span rest pieces first _ more =>
    intro t member
    cases piece with
    | token kind text =>
      simp only [layout, List.mem_cons] at member
      rcases member with rfl | later
      · exact first.not_end kind text rfl
      · exact more _ t later
    | string value closed =>
      simp only [layout, List.mem_cons] at member
      rcases member with rfl | later
      · exact (by decide : TokenKind.string ≠ .endOfInput)
      · exact more _ t later
    | blank | comment | stray c => exact more _ t (by simpa [layout] using member)

/--
The tokens laid out from a cut stand at increasing offsets of the text, each
at the position after the text up to its offset. A later offset lies past this
piece, and the text up to it reads the same.
-/
theorem Cut.offsets {text : List Char} {pieces : List (Lexeme × List Char)} (cut : Cut text pieces)
    (before : List Char) :
    ∃ offsets : List Nat, offsets.Pairwise (· < ·) ∧ (∀ p ∈ offsets, before.length ≤ p) ∧
      List.Forall₂ (fun t p => t.position = Position.after ((before ++ text).take p))
        (layout before pieces).1 offsets := by
  induction cut generalizing before with
  | nil => exact ⟨[], .nil, nofun, by simp [layout]⟩
  | @cons piece span rest pieces first _ more =>
    obtain ⟨offsets, increasing, later, placed⟩ := more (before ++ span)
    have longer : before.length < (before ++ span).length := by
      simpa using List.length_pos_iff.2 first.ne_nil
    have after : ∀ p ∈ offsets, before.length < p := fun p member =>
      Nat.lt_of_lt_of_le longer (later p member)
    have sameText : before ++ span ++ rest = before ++ (span ++ rest) := List.append_assoc ..
    rw [sameText] at placed
    have here : Position.after before = Position.after ((before ++ (span ++ rest)).take before.length) := by
      rw [List.take_left]
    cases piece with
    | token kind text =>
      refine ⟨before.length :: offsets, List.pairwise_cons.2 ⟨after, increasing⟩, ?_, ?_⟩
      · simpa using fun p member => Nat.le_of_lt (after p member)
      · simp only [layout]
        exact .cons here placed
    | string value closed =>
      refine ⟨before.length :: offsets, List.pairwise_cons.2 ⟨after, increasing⟩, ?_, ?_⟩
      · simpa using fun p member => Nat.le_of_lt (after p member)
      · simp only [layout]
        exact .cons here placed
    | blank | comment | stray c =>
      exact ⟨offsets, increasing, fun p member => Nat.le_of_lt (after p member),
        by simpa [layout] using placed⟩

end Lexeme

namespace Token

/--
Scanning the rest of a text from the position after `before` cuts it by the
lexical rules, lays the pieces out after `before`, and ends with the end of
input at the position after the whole text. The position after the piece is
the position after the text up to its end.
-/
theorem scanFrom_cut (before input : List Char) :
    ∃ pieces, Lexeme.Cut input pieces ∧
      scanFrom (Position.after before) input =
        ((Lexeme.layout before pieces).1 ++ [⟨.endOfInput, "", Position.after (before ++ input)⟩],
          (Lexeme.layout before pieces).2) := by
  match input with
  | [] => exact ⟨[], .nil, by simp [scanFrom, Lexeme.layout]⟩
  | c :: more =>
    have shorter := Lexeme.read_rest_length c more
    have spans := Lexeme.read_spans c more
    have whole := Lexeme.read_span_append c more
    obtain ⟨pieces, cut, scanned⟩ :=
      scanFrom_cut (before ++ c :: (Lexeme.read c more).2.1) (Lexeme.read c more).2.2
    have next : ((Position.after before).step c).walk (Lexeme.read c more).2.1 =
        Position.after (before ++ c :: (Lexeme.read c more).2.1) := by
      rw [Position.after_append, Position.walk_cons]
    have ending : before ++ c :: (Lexeme.read c more).2.1 ++ (Lexeme.read c more).2.2 =
        before ++ c :: more := by
      rw [List.append_assoc, List.cons_append, whole]
    refine ⟨((Lexeme.read c more).1, c :: (Lexeme.read c more).2.1) :: pieces, ?_, ?_⟩
    · have cutAll := Lexeme.Cut.cons spans cut
      rwa [List.cons_append, whole] at cutAll
    · rw [scanFrom]
      simp only [next, scanned, ending]
      generalize (Lexeme.read c more).1 = piece
      cases piece <;> simp [Lexeme.layout]
termination_by input.length
decreasing_by simp only [List.length_cons]; omega

/-- The tokens of a scan are those laid out from a cut of the text, none of them the end of input, and then the end of input. -/
theorem scan_cut (s : String) :
    ∃ pieces, Lexeme.Cut s.toList pieces ∧
      scan s = ((Lexeme.layout [] pieces).1 ++ [⟨.endOfInput, "", Position.after s.toList⟩],
        (Lexeme.layout [] pieces).2) ∧
      ∀ t ∈ (Lexeme.layout [] pieces).1, t.kind ≠ .endOfInput := by
  obtain ⟨pieces, cut, scanned⟩ := scanFrom_cut [] s.toList
  exact ⟨pieces, cut, scanned, cut.not_end []⟩

/--
The scan of a text is a cut of it by the lexical rules: the spans of its pieces
(single blank characters, `//` comments up to their line feed, tokens, strings
and stray characters) concatenate to the text, and each piece follows the rule
for its kind: a number is a longest match of `[0-9]+(\.[0-9]+)?`, a word a
longest run of letters, numerals and underscores, `//` a comment before any
operator, a two-character operator before a one-character one, and a string
runs from its quote to the closing quote or else to the end of its line. The
tokens and errors are those of the pieces, each at the line and column of the
offset its piece starts at (one more than the line feeds before it, and one
more than the characters since the last of them), and these offsets increase
from token to token; the token text of a number,
word or operator is its span. None of them is the end of input: that comes
once, last, at the position after the whole text.
-/
theorem scan_cuts_text (s : String) :
    ∃ pieces, Lexeme.Cut s.toList pieces ∧
      scan s = ((Lexeme.layout [] pieces).1 ++ [⟨.endOfInput, "", Position.after s.toList⟩],
        (Lexeme.layout [] pieces).2) ∧
      (∀ t ∈ (Lexeme.layout [] pieces).1, t.kind ≠ .endOfInput) ∧
      ∃ offsets : List Nat, offsets.Pairwise (· < ·) ∧
        List.Forall₂ (fun t p => t.position = Position.after (s.toList.take p))
          (Lexeme.layout [] pieces).1 offsets := by
  obtain ⟨pieces, cut, scanned⟩ := scanFrom_cut [] s.toList
  obtain ⟨offsets, increasing, -, placed⟩ := cut.offsets []
  exact ⟨pieces, cut, scanned, cut.not_end [], offsets, increasing, by simpa using placed⟩

end Token

end GameScript

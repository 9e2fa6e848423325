import GameScript.Proofs.Scanning
import GameScript.Syntax.Print

/-!
# Scanning printed expressions

The printed form of an expression (`Expr.render`) writes every operation in
parentheses with a space on each side of a binary operator, a call as its
name followed by its arguments between parentheses and separated by `, `, a
string literal between double quotes exactly as it is, a number as the
language formats it, and a name as it is. This module gives the tokens the
scanner reads back from such a text, positions left aside: its *spelling*, one
token for each name, literal, operator, parenthesis and comma.

The printed form scans back to its spelling when its names and literals
survive the scanner (`Expr.Printable`): each name is a word that is no
keyword, each string literal is free of double quotes, backslashes and line
feeds, and each number is printed as plain decimal digits (`[0-9]+(\.[0-9]+)?`)
that read back as the same double. The main result, `Token.shapes_render`,
says that the tokens scanned from a printed expression followed by a space,
`)`, `,`, `;` or nothing are its spelling followed by the tokens of what comes
after it. `Token.shapes_renderStmt` says the same of assignments and calls.
-/

namespace GameScript

/-! ## Tokens apart from their positions -/

namespace Token

/-- A token apart from where it stands: its kind and its text. -/
def shape (t : Token) : TokenKind × String := (t.kind, t.text)

/-- The kinds and texts of the tokens scanned from a text, the end of input last. -/
def shapes (text : List Char) : List (TokenKind × String) :=
  (scanFrom {} text).1.map shape

end Token

namespace Lexeme

/-- The token a lexeme stands for apart from its position: none for a blank, a comment or a stray character. -/
def shapes : Lexeme → List (TokenKind × String)
  | .token kind text => [(kind, text)]
  | .string value _ => [(.string, value)]
  | .blank | .comment | .stray _ => []

end Lexeme

namespace Token

/-- Where scanning starts changes the positions of the tokens and nothing else. -/
theorem map_shape_scanFrom (text : List Char) :
    ∀ p q : Position, (scanFrom p text).1.map shape = (scanFrom q text).1.map shape := by
  induction h : text.length using Nat.strong_induction_on generalizing text with
  | _ n ih =>
    intro p q
    match text with
    | [] => simp [scanFrom, shape]
    | c :: more =>
      have shorter : (Lexeme.read c more).2.2.length < n := by
        have := Lexeme.read_rest_length c more
        simp only [List.length_cons] at h
        omega
      have same := ih _ shorter _ rfl ((p.step c).walk (Lexeme.read c more).2.1)
        ((q.step c).walk (Lexeme.read c more).2.1)
      rw [scanFrom, scanFrom]
      generalize (Lexeme.read c more).1 = piece at *
      cases piece <;> simp [same, shape]

/-- Scanning a text gives the token of the lexeme at its head, then the tokens of the rest. -/
theorem shapes_cons (c : Char) (more : List Char) :
    shapes (c :: more) = (Lexeme.read c more).1.shapes ++ shapes (Lexeme.read c more).2.2 := by
  unfold shapes
  have same := map_shape_scanFrom (Lexeme.read c more).2.2
    ((({} : Position).step c).walk (Lexeme.read c more).2.1) {}
  rw [scanFrom]
  generalize (Lexeme.read c more).1 = piece
  cases piece <;> simp [Lexeme.shapes, shape, same]

theorem shapes_of_read {c : Char} {more span rest : List Char} {piece : Lexeme}
    (read : Lexeme.read c more = (piece, span, rest)) :
    shapes (c :: more) = piece.shapes ++ shapes rest := by
  rw [shapes_cons, read]

end Token

/-! ## The lexemes of printed pieces -/

namespace Lexeme

theorem blank_cases {c : Char} (blank : isBlank c = true) :
    c = ' ' ∨ c = '\t' ∨ c = '\r' ∨ c = '\n' := by
  simpa [isBlank, or_assoc] using blank

/-- An ASCII digit is one of the ten characters from `0`. -/
theorem digit_eq {c : Char} (digit : c.isDigit = true) : ∃ n < 10, c = Char.ofNat (48 + n) := by
  have bounds := Char.isDigit_iff_toNat.1 digit
  simp only [Char.reduceToNat] at bounds
  refine ⟨c.toNat - 48, by omega, ?_⟩
  rw [show 48 + (c.toNat - 48) = c.toNat by omega, Char.ofNat_toNat]

theorem startsWord_of_digit {c : Char} (digit : c.isDigit = true) : startsWord c = false := by
  obtain ⟨n, small, rfl⟩ := digit_eq digit
  have digits : ∀ n < 10, startsWord (Char.ofNat (48 + n)) = false := by decide +kernel
  exact digits n small

theorem isBlank_of_digit {c : Char} (digit : c.isDigit = true) : isBlank c = false := by
  cases blank : isBlank c
  · rfl
  · rcases blank_cases blank with rfl | rfl | rfl | rfl <;> revert digit <;> decide

theorem isDigit_of_startsWord {c : Char} (starts : startsWord c = true) : c.isDigit = false := by
  cases digit : c.isDigit
  · rfl
  · rw [startsWord_of_digit digit] at starts
    cases starts

theorem isBlank_of_startsWord {c : Char} (starts : startsWord c = true) : isBlank c = false := by
  cases blank : isBlank c
  · rfl
  · rcases blank_cases blank with rfl | rfl | rfl | rfl <;> revert starts <;> decide +kernel

/-- A run of characters that satisfy `p`, then a text that does not start with one, splits at the run. -/
theorem takeWhile_run {p : Char → Bool} {run rest : List Char} (inRun : ∀ x ∈ run, p x = true)
    (stops : ∀ x, rest.head? = some x → p x = false) : (run ++ rest).takeWhile p = run := by
  rw [List.takeWhile_append_of_pos inRun]
  cases rest with
  | nil => simp
  | cons x rest => simp [stops x rfl]

theorem dropWhile_run {p : Char → Bool} {run rest : List Char} (inRun : ∀ x ∈ run, p x = true)
    (stops : ∀ x, rest.head? = some x → p x = false) : (run ++ rest).dropWhile p = rest := by
  rw [List.dropWhile_append_of_pos inRun]
  cases rest with
  | nil => simp
  | cons x rest => simp [stops x rfl]

/-- Every two-character operator ends with `=`, so no other character makes one. -/
theorem pairOperator?_eq_none {c : Char} {more : List Char} (noPair : more.head? ≠ some '=') :
    pairOperator? c more = none := by
  cases more with
  | nil => rfl
  | cons d rest =>
    have notEquals : d ≠ '=' := fun same => noPair (by simp [same])
    have endsWithEquals : ∀ p ∈ TokenKind.pairs, p.2.1 = '=' := by decide
    simp only [pairOperator?, Option.map_eq_none_iff, List.find?_eq_none]
    intro p member
    simp [endsWithEquals p member, notEquals.symm]

/-- A word is read up to the first character that cannot continue it. -/
theorem read_word {c : Char} {tail rest : List Char} (starts : startsWord c = true)
    (continues : ∀ x ∈ tail, continuesWord x = true)
    (stops : ∀ x, rest.head? = some x → continuesWord x = false) :
    read c (tail ++ rest) =
      (.token ((TokenKind.keyword? (String.ofList (c :: tail))).getD .identifier)
        (String.ofList (c :: tail)), tail, rest) := by
  have notSlash : c ≠ '/' := fun slash => by
    subst slash
    revert starts
    decide +kernel
  unfold read
  simp [isBlank_of_startsWord starts, notSlash, isDigit_of_startsWord starts, starts,
    takeWhile_run continues stops, dropWhile_run continues stops]

/--
A number text is read whole when no digit and no point follow it. After the
whole part comes the fraction, if any, then the rest.
-/
theorem read_number {d : Char} {tail rest : List Char} (numeral : NumberText (d :: tail))
    (stops : ∀ x, rest.head? = some x → x.isDigit = false ∧ x ≠ '.') :
    read d (tail ++ rest) = (.token .number (String.ofList (d :: tail)), tail, rest) := by
  obtain ⟨whole, fraction, split, nonEmpty, digits, fractional⟩ := numeral
  obtain ⟨w, ws, rfl⟩ := List.exists_cons_of_ne_nil nonEmpty
  obtain ⟨rfl, rfl⟩ : d = w ∧ tail = ws ++ fraction := by simpa using split
  have digit : d.isDigit = true := digits d (by simp)
  have notSlash : d ≠ '/' := fun slash => by
    subst slash
    revert digit
    decide
  have wholeDigits : ∀ x ∈ ws, x.isDigit = true := fun x member => digits x (by simp [member])
  have afterWhole : ∀ x, (fraction ++ rest).head? = some x → x.isDigit = false := by
    rcases fractional with rfl | ⟨ds, rfl, -, -⟩
    · exact fun x head => (stops x (by simpa using head)).1
    · intro x head
      obtain rfl : x = '.' := by simpa using head.symm
      decide
  have fractionRead : fractionTail (fraction ++ rest) = (fraction, rest) := by
    rcases fractional with rfl | ⟨ds, rfl, nonEmpty, fractionDigits⟩
    · rcases fractionTail_cases rest with ⟨none, same, -⟩ | ⟨d', r, point, -, -⟩
      · exact Prod.ext none same
      · exact absurd rfl (stops '.' (by simp [point])).2
    · obtain ⟨d', ds', rfl⟩ := List.exists_cons_of_ne_nil nonEmpty
      have fractionDigits' : ∀ x ∈ ds', x.isDigit = true :=
        fun x member => fractionDigits x (by simp [member])
      have stopsDigit : ∀ x, rest.head? = some x → x.isDigit = false := fun x head => (stops x head).1
      simp [fractionTail, fractionDigits d' (by simp), takeWhile_run fractionDigits' stopsDigit,
        dropWhile_run fractionDigits' stopsDigit]
  have tailRead : numberTail (ws ++ (fraction ++ rest)) = (ws ++ fraction, rest) := by
    simp only [numberTail, takeWhile_run wholeDigits afterWhole,
      dropWhile_run wholeDigits afterWhole, fractionRead]
  unfold read
  simp [isBlank_of_digit digit, notSlash, digit, tailRead]

/-- A string body with no double quote, backslash or line feed runs up to the closing quote. -/
theorem stringBody_plain (rest : List Char) :
    ∀ {s : List Char}, (∀ x ∈ s, x ≠ '"' ∧ x ≠ '\\' ∧ x ≠ '\n') →
      stringBody (s ++ '"' :: rest) = (s, s, '"' :: rest)
  | [], _ => by simp [stringBody]
  | c :: s, plain => by
    obtain ⟨notQuote, notBackslash, notFeed⟩ := plain c (by simp)
    have more := stringBody_plain rest (s := s) fun x member => plain x (by simp [member])
    rw [List.cons_append, stringBody]
    · simp [notQuote, notFeed, more]
    · intro e after backslash
      exact absurd backslash notBackslash

theorem read_string {s rest : List Char} (plain : ∀ x ∈ s, x ≠ '"' ∧ x ≠ '\\' ∧ x ≠ '\n') :
    read '"' (s ++ '"' :: rest) = (.string (String.ofList s) true, s ++ ['"'], rest) := by
  have notWord : startsWord '"' = false := by decide +kernel
  unfold read
  simp [isBlank, notWord, stringBody_plain rest plain]

/-- A one-character operator is read alone when it starts no two-character one here, and no comment. -/
theorem read_single {c : Char} {kind : TokenKind} {more : List Char}
    (single : singleOperator? c = some kind)
    (plain : isBlank c = false ∧ c.isDigit = false ∧ startsWord c = false ∧ c ≠ '"')
    (noPair : pairOperator? c more = none) (noComment : c = '/' → more.head? ≠ some '/') :
    read c more = (.token kind (String.singleton c), [], more) := by
  obtain ⟨notBlank, notDigit, notWord, notQuote⟩ := plain
  have notCommentStart : (c == '/' && more.head? == some '/') = false := by
    by_cases slash : c = '/'
    · simp [noComment slash]
    · simp [slash]
  unfold read
  simp [notBlank, notCommentStart, notDigit, notWord, notQuote, noPair, single]

/-- A two-character operator is read as one token. -/
theorem read_pair {c : Char} {kind : TokenKind} {more : List Char}
    (pair : pairOperator? c ('=' :: more) = some kind)
    (plain : isBlank c = false ∧ c.isDigit = false ∧ startsWord c = false ∧ c ≠ '"') :
    read c ('=' :: more) = (.token kind (String.ofList [c, '=']), ['='], more) := by
  obtain ⟨notBlank, notDigit, notWord, notQuote⟩ := plain
  unfold read
  simp [notBlank, notDigit, notWord, notQuote, pair]

/-- Whether two characters make an operator depends on the next character only. -/
theorem pairOperator?_cons (c d : Char) (more : List Char) :
    pairOperator? c (d :: more) = pairOperator? c [d] := rfl

/-- A character that starts no two-character operator makes none. -/
theorem pairOperator?_of_not_first {c : Char} {more : List Char}
    (notFirst : ∀ p ∈ TokenKind.pairs, p.1 ≠ c) : pairOperator? c more = none := by
  cases more with
  | nil => rfl
  | cons d rest =>
    simp only [pairOperator?, Option.map_eq_none_iff, List.find?_eq_none]
    intro p member
    simp [notFirst p member]

end Lexeme

/-! ## Names, literals and spellings -/

/-- A word the scanner reads as a name: a letter or an underscore, then letters, numerals and underscores, and no keyword. -/
def IsName (s : String) : Prop :=
  ∃ c tail, s.toList = c :: tail ∧ Lexeme.startsWord c = true ∧
    (∀ x ∈ tail, Lexeme.continuesWord x = true) ∧ TokenKind.keyword? s = none

namespace Literal

/-- The token a literal is printed as. -/
def spelling : Literal → TokenKind × String
  | .number x => (.number, formatFloat x)
  | .text s => (.string, s)
  | .boolean b => if b then (.keywordTrue, "true") else (.keywordFalse, "false")

/--
A literal whose printed form scans back to its token: a string with no double
quote, backslash or line feed, and a number printed as plain decimal digits
with an optional fraction that read back as the same double.
-/
def Reprints : Literal → Prop
  | .number x =>
    Lexeme.NumberText (formatFloat x).toList ∧ Reading.readFloat? (formatFloat x) = some x
  | .text s => '"' ∉ s.toList ∧ '\\' ∉ s.toList ∧ '\n' ∉ s.toList
  | .boolean _ => True

end Literal

/-- The token a prefix operator is printed as. -/
def UnaryOp.tokenKind : UnaryOp → TokenKind
  | .neg => .minus | .pos => .plus | .not => .bang

/-- The token a binary operator is printed as. -/
def BinOp.tokenKind : BinOp → TokenKind
  | .add => .plus | .sub => .minus | .mul => .star | .div => .slash
  | .less => .less | .greater => .greater | .lessEq => .lessEqual
  | .greaterEq => .greaterEqual | .equal => .equalEqual | .notEqual => .notEqual

mutual

/-- The tokens an expression is printed with, apart from their positions. -/
def Expr.spelling : Expr → List (TokenKind × String)
  | .literal value _ => [value.spelling]
  | .identifier name _ => [(.identifier, name)]
  | .unary op operand _ =>
    (.leftParen, "(") :: (op.tokenKind, op.symbol) :: operand.spelling ++ [(.rightParen, ")")]
  | .binary op left right _ =>
    (.leftParen, "(") :: left.spelling ++ (op.tokenKind, op.symbol) :: right.spelling ++
      [(.rightParen, ")")]
  | .call name args _ =>
    (.identifier, name) :: (.leftParen, "(") :: Expr.spellingList args ++ [(.rightParen, ")")]

/-- The tokens of expressions printed with commas between them. -/
def Expr.spellingList : List Expr → List (TokenKind × String)
  | [] => []
  | [e] => e.spelling
  | e :: rest => e.spelling ++ (.comma, ",") :: Expr.spellingList rest

end

mutual

/-- The names an expression uses: its identifiers and the functions it calls, from left to right. -/
def Expr.names : Expr → List String
  | .literal .. => []
  | .identifier name _ => [name]
  | .unary _ operand _ => operand.names
  | .binary _ left right _ => left.names ++ right.names
  | .call name args _ => name :: Expr.namesList args

/-- The names of expressions, one after the other. -/
def Expr.namesList : List Expr → List String
  | [] => []
  | e :: rest => e.names ++ Expr.namesList rest

end

mutual

/-- The literals of an expression, from left to right. -/
def Expr.literals : Expr → List Literal
  | .literal value _ => [value]
  | .identifier .. => []
  | .unary _ operand _ => operand.literals
  | .binary _ left right _ => left.literals ++ right.literals
  | .call _ args _ => Expr.literalsList args

/-- The literals of expressions, one after the other. -/
def Expr.literalsList : List Expr → List Literal
  | [] => []
  | e :: rest => e.literals ++ Expr.literalsList rest

end

theorem Expr.mem_namesList {n : String} {es : List Expr} :
    n ∈ Expr.namesList es ↔ ∃ e ∈ es, n ∈ e.names := by
  induction es with
  | nil => simp [Expr.namesList]
  | cons e rest ih => simp [Expr.namesList, ih]

theorem Expr.mem_literalsList {l : Literal} {es : List Expr} :
    l ∈ Expr.literalsList es ↔ ∃ e ∈ es, l ∈ e.literals := by
  induction es with
  | nil => simp [Expr.literalsList]
  | cons e rest ih => simp [Expr.literalsList, ih]

/-- An expression whose printed form scans back to its spelling: its names are names and its literals reprint. -/
structure Expr.Printable (e : Expr) : Prop where
  names : ∀ n ∈ e.names, IsName n
  literals : ∀ l ∈ e.literals, l.Reprints

namespace Expr.Printable

variable {op : UnaryOp} {bop : BinOp} {x l r : Expr} {name : String} {es : List Expr}
  {value : Literal} {p : Position}

theorem literal (printable : (Expr.literal value p).Printable) : value.Reprints :=
  printable.literals value (by simp [Expr.literals])

theorem identifier (printable : (Expr.identifier name p).Printable) : IsName name :=
  printable.names name (by simp [Expr.names])

theorem operand (printable : (Expr.unary op x p).Printable) : x.Printable :=
  ⟨fun n member => printable.names n (by simpa [Expr.names] using member),
    fun l member => printable.literals l (by simpa [Expr.literals] using member)⟩

theorem left (printable : (Expr.binary bop l r p).Printable) : l.Printable :=
  ⟨fun n member => printable.names n (by simp [Expr.names, member]),
    fun l member => printable.literals l (by simp [Expr.literals, member])⟩

theorem right (printable : (Expr.binary bop l r p).Printable) : r.Printable :=
  ⟨fun n member => printable.names n (by simp [Expr.names, member]),
    fun l member => printable.literals l (by simp [Expr.literals, member])⟩

theorem function (printable : (Expr.call name es p).Printable) : IsName name :=
  printable.names name (by simp [Expr.names])

theorem args (printable : (Expr.call name es p).Printable) : ∀ e ∈ es, e.Printable :=
  fun e member =>
    ⟨fun n named => printable.names n
        (by simpa [Expr.names] using .inr (Expr.mem_namesList.2 ⟨e, member, named⟩)),
      fun l used => printable.literals l
        (by simpa [Expr.literals] using Expr.mem_literalsList.2 ⟨e, member, used⟩)⟩

end Expr.Printable

/-- A printed expression starts with a character that makes no two-character operator with the one before it. -/
theorem Expr.render_head {e : Expr} (printable : e.Printable) :
    ∃ c tail, e.render.toList = c :: tail ∧ c ≠ '=' := by
  have notWordStart : ∀ {name : String}, IsName name → ∃ c tail, name.toList = c :: tail ∧ c ≠ '=' := by
    rintro name ⟨c, tail, spelled, starts, -, -⟩
    refine ⟨c, tail, spelled, fun equals => ?_⟩
    subst equals
    revert starts
    decide +kernel
  cases e with
  | literal value p =>
    cases value with
    | number x =>
      obtain ⟨⟨whole, fraction, split, nonEmpty, digits, -⟩, -⟩ := printable.literal
      obtain ⟨d, ds, rfl⟩ := List.exists_cons_of_ne_nil nonEmpty
      refine ⟨d, ds ++ fraction, by simpa [Expr.render, Literal.render] using split, fun equals => ?_⟩
      have digit := digits d (by simp)
      subst equals
      revert digit
      decide
    | text s => exact ⟨'"', s.toList ++ ['"'], by simp [Expr.render, Literal.render], by decide⟩
    | boolean b =>
      cases b
      · exact ⟨'f', "alse".toList, by simp [Expr.render, Literal.render], by decide⟩
      · exact ⟨'t', "rue".toList, by simp [Expr.render, Literal.render], by decide⟩
  | identifier name p => simpa [Expr.render] using notWordStart printable.identifier
  | unary op operand p =>
    exact ⟨'(', op.symbol.toList ++ (operand.render.toList ++ [')']), by simp [Expr.render], by decide⟩
  | binary op left right p =>
    exact ⟨'(', left.render.toList ++ ' ' :: (op.symbol.toList ++ ' ' :: (right.render.toList ++ [')'])),
      by simp [Expr.render], by decide⟩
  | call name args p =>
    obtain ⟨c, tail, spelled, notEquals⟩ := notWordStart printable.function
    exact ⟨c, tail ++ '(' :: ((Expr.renderList args).toList ++ [')']), by simp [Expr.render, spelled],
      notEquals⟩

/-! ## Printed expressions scan to their spellings -/

/-- Text that cannot continue a printed expression: nothing, or a space, `)`, `,` or `;` first. -/
def Closes (rest : List Char) : Prop :=
  ∀ x, rest.head? = some x → x = ' ' ∨ x = ')' ∨ x = ',' ∨ x = ';'

namespace Closes

theorem nil : Closes [] := by
  intro x head
  cases head

theorem space (rest : List Char) : Closes (' ' :: rest) :=
  fun _ head => .inl (Option.some.inj head).symm

theorem rightParen (rest : List Char) : Closes (')' :: rest) :=
  fun _ head => .inr (.inl (Option.some.inj head).symm)

theorem comma (rest : List Char) : Closes (',' :: rest) :=
  fun _ head => .inr (.inr (.inl (Option.some.inj head).symm))

theorem semicolon (rest : List Char) : Closes (';' :: rest) :=
  fun _ head => .inr (.inr (.inr (Option.some.inj head).symm))

variable {rest : List Char} (closes : Closes rest)
include closes

theorem stopsWord : ∀ x, rest.head? = some x → Lexeme.continuesWord x = false := by
  intro x head
  rcases closes x head with rfl | rfl | rfl | rfl <;> decide +kernel

theorem stopsNumber : ∀ x, rest.head? = some x → x.isDigit = false ∧ x ≠ '.' := by
  intro x head
  rcases closes x head with rfl | rfl | rfl | rfl <;> decide

end Closes

namespace Token

open Lexeme

theorem shapes_single {c : Char} {kind : TokenKind} {more : List Char}
    (single : singleOperator? c = some kind)
    (plain : isBlank c = false ∧ c.isDigit = false ∧ startsWord c = false ∧ c ≠ '"')
    (noPair : pairOperator? c more = none) (noComment : c = '/' → more.head? ≠ some '/') :
    shapes (c :: more) = (kind, String.singleton c) :: shapes more := by
  rw [shapes_of_read (read_single single plain noPair noComment)]
  rfl

theorem shapes_pair {c : Char} {kind : TokenKind} {more : List Char}
    (pair : pairOperator? c ('=' :: more) = some kind)
    (plain : isBlank c = false ∧ c.isDigit = false ∧ startsWord c = false ∧ c ≠ '"') :
    shapes (c :: '=' :: more) = (kind, String.ofList [c, '=']) :: shapes more := by
  rw [shapes_of_read (read_pair pair plain)]
  rfl

theorem shapes_space (more : List Char) : shapes (' ' :: more) = shapes more := by
  rw [shapes_of_read (show read ' ' more = (.blank, [], more) by simp [Lexeme.read, isBlank])]
  rfl

/-- Parentheses, commas and semicolons are tokens of their own, whatever follows them. -/
theorem shapes_leftParen (more : List Char) : shapes ('(' :: more) = (.leftParen, "(") :: shapes more :=
  shapes_single (by decide) (by decide +kernel) (pairOperator?_of_not_first (by decide))
    fun slash => absurd slash (by decide)

theorem shapes_rightParen (more : List Char) :
    shapes (')' :: more) = (.rightParen, ")") :: shapes more :=
  shapes_single (by decide) (by decide +kernel) (pairOperator?_of_not_first (by decide))
    fun slash => absurd slash (by decide)

theorem shapes_comma (more : List Char) : shapes (',' :: more) = (.comma, ",") :: shapes more :=
  shapes_single (by decide) (by decide +kernel) (pairOperator?_of_not_first (by decide))
    fun slash => absurd slash (by decide)

theorem shapes_semicolon (more : List Char) :
    shapes (';' :: more) = (.semicolon, ";") :: shapes more :=
  shapes_single (by decide) (by decide +kernel) (pairOperator?_of_not_first (by decide))
    fun slash => absurd slash (by decide)

/-- A binary operator printed with a space after it is one token. -/
theorem shapes_binOp (op : BinOp) (rest : List Char) :
    shapes (op.symbol.toList ++ ' ' :: rest) = (op.tokenKind, op.symbol) :: shapes (' ' :: rest) := by
  have noPair : ∀ c, pairOperator? c (' ' :: rest) = none := fun c => pairOperator?_eq_none (by simp)
  cases op with
  | add | sub | mul | div | less | greater =>
    exact shapes_single (by decide) (by decide +kernel) (noPair _) (by simp)
  | lessEq | greaterEq | equal | notEqual =>
    exact shapes_pair (by rw [pairOperator?_cons]; decide +kernel) (by decide +kernel)

/-- A prefix operator is one token when no `=` follows it. -/
theorem shapes_unaryOp (op : UnaryOp) {more : List Char} (noPair : more.head? ≠ some '=') :
    shapes (op.symbol.toList ++ more) = (op.tokenKind, op.symbol) :: shapes more := by
  cases op <;>
    exact shapes_single (by decide) (by decide +kernel) (pairOperator?_eq_none noPair)
      fun slash => absurd slash (by decide)

/-- A word is one token, a keyword's or else a name's, when nothing follows that could continue it. -/
theorem shapes_word {word : String} {c : Char} {tail : List Char} (spelled : word.toList = c :: tail)
    (starts : startsWord c = true) (continues : ∀ x ∈ tail, continuesWord x = true)
    {rest : List Char} (stops : ∀ x, rest.head? = some x → continuesWord x = false) :
    shapes (word.toList ++ rest) = ((TokenKind.keyword? word).getD .identifier, word) :: shapes rest := by
  have same : String.ofList (c :: tail) = word := by rw [← spelled, String.ofList_toList]
  rw [spelled, List.cons_append, shapes_of_read (read_word starts continues stops), same]
  rfl

theorem shapes_name {name : String} (isName : IsName name) {rest : List Char}
    (stops : ∀ x, rest.head? = some x → continuesWord x = false) :
    shapes (name.toList ++ rest) = (.identifier, name) :: shapes rest := by
  obtain ⟨c, tail, spelled, starts, continues, notKeyword⟩ := isName
  rw [shapes_word spelled starts continues stops, notKeyword]
  rfl

theorem shapes_literal {value : Literal} (reprints : value.Reprints) {rest : List Char}
    (closes : Closes rest) : shapes (value.render.toList ++ rest) = value.spelling :: shapes rest := by
  cases value with
  | number x =>
    obtain ⟨numeral, -⟩ := reprints
    obtain ⟨whole, fraction, split, nonEmpty, -⟩ := id numeral
    obtain ⟨d, ds, rfl⟩ := List.exists_cons_of_ne_nil nonEmpty
    have spelled : (formatFloat x).toList = d :: (ds ++ fraction) := by simpa using split
    have same : String.ofList (d :: (ds ++ fraction)) = formatFloat x := by
      rw [← spelled, String.ofList_toList]
    rw [Literal.render, spelled, List.cons_append,
      shapes_of_read (read_number (spelled ▸ numeral) closes.stopsNumber), same]
    rfl
  | text s =>
    obtain ⟨noQuote, noBackslash, noFeed⟩ := reprints
    have plain : ∀ x ∈ s.toList, x ≠ '"' ∧ x ≠ '\\' ∧ x ≠ '\n' := fun x member =>
      ⟨fun quote => noQuote (quote ▸ member), fun backslash => noBackslash (backslash ▸ member),
        fun feed => noFeed (feed ▸ member)⟩
    have text : ("\"" ++ s ++ "\"").toList ++ rest = '"' :: (s.toList ++ '"' :: rest) := by simp
    rw [Literal.render, text, shapes_of_read (read_string plain), String.ofList_toList]
    rfl
  | boolean b =>
    cases b
    · exact shapes_word (show "false".toList = 'f' :: ['a', 'l', 's', 'e'] from rfl)
        (by decide +kernel) (List.all_eq_true.1 (by decide +kernel)) closes.stopsWord
    · exact shapes_word (show "true".toList = 't' :: ['r', 'u', 'e'] from rfl)
        (by decide +kernel) (List.all_eq_true.1 (by decide +kernel)) closes.stopsWord

mutual

/-- The printed form of an expression, before text that cannot continue it, scans to its spelling. -/
theorem shapes_render : ∀ (e : Expr), e.Printable → ∀ {rest : List Char}, Closes rest →
    shapes (e.render.toList ++ rest) = e.spelling ++ shapes rest
  | .literal value _, printable, _, closes => by
    simpa [Expr.render, Expr.spelling] using shapes_literal printable.literal closes
  | .identifier name _, printable, _, closes => by
    simpa [Expr.render, Expr.spelling] using shapes_name printable.identifier closes.stopsWord
  | .unary op operand _, printable, rest, _ => by
    obtain ⟨c, tail, rendered, notEquals⟩ := Expr.render_head printable.operand
    rw [show (Expr.unary op operand _).render.toList ++ rest =
        '(' :: (op.symbol.toList ++ (operand.render.toList ++ ')' :: rest)) by simp [Expr.render],
      shapes_leftParen, shapes_unaryOp op (by simp [rendered, notEquals]),
      shapes_render operand printable.operand (Closes.rightParen rest), shapes_rightParen]
    simp [Expr.spelling]
  | .binary op left right _, printable, rest, _ => by
    rw [show (Expr.binary op left right _).render.toList ++ rest =
        '(' :: (left.render.toList ++ ' ' :: (op.symbol.toList ++ ' ' ::
          (right.render.toList ++ ')' :: rest))) by simp [Expr.render],
      shapes_leftParen, shapes_render left printable.left (Closes.space _), shapes_space,
      shapes_binOp, shapes_space, shapes_render right printable.right (Closes.rightParen rest),
      shapes_rightParen]
    simp [Expr.spelling]
  | .call name args _, printable, rest, _ => by
    have opening : ∀ x, ('(' :: ((Expr.renderList args).toList ++ ')' :: rest)).head? = some x →
        continuesWord x = false := by
      intro x head
      obtain rfl : x = '(' := (Option.some.inj head).symm
      decide +kernel
    rw [show (Expr.call name args _).render.toList ++ rest =
        name.toList ++ '(' :: ((Expr.renderList args).toList ++ ')' :: rest) by simp [Expr.render],
      shapes_name printable.function opening, shapes_leftParen,
      shapes_renderList args printable.args rest, shapes_rightParen]
    simp [Expr.spelling]

/-- Printed arguments before their closing parenthesis scan to their spellings with commas between. -/
theorem shapes_renderList : ∀ (es : List Expr), (∀ e ∈ es, e.Printable) → ∀ (rest : List Char),
    shapes ((Expr.renderList es).toList ++ ')' :: rest) = Expr.spellingList es ++ shapes (')' :: rest)
  | [], _, rest => by simp [Expr.renderList, Expr.spellingList]
  | [e], printable, rest => by
    simpa [Expr.renderList, Expr.spellingList] using
      shapes_render e (printable e (by simp)) (Closes.rightParen rest)
  | e :: f :: more, printable, rest => by
    rw [show (Expr.renderList (e :: f :: more)).toList ++ ')' :: rest =
        e.render.toList ++ ',' :: ' ' :: ((Expr.renderList (f :: more)).toList ++ ')' :: rest) by
          simp [Expr.renderList],
      shapes_render e (printable e (by simp)) (Closes.comma _), shapes_comma, shapes_space,
      shapes_renderList (f :: more) (fun x member => printable x (by simp_all)) rest]
    simp [Expr.spellingList]

end

end Token

/-! ## Printed statements -/

/-- The token an assignment operator is printed as, when the scanner reads it as one. -/
def AssignOp.tokenKind? : AssignOp → Option TokenKind
  | .set => some .assign
  | .compound .add => some .plusAssign
  | .compound .sub => some .minusAssign
  | .compound .mul => some .starAssign
  | .compound .div => some .slashAssign
  | .compound _ => none

/-- The tokens an assignment or a call statement is printed with; the other statements print as summaries and have none. -/
def Stmt.spelling : Stmt → List (TokenKind × String)
  | .assign target op value _ =>
    (.identifier, target) :: (op.tokenKind?.getD .assign, op.symbol) :: value.spelling ++
      [(.semicolon, ";")]
  | .call function args _ =>
    (.identifier, function) :: (.leftParen, "(") :: Expr.spellingList args ++
      [(.rightParen, ")"), (.semicolon, ";")]
  | .ifThen .. | .unknown .. => []

/-- An assignment or a call whose printed form scans back to its spelling. -/
def Stmt.Printable : Stmt → Prop
  | .assign target op value _ => IsName target ∧ op.tokenKind?.isSome ∧ value.Printable
  | .call function args _ => IsName function ∧ ∀ e ∈ args, e.Printable
  | .ifThen .. | .unknown .. => False

/-- The one-method component `component C { fn m() { st } }` around a printed statement. -/
def Stmt.inMethod (st : Stmt) : String :=
  "component C \x7b fn m() \x7b " ++ st.render ++ " \x7d \x7d"

namespace Token

open Lexeme

theorem stops_cons {c : Char} (stops : continuesWord c = false) (more : List Char) :
    ∀ x, (c :: more).head? = some x → continuesWord x = false := by
  intro x head
  obtain rfl : x = c := (Option.some.inj head).symm
  exact stops

theorem shapes_leftBrace (more : List Char) :
    shapes ('\x7b' :: more) = (.leftBrace, "\x7b") :: shapes more :=
  shapes_single (by decide) (by decide +kernel) (pairOperator?_of_not_first (by decide))
    fun slash => absurd slash (by decide)

theorem shapes_rightBrace (more : List Char) :
    shapes ('\x7d' :: more) = (.rightBrace, "\x7d") :: shapes more :=
  shapes_single (by decide) (by decide +kernel) (pairOperator?_of_not_first (by decide))
    fun slash => absurd slash (by decide)

/-- An assignment operator printed with a space after it is one token. -/
theorem shapes_assignOp {op : AssignOp} {kind : TokenKind} (token : op.tokenKind? = some kind)
    (rest : List Char) :
    shapes (op.symbol.toList ++ ' ' :: rest) = (kind, op.symbol) :: shapes (' ' :: rest) := by
  cases op with
  | set =>
    cases token
    exact shapes_single (by decide) (by decide +kernel) (pairOperator?_eq_none (by simp)) (by simp)
  | compound op =>
    cases op <;> cases token <;>
      exact shapes_pair (by rw [pairOperator?_cons]; decide +kernel) (by decide +kernel)

/-- The printed form of an assignment or a call scans to its spelling, whatever follows it. -/
theorem shapes_renderStmt {st : Stmt} (printable : st.Printable) (rest : List Char) :
    shapes (st.render.toList ++ rest) = st.spelling ++ shapes rest := by
  have space : continuesWord ' ' = false := by decide +kernel
  cases st with
  | assign target op value _ =>
    obtain ⟨isName, readable, printable⟩ := printable
    obtain ⟨kind, token⟩ := Option.isSome_iff_exists.1 readable
    rw [show (Stmt.assign target op value _).render.toList ++ rest =
        target.toList ++ ' ' :: (op.symbol.toList ++ ' ' :: (value.render.toList ++ ';' :: rest)) by
          simp [Stmt.render],
      shapes_name isName (stops_cons space _), shapes_space, shapes_assignOp token, shapes_space,
      shapes_render value printable (Closes.semicolon rest), shapes_semicolon]
    simp [Stmt.spelling, token]
  | call function args _ =>
    obtain ⟨isName, printable⟩ := printable
    have opening : continuesWord '(' = false := by decide +kernel
    rw [show (Stmt.call function args _).render.toList ++ rest =
        function.toList ++ '(' :: ((Expr.renderList args).toList ++ ')' :: ';' :: rest) by
          simp [Stmt.render],
      shapes_name isName (stops_cons opening _), shapes_leftParen,
      shapes_renderList args printable (';' :: rest), shapes_rightParen, shapes_semicolon]
    simp [Stmt.spelling]
  | ifThen | unknown => exact printable.elim

/-- The one-method component is its opening text, the printed statement and the closing text. -/
theorem inMethod_toList (st : Stmt) :
    st.inMethod.toList =
      ("component C \x7b fn m() \x7b ").toList ++ (st.render.toList ++ (" \x7d \x7d").toList) := by
  unfold Stmt.inMethod
  simp only [String.toList_append, List.append_assoc]

/-- A one-method component around a printed assignment or call scans to the statement's spelling inside the tokens of the component. -/
theorem shapes_inMethod {st : Stmt} (printable : st.Printable) :
    shapes st.inMethod.toList =
      [(.keywordComponent, "component"), (.identifier, "C"), (.leftBrace, "\x7b"),
        (.keywordFn, "fn"), (.identifier, "m"), (.leftParen, "("), (.rightParen, ")"),
        (.leftBrace, "\x7b")] ++ st.spelling ++
      [(.rightBrace, "\x7d"), (.rightBrace, "\x7d"), (.endOfInput, "")] := by
  have space : continuesWord ' ' = false := by decide +kernel
  have opening : continuesWord '(' = false := by decide +kernel
  have nameC : IsName "C" := ⟨'C', [], rfl, by decide +kernel, by simp, by decide⟩
  have nameM : IsName "m" := ⟨'m', [], rfl, by decide +kernel, by simp, by decide⟩
  have prefixText : ("component C \x7b fn m() \x7b ").toList = "component".toList ++ ' ' ::
      ("C".toList ++ ' ' :: '\x7b' :: ' ' :: ("fn".toList ++ ' ' :: ("m".toList ++
        ['(', ')', ' ', '\x7b', ' ']))) := by decide +kernel
  have suffixText : (" \x7d \x7d").toList = [' ', '\x7d', ' ', '\x7d'] := by decide +kernel
  simp only [inMethod_toList, prefixText, suffixText, List.append_assoc, List.cons_append,
    List.nil_append]
  rw [shapes_word (show "component".toList = 'c' :: ['o', 'm', 'p', 'o', 'n', 'e', 'n', 't'] from rfl)
      (by decide +kernel) (List.all_eq_true.1 (by decide +kernel)) (stops_cons space _),
    shapes_space, shapes_name nameC (stops_cons space _), shapes_space, shapes_leftBrace, shapes_space,
    shapes_word (show "fn".toList = 'f' :: ['n'] from rfl) (by decide +kernel)
      (List.all_eq_true.1 (by decide +kernel)) (stops_cons space _),
    shapes_space, shapes_name nameM (stops_cons opening _), shapes_leftParen, shapes_rightParen,
    shapes_space, shapes_leftBrace, shapes_space, shapes_renderStmt printable, shapes_space,
    shapes_rightBrace, shapes_space, shapes_rightBrace]
  have component : TokenKind.keyword? "component" = some .keywordComponent := by decide
  have fn : TokenKind.keyword? "fn" = some .keywordFn := by decide
  have ending : shapes [] = [(.endOfInput, "")] := by decide +kernel
  simp [component, fn, ending]
end Token

end GameScript

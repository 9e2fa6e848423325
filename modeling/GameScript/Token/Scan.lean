import GameScript.Token
import GameScript.Text.Letter
import GameScript.Text.Alphanumeric

/-!
# Scanning text into tokens

`Token.scan` cuts a text into lexemes from left to right. At each character it
takes, in this order: a blank (space, tab, carriage return, line feed), a `//`
comment up to the end of the line, a number (ASCII digits with an optional
fraction `.digits`, no exponent), a word (a letter or underscore, then letters,
numerals and underscores; five words are keywords), a string (from a double
quote to the next double quote or the end of the line, with the escapes `\"`,
`\\`, `\n`, `\t`), a two-character operator, a one-character operator.
Anything else is a stray character: it is reported and skipped.

Every lexeme takes at least one character, so the scan ends; the scanned
pieces, concatenated, give back the text (`Lexeme.read_span_append`).
-/

namespace GameScript

/-- What the scanner finds at the head of the text. -/
inductive Lexeme where
  /-- One blank character. -/
  | blank
  /-- A `//` comment, without the line feed that ends it. -/
  | comment
  /-- A token other than a string. -/
  | token (kind : TokenKind) (text : String)
  /-- A string literal: its value after escapes, and whether a closing quote ended it. -/
  | string (value : String) (closed : Bool)
  /-- A character no lexeme starts with. -/
  | stray (c : Char)
  deriving Repr, DecidableEq, Inhabited

namespace Lexeme

/-- Whether a character is blank for the scanner. -/
def isBlank (c : Char) : Bool :=
  c == ' ' || c == '\t' || c == '\r' || c == '\n'

/-- Whether a character may continue a word. -/
def continuesWord (c : Char) : Bool :=
  Text.isAlphanumeric c || c == '_'

/-- Whether a character may start a word. -/
def startsWord (c : Char) : Bool :=
  Text.isLetter c || c == '_'

/-- What an escaped character stands for: `n` a line feed, `t` a tab, others themselves. -/
def escaped (e : Char) : Char :=
  if e == 'n' then '\n' else if e == 't' then '\t' else e

/-- Whether a backslash before this character makes an escape. -/
def escapes (e : Char) : Bool :=
  e == '"' || e == '\\' || e == 'n' || e == 't'

/--
The body of a string after its opening quote, up to a double quote or a line
feed or the end: the value after escapes, the characters spanned, and the rest.
-/
def stringBody : List Char → List Char × List Char × List Char
  | [] => ([], [], [])
  | '\\' :: e :: after =>
    if escapes e then
      let body := stringBody after
      (escaped e :: body.1, '\\' :: e :: body.2.1, body.2.2)
    else
      let body := stringBody (e :: after)
      ('\\' :: body.1, '\\' :: body.2.1, body.2.2)
  | c :: rest =>
    if c == '"' || c == '\n' then ([], [], c :: rest)
    else
      let body := stringBody rest
      (c :: body.1, c :: body.2.1, body.2.2)
termination_by cs => cs.length

theorem stringBody_span_append (cs : List Char) :
    (stringBody cs).2.1 ++ (stringBody cs).2.2 = cs := by
  fun_induction stringBody cs <;> simp_all +zetaDelta

/-- The fraction `.digits` of a number, if the text starts with one. -/
def fractionTail : List Char → List Char × List Char
  | '.' :: d :: rest =>
    if d.isDigit then ('.' :: d :: rest.takeWhile Char.isDigit, rest.dropWhile Char.isDigit)
    else ([], '.' :: d :: rest)
  | after => ([], after)

theorem fractionTail_append (cs : List Char) :
    (fractionTail cs).1 ++ (fractionTail cs).2 = cs := by
  fun_cases fractionTail cs <;> simp_all [List.takeWhile_append_dropWhile]

/-- The digits of a number after its first, with an optional fraction, and the rest. -/
def numberTail (more : List Char) : List Char × List Char :=
  let fraction := fractionTail (more.dropWhile Char.isDigit)
  (more.takeWhile Char.isDigit ++ fraction.1, fraction.2)

theorem numberTail_append (more : List Char) :
    (numberTail more).1 ++ (numberTail more).2 = more := by
  simp only [numberTail, List.append_assoc, fractionTail_append, List.takeWhile_append_dropWhile]

/-- The operator made of `c` and the next character, if there is one. -/
def pairOperator? (c : Char) (more : List Char) : Option TokenKind :=
  match more with
  | d :: _ => (TokenKind.pairs.find? fun (a, b, _) => a == c && b == d).map (·.2.2)
  | [] => none

/-- The one-character operator `c`, if it is one. -/
def singleOperator? (c : Char) : Option TokenKind :=
  (TokenKind.singles.find? (·.1 == c)).map (·.2)

/--
The lexeme at the head of `c :: more`, the characters it spans after `c`, and
the rest of the text.
-/
def read (c : Char) (more : List Char) : Lexeme × List Char × List Char :=
  if isBlank c then (.blank, [], more)
  else if c == '/' && more.head? == some '/' then
    (.comment, more.takeWhile (· != '\n'), more.dropWhile (· != '\n'))
  else if c.isDigit then
    (.token .number (String.ofList (c :: (numberTail more).1)), (numberTail more).1,
      (numberTail more).2)
  else if startsWord c then
    let tail := more.takeWhile continuesWord
    let word := String.ofList (c :: tail)
    (.token ((TokenKind.keyword? word).getD .identifier) word, tail, more.dropWhile continuesWord)
  else if c == '"' then
    match stringBody more with
    | (value, body, '"' :: after) => (.string (String.ofList value) true, body ++ ['"'], after)
    | (value, body, rest) => (.string (String.ofList value) false, body, rest)
  else match pairOperator? c more with
    | some kind =>
      (.token kind (String.ofList (c :: more.take 1)), more.take 1, more.drop 1)
    | none =>
      match singleOperator? c with
      | some kind => (.token kind (String.singleton c), [], more)
      | none => (.stray c, [], more)

/-- The span of a lexeme followed by the rest is the text after its first character. -/
theorem read_span_append (c : Char) (more : List Char) :
    (read c more).2.1 ++ (read c more).2.2 = more := by
  unfold read
  split
  · rfl
  split
  · exact List.takeWhile_append_dropWhile
  split
  · exact numberTail_append more
  split
  · exact List.takeWhile_append_dropWhile
  split
  · have h := stringBody_span_append more
    split
    · rename_i value body after heq
      rw [heq] at h
      simpa using h
    · rename_i value body rest _ heq
      rw [heq] at h
      exact h
  split
  · exact List.take_append_drop 1 more
  split <;> rfl

/-- The rest after a lexeme is no longer than the text after its first character. -/
theorem read_rest_length (c : Char) (more : List Char) :
    (read c more).2.2.length ≤ more.length := by
  have h := congrArg List.length (read_span_append c more)
  rw [List.length_append] at h
  omega

end Lexeme

namespace Token

/-- Tokens and scan errors of a text read from `position` on; the tokens end with the end-of-input token. -/
def scanFrom (position : Position) (input : List Char) : List Token × List ScanError :=
  match input with
  | [] => ([⟨.endOfInput, "", position⟩], [])
  | c :: more =>
    let piece := Lexeme.read c more
    let next := (position.step c).walk piece.2.1
    let (tokens, errors) := scanFrom next piece.2.2
    match piece.1 with
    | .blank | .comment => (tokens, errors)
    | .token kind text => (⟨kind, text, position⟩ :: tokens, errors)
    | .string value closed =>
      (⟨.string, value, position⟩ :: tokens,
        if closed then errors else ⟨"Unterminated string", position⟩ :: errors)
    | .stray ch =>
      (tokens, ⟨"Unexpected character: '" ++ String.singleton ch ++ "'", position⟩ :: errors)
termination_by input.length
decreasing_by
  have := Lexeme.read_rest_length c more
  simp only [List.length_cons]
  omega

/-- Tokens and scan errors of a text; scanning goes on past every error. -/
def scan (source : String) : List Token × List ScanError :=
  scanFrom {} source.toList

/--
Tokens of a text read from `position` on by a scanner that stops at its first
error: a stray character or a string left open ends the scan with that error,
and the tokens read before it are dropped.
-/
def scanStrictFrom (position : Position) (input : List Char) : Except ScanError (List Token) :=
  match input with
  | [] => .ok [⟨.endOfInput, "", position⟩]
  | c :: more =>
    let piece := Lexeme.read c more
    let next := (position.step c).walk piece.2.1
    match piece.1 with
    | .blank | .comment => scanStrictFrom next piece.2.2
    | .token kind text => (⟨kind, text, position⟩ :: ·) <$> scanStrictFrom next piece.2.2
    | .string value closed =>
      if closed then (⟨.string, value, position⟩ :: ·) <$> scanStrictFrom next piece.2.2
      else .error ⟨"Unterminated string", position⟩
    | .stray ch => .error ⟨"Unexpected character: '" ++ String.singleton ch ++ "'", position⟩
termination_by input.length
decreasing_by
  all_goals
    have := Lexeme.read_rest_length c more
    simp only [List.length_cons]
    omega

/-- Tokens of a text, or the first scan error. -/
def scanStrict (source : String) : Except ScanError (List Token) :=
  scanStrictFrom {} source.toList

end Token

end GameScript

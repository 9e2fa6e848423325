import GameScript.Number.Text

/-!
# Tokens of the script language

A token is a kind, the text it stands for and the position of its first
character. Positions count lines and columns in characters, both from one; a
line feed starts a new line and every other character, carriage return
included, takes one column.

Scanning never stops at a bad character: it records a `ScanError` and goes on.
-/

namespace GameScript

/-- The kinds of tokens. -/
inductive TokenKind where
  | number | identifier | string
  | keywordComponent | keywordFn | keywordIf | keywordTrue | keywordFalse
  | plus | minus | star | slash
  | less | lessEqual | greater | greaterEqual | equalEqual | notEqual
  | bang | assign | plusAssign | minusAssign | starAssign | slashAssign
  | leftBrace | rightBrace | leftParen | rightParen | semicolon | comma
  | endOfInput
  deriving Repr, DecidableEq, Inhabited

/-- A line and column, both counted from one. -/
structure Position where
  line : Nat := 1
  column : Nat := 1
  deriving Repr, DecidableEq, Inhabited

namespace Position

/-- The position after one more character: a line feed starts the next line. -/
def step (p : Position) (c : Char) : Position :=
  if c == '\n' then ⟨p.line + 1, 1⟩ else ⟨p.line, p.column + 1⟩

/-- The position after a run of characters. -/
def walk (p : Position) (cs : List Char) : Position :=
  cs.foldl step p

@[simp] theorem walk_nil (p : Position) : p.walk [] = p := rfl

@[simp] theorem walk_cons (p : Position) (c : Char) (cs : List Char) :
    p.walk (c :: cs) = (p.step c).walk cs := rfl

theorem walk_append (p : Position) (as bs : List Char) :
    p.walk (as ++ bs) = (p.walk as).walk bs := by
  simp [walk, List.foldl_append]

end Position

/-- A token: its kind, its text (for a string, the text after escapes) and where it starts. -/
structure Token where
  kind : TokenKind
  text : String
  position : Position
  deriving Repr, DecidableEq, Inhabited

/-- A character the scanner could not use, or a string left open. -/
structure ScanError where
  message : String
  position : Position
  deriving Repr, DecidableEq, Inhabited

/-- `:line:column: message`, the form a scan error takes in the log (no file name). -/
def ScanError.logText (e : ScanError) : String :=
  ":" ++ digitText e.position.line ++ ":" ++ digitText e.position.column ++ ": " ++ e.message

namespace TokenKind

/-- The name under which a kind is reported. -/
def tag : TokenKind → String
  | .number => "NUMBER" | .identifier => "IDENTIFIER" | .string => "STRING"
  | .keywordComponent => "COMPONENT" | .keywordFn => "FN" | .keywordIf => "IF"
  | .keywordTrue => "TRUE" | .keywordFalse => "FALSE"
  | .plus => "PLUS" | .minus => "MINUS" | .star => "STAR" | .slash => "SLASH"
  | .less => "LESS" | .lessEqual => "LESS_EQUAL" | .greater => "GREATER"
  | .greaterEqual => "GREATER_EQUAL" | .equalEqual => "EQUAL_EQUAL" | .notEqual => "NOT_EQUAL"
  | .bang => "BANG" | .assign => "ASSIGN" | .plusAssign => "PLUS_ASSIGN"
  | .minusAssign => "MINUS_ASSIGN" | .starAssign => "STAR_ASSIGN" | .slashAssign => "SLASH_ASSIGN"
  | .leftBrace => "LBRACE" | .rightBrace => "RBRACE" | .leftParen => "LPAREN"
  | .rightParen => "RPAREN" | .semicolon => "SEMICOLON" | .comma => "COMMA"
  | .endOfInput => "EOF"

/-- The keyword a word stands for, if any. -/
def keyword? (word : String) : Option TokenKind :=
  if word == "component" then some .keywordComponent
  else if word == "fn" then some .keywordFn
  else if word == "if" then some .keywordIf
  else if word == "true" then some .keywordTrue
  else if word == "false" then some .keywordFalse
  else none

/-- The two-character operators, tried before any one-character operator. -/
def pairs : List (Char × Char × TokenKind) :=
  [('+', '=', .plusAssign), ('-', '=', .minusAssign), ('*', '=', .starAssign),
   ('/', '=', .slashAssign), ('<', '=', .lessEqual), ('>', '=', .greaterEqual),
   ('=', '=', .equalEqual), ('!', '=', .notEqual)]

/-- The one-character operators and punctuation. -/
def singles : List (Char × TokenKind) :=
  [('+', .plus), ('-', .minus), ('*', .star), ('/', .slash), ('<', .less), ('>', .greater),
   ('!', .bang), ('=', .assign), ('{', .leftBrace), ('}', .rightBrace), ('(', .leftParen),
   (')', .rightParen), (';', .semicolon), (',', .comma)]

end TokenKind

end GameScript

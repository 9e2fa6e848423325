import GameScript.Syntax
import GameScript.Number.Reading
import GameScript.Token.Scan
import GameScript.Text.Quoted

/-!
# Reading tokens into syntax

A recursive-descent reader over a token stream that ends with the
end-of-input token. It commits to the first rule its next token (or the one
after) selects:

* at the top level, `component` starts a declaration and any other token is
  skipped;
* in a component, `fn` starts a method and anything else a field;
* in a block, `if` starts a branch, a name followed by an assignment operator
  an assignment, a name followed by `(` a call, and any other token becomes an
  unknown statement of that one token;
* expressions have four levels, loosest first: comparisons, `+ -`, `* /`,
  prefix `- + !`, all binary ones left-associative.

The reader keeps to a host stack of `hostFrames` frames: every rule it enters
takes one frame (so a pair of parentheses takes six, one per level), and the
sequences inside a rule take none. Nesting past the stack fails with
`SyntaxError.tooDeep`. Every rule is entered with fewer frames than its caller
had, and every repeated step of a sequence reads a token, which is why reading
ends.
-/

namespace GameScript

/-- Why reading failed. -/
inductive SyntaxError where
  /-- The next token does not fit: the message, what was expected there, the token found. -/
  | unexpected (message : String) (expected : String) (token : Token)
  /-- Nesting went past the host stack; `token` is where reading stood. -/
  | tooDeep (token : Token)
  deriving Repr, Inhabited

namespace SyntaxError

/-- The text of the failure. -/
def message : SyntaxError → String
  | .unexpected message _ _ => message
  | .tooDeep _ => "Expression nested too deeply"

/-- What was expected, when the failure names it. -/
def expected? : SyntaxError → Option String
  | .unexpected _ expected _ => some expected
  | .tooDeep _ => none

/-- The token reading stopped at. -/
def token : SyntaxError → Token
  | .unexpected _ _ token => token
  | .tooDeep token => token

/-- `Parse error at line L, column C: message`. -/
def logText (e : SyntaxError) : String :=
  "Parse error at line " ++ digitText e.token.position.line ++ ", column " ++
    digitText e.token.position.column ++ ": " ++ e.message

end SyntaxError

namespace Parse

/-- Frames of host stack the reader may use. -/
def hostFrames : Nat := 960

/-- The end-of-input token at a position. -/
def endToken (position : Position) : Token := ⟨.endOfInput, "", position⟩

/--
A token list as a stream: cut after its first end-of-input token, or closed
with one at the last token's position (the first line and column if empty).
-/
def stream (tokens : List Token) : List Token :=
  match tokens.findIdx? (·.kind == .endOfInput) with
  | some i => tokens.take (i + 1)
  | none =>
    match tokens.getLast? with
    | some last => tokens ++ [endToken last.position]
    | none => [endToken {}]

/-- The next token. -/
def peek (ts : List Token) : Token :=
  ts.headD (endToken {})

/-- Whether the stream is at its end. -/
def atEnd (ts : List Token) : Bool :=
  (peek ts).kind == .endOfInput

/-- Whether the next token, before the end, is of this kind. -/
def check (kind : TokenKind) (ts : List Token) : Bool :=
  !atEnd ts && (peek ts).kind == kind

/-- The stream after the next token; the end of input is never passed. -/
def advance (ts : List Token) : List Token :=
  if atEnd ts then ts else ts.tail

/-- The token after the next one, or the last token when there is none. -/
def peekNext (ts : List Token) : Token :=
  match ts with
  | _ :: next :: _ => next
  | _ => peek ts

theorem advance_length_le (ts : List Token) : (advance ts).length ≤ ts.length := by
  unfold advance
  split
  · exact Nat.le_refl _
  · simp

/-- Take a token of this kind, or fail with `Expected <what>`. -/
def expect (kind : TokenKind) (what : String) (ts : List Token) :
    Except SyntaxError (Token × List Token) :=
  if check kind ts then .ok (peek ts, advance ts)
  else .error (.unexpected ("Expected " ++ what) what (peek ts))

/-- Take a name, or fail with `message`. -/
def name (message : String) (ts : List Token) : Except SyntaxError (Token × List Token) :=
  if check .identifier ts then .ok (peek ts, advance ts)
  else .error (.unexpected message "identifier" (peek ts))

/-- The comparison operator a token is, if any. -/
def comparisonOp? : TokenKind → Option BinOp
  | .less => some .less | .greater => some .greater | .lessEqual => some .lessEq
  | .greaterEqual => some .greaterEq | .equalEqual => some .equal | .notEqual => some .notEqual
  | _ => none

/-- The additive operator a token is, if any. -/
def additiveOp? : TokenKind → Option BinOp
  | .plus => some .add | .minus => some .sub
  | _ => none

/-- The multiplicative operator a token is, if any. -/
def multiplicativeOp? : TokenKind → Option BinOp
  | .star => some .mul | .slash => some .div
  | _ => none

/-- The prefix operator a token is, if any. -/
def prefixOp? : TokenKind → Option UnaryOp
  | .minus => some .neg | .plus => some .pos | .bang => some .not
  | _ => none

/-- The assignment operator a token is, if any. -/
def assignOp? : TokenKind → Option AssignOp
  | .assign => some .set | .plusAssign => some (.compound .add)
  | .minusAssign => some (.compound .sub) | .starAssign => some (.compound .mul)
  | .slashAssign => some (.compound .div)
  | _ => none

/-- The literal a token is, if any: a number whose text reads as a double, a string, `true`, `false`. -/
def literal? (t : Token) : Option Literal :=
  match t.kind with
  | .number => (Reading.readFloat? t.text).map .number
  | .string => some (.text t.text)
  | .keywordTrue => some (.boolean true)
  | .keywordFalse => some (.boolean false)
  | _ => none

mutual

/-- An expression (a frame). -/
def expression : Nat → List Token → Except SyntaxError (Expr × List Token)
  | 0, ts => .error (.tooDeep (peek ts))
  | b + 1, ts => comparison b ts
termination_by b ts => (b, 0, ts.length)

/-- Comparisons (a frame). -/
def comparison : Nat → List Token → Except SyntaxError (Expr × List Token)
  | 0, ts => .error (.tooDeep (peek ts))
  | b + 1, ts => do
    let (left, rest) ← addition b ts
    comparisonTail b left rest
termination_by b ts => (b, 0, ts.length)

/-- Further comparisons, each applied to what was read so far. -/
def comparisonTail (b : Nat) (left : Expr) (ts : List Token) : Except SyntaxError (Expr × List Token) :=
  match (if atEnd ts then none else comparisonOp? (peek ts).kind) with
  | none => .ok (left, ts)
  | some op => do
    let (right, rest) ← addition b (advance ts)
    let node := Expr.binary op left right (peek ts).position
    if _ : rest.length < ts.length then comparisonTail b node rest else .ok (node, rest)
termination_by (b, 1, ts.length)

/-- Sums and differences (a frame). -/
def addition : Nat → List Token → Except SyntaxError (Expr × List Token)
  | 0, ts => .error (.tooDeep (peek ts))
  | b + 1, ts => do
    let (left, rest) ← multiplication b ts
    additionTail b left rest
termination_by b ts => (b, 0, ts.length)

/-- Further sums and differences. -/
def additionTail (b : Nat) (left : Expr) (ts : List Token) : Except SyntaxError (Expr × List Token) :=
  match (if atEnd ts then none else additiveOp? (peek ts).kind) with
  | none => .ok (left, ts)
  | some op => do
    let (right, rest) ← multiplication b (advance ts)
    let node := Expr.binary op left right (peek ts).position
    if _ : rest.length < ts.length then additionTail b node rest else .ok (node, rest)
termination_by (b, 1, ts.length)

/-- Products and quotients (a frame). -/
def multiplication : Nat → List Token → Except SyntaxError (Expr × List Token)
  | 0, ts => .error (.tooDeep (peek ts))
  | b + 1, ts => do
    let (left, rest) ← unary b ts
    multiplicationTail b left rest
termination_by b ts => (b, 0, ts.length)

/-- Further products and quotients. -/
def multiplicationTail (b : Nat) (left : Expr) (ts : List Token) : Except SyntaxError (Expr × List Token) :=
  match (if atEnd ts then none else multiplicativeOp? (peek ts).kind) with
  | none => .ok (left, ts)
  | some op => do
    let (right, rest) ← unary b (advance ts)
    let node := Expr.binary op left right (peek ts).position
    if _ : rest.length < ts.length then multiplicationTail b node rest else .ok (node, rest)
termination_by (b, 1, ts.length)

/-- A prefix operation or a primary expression (a frame). -/
def unary : Nat → List Token → Except SyntaxError (Expr × List Token)
  | 0, ts => .error (.tooDeep (peek ts))
  | b + 1, ts =>
    match (if atEnd ts then none else prefixOp? (peek ts).kind) with
    | some op => do
      let (operand, rest) ← unary b (advance ts)
      return (.unary op operand (peek ts).position, rest)
    | none => primary b ts
termination_by b ts => (b, 0, ts.length)

/-- A literal, a name, a call or a parenthesized expression (a frame); a number token whose text reads as no double is refused. -/
def primary : Nat → List Token → Except SyntaxError (Expr × List Token)
  | 0, ts => .error (.tooDeep (peek ts))
  | b + 1, ts =>
    let t := peek ts
    match (if atEnd ts then none else literal? t) with
    | some lit => .ok (.literal lit t.position, advance ts)
    | none =>
      if check .identifier ts then
        let after := advance ts
        if check .leftParen after then do
          let (args, rest) ← arguments b after
          return (.call t.text args t.position, rest)
        else .ok (.identifier t.text t.position, after)
      else if check .leftParen ts then do
        let (inner, rest) ← expression b (advance ts)
        let (_, rest) ← expect .rightParen ")" rest
        return (inner, rest)
      else if t.kind = .number then .error (.unexpected ("Invalid number " ++ Text.quote t.text) "number" t)
      else .error (.unexpected "Unexpected token in expression" "expression" t)
termination_by b ts => (b, 0, ts.length)

/-- A parenthesized argument list (a frame). -/
def arguments : Nat → List Token → Except SyntaxError ((List Expr) × List Token)
  | 0, ts => .error (.tooDeep (peek ts))
  | b + 1, ts => do
    let (_, rest) ← expect .leftParen "(" ts
    if check .rightParen rest then
      let (_, rest) ← expect .rightParen ")" rest
      return ([], rest)
    else
      let (first, rest) ← expression b rest
      let (args, rest) ← argumentsTail b [first] rest
      let (_, rest) ← expect .rightParen ")" rest
      return (args, rest)
termination_by b ts => (b, 0, ts.length)

/-- Further arguments after commas. -/
def argumentsTail (b : Nat) (args : List Expr) (ts : List Token) : Except SyntaxError ((List Expr) × List Token) :=
  if check .comma ts then do
    let (next, rest) ← expression b (advance ts)
    if _ : rest.length < ts.length then argumentsTail b (args ++ [next]) rest
    else .ok (args ++ [next], rest)
  else .ok (args, ts)
termination_by (b, 1, ts.length)

/-- A block `{ statement* }` (a frame). -/
def block : Nat → List Token → Except SyntaxError ((List Stmt) × List Token)
  | 0, ts => .error (.tooDeep (peek ts))
  | b + 1, ts => do
    let (_, rest) ← expect .leftBrace "\x7b" ts
    let (body, rest) ← statements b [] rest
    let (_, rest) ← expect .rightBrace "\x7d" rest
    return (body, rest)
termination_by b ts => (b, 0, ts.length)

/-- Statements up to a closing brace or the end. -/
def statements (b : Nat) (body : List Stmt) (ts : List Token) : Except SyntaxError ((List Stmt) × List Token) :=
  if check .rightBrace ts || atEnd ts then .ok (body, ts)
  else do
    let (stmt, rest) ← statement b ts
    if _ : rest.length < ts.length then statements b (body ++ [stmt]) rest
    else .ok (body ++ [stmt], rest)
termination_by (b, 1, ts.length)

/-- One statement (a frame). -/
def statement : Nat → List Token → Except SyntaxError (Stmt × List Token)
  | 0, ts => .error (.tooDeep (peek ts))
  | b + 1, ts =>
    if check .keywordIf ts then ifStatement b ts
    else if check .identifier ts && (assignOp? (peekNext ts).kind).isSome then
      assignment b ts
    else if check .identifier ts && (peekNext ts).kind == .leftParen then
      callStatement b ts
    else
      let t := peek ts
      .ok (.unknown t.text t.position.line, advance ts)
termination_by b ts => (b, 0, ts.length)

/-- `if condition { ... }` (a frame). -/
def ifStatement : Nat → List Token → Except SyntaxError (Stmt × List Token)
  | 0, ts => .error (.tooDeep (peek ts))
  | b + 1, ts => do
    let (ifToken, rest) ← expect .keywordIf "if" ts
    let (condition, rest) ← expression b rest
    let (body, rest) ← block b rest
    return (.ifThen condition body ifToken.position.line, rest)
termination_by b ts => (b, 0, ts.length)

/-- `name op expression ;` (a frame). -/
def assignment : Nat → List Token → Except SyntaxError (Stmt × List Token)
  | 0, ts => .error (.tooDeep (peek ts))
  | b + 1, ts => do
    let target := peek ts
    let op := (assignOp? (peekNext ts).kind).getD .set
    let (value, rest) ← expression b (advance (advance ts))
    let (_, rest) ← expect .semicolon ";" rest
    return (.assign target.text op value target.position.line, rest)

/-- `name(arguments) ;` (a frame). -/
def callStatement : Nat → List Token → Except SyntaxError (Stmt × List Token)
  | 0, ts => .error (.tooDeep (peek ts))
  | b + 1, ts => do
    let function := peek ts
    let (args, rest) ← arguments b (advance ts)
    let (_, rest) ← expect .semicolon ";" rest
    return (.call function.text args function.position.line, rest)

end

/-- Parameters `type name` separated by commas. -/
def parameters (params : List Param) (ts : List Token) : Except SyntaxError ((List Param) × List Token) := do
  let (dataType, rest) ← name "Expected parameter type" ts
  let (paramName, rest) ← name "Expected parameter name" rest
  let params := params ++ [⟨dataType.text, paramName.text⟩]
  if check .comma rest then
    if _ : (advance rest).length < ts.length then parameters params (advance rest)
    else .ok (params, rest)
  else .ok (params, rest)
termination_by ts.length

/-- A field `type name (= expression)? ;` (a frame). -/
def field : Nat → List Token → Except SyntaxError (FieldDecl × List Token)
  | 0, ts => .error (.tooDeep (peek ts))
  | b + 1, ts => do
    let (dataType, rest) ← name "Expected field type" ts
    let (fieldName, rest) ← name "Expected field name" rest
    let (init, rest) ←
      if check .assign rest then do
        let (value, rest) ← expression b (advance rest)
        pure (some value, rest)
      else pure (none, rest)
    let (_, rest) ← expect .semicolon ";" rest
    return (⟨dataType.text, fieldName.text, init, dataType.position.line⟩, rest)

/-- A method `fn name(parameters) { ... }` (a frame). -/
def method : Nat → List Token → Except SyntaxError (MethodDecl × List Token)
  | 0, ts => .error (.tooDeep (peek ts))
  | b + 1, ts => do
    let (fnToken, rest) ← expect .keywordFn "fn" ts
    let (methodName, rest) ← name "Expected method name" rest
    let (_, rest) ← expect .leftParen "(" rest
    let (params, rest) ← if check .rightParen rest then pure ([], rest) else parameters [] rest
    let (_, rest) ← expect .rightParen ")" rest
    let (body, rest) ← block b rest
    return (⟨methodName.text, params, body, fnToken.position.line⟩, rest)

/-- Fields and methods up to a closing brace or the end. -/
def members (b : Nat) (fields : List FieldDecl) (methods : List MethodDecl) (ts : List Token) :
    Except SyntaxError ((List FieldDecl × List MethodDecl) × List Token) :=
  if check .rightBrace ts || atEnd ts then .ok ((fields, methods), ts)
  else if check .keywordFn ts then
    match method b ts with
    | .error e => .error e
    | .ok (m, rest) =>
      if _ : rest.length < ts.length then members b fields (methods ++ [m]) rest
      else .ok ((fields, methods ++ [m]), rest)
  else
    match field b ts with
    | .error e => .error e
    | .ok (f, rest) =>
      if _ : rest.length < ts.length then members b (fields ++ [f]) methods rest
      else .ok ((fields ++ [f], methods), rest)
termination_by ts.length

/-- A component after its keyword `start` (a frame). -/
def component : Nat → Token → List Token → Except SyntaxError (Declaration × List Token)
  | 0, _, ts => .error (.tooDeep (peek ts))
  | b + 1, start, ts => do
    let (componentName, rest) ← name "Expected component name" ts
    let (_, rest) ← expect .leftBrace "\x7b" rest
    let ((fields, methods), rest) ← members b [] [] rest
    let (_, rest) ← expect .rightBrace "\x7d" rest
    return (⟨componentName.text, fields, methods, start.position.line⟩, rest)

/-- Declarations up to the end; other tokens at the top level are skipped. -/
def declarations (b : Nat) (found : List Declaration) (ts : List Token) :
    Except SyntaxError (List Declaration) :=
  if atEnd ts then .ok found
  else if check .keywordComponent ts then
    match component b (peek ts) (advance ts) with
    | .error e => .error e
    | .ok (d, rest) =>
      if _ : rest.length < ts.length then declarations b (found ++ [d]) rest
      else .ok (found ++ [d])
  else
    if _ : (advance ts).length < ts.length then declarations b found (advance ts)
    else .ok found
termination_by ts.length
decreasing_by all_goals omega

end Parse

/-- The declarations of a token list. -/
def Declaration.ofTokens (tokens : List Token) : Except SyntaxError (List Declaration) :=
  Parse.declarations (Parse.hostFrames - 2) [] (Parse.stream tokens)

/-- Why reading source text failed: a scan error, which only a strict scanner reports, or a syntax error. -/
inductive ReadError where
  | scan (e : ScanError)
  | parse (e : SyntaxError)
  deriving Repr, Inhabited

/--
The declarations of source text. A strict reader stops at the first scan error
before it reads a single token; a lenient one scans past every error and reads
the tokens it found.
-/
def Declaration.ofSource (strict : Bool) (source : String) : Except ReadError (List Declaration) :=
  let tokens : Except ScanError (List Token) :=
    if strict then Token.scanStrict source else .ok (Token.scan source).1
  match tokens with
  | .error e => .error (.scan e)
  | .ok tokens => (Declaration.ofTokens tokens).mapError .parse

/-- One expression at the head of a token list, and the tokens it used. -/
def Expr.ofTokens (tokens : List Token) : Except SyntaxError (Expr × Nat) :=
  let ts := Parse.stream tokens
  match Parse.expression Parse.hostFrames ts with
  | .ok (e, rest) => .ok (e, ts.length - rest.length)
  | .error err => .error err

end GameScript

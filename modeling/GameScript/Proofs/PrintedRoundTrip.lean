import GameScript.Proofs.PrintedDepth
import GameScript.Proofs.ReadNames

/-!
# Printed phrases read back

The printed form of an expression is read back as the same expression,
positions apart, using every token of it, exactly when its nesting fits the
reader's host stack: `Expr.frames` at most `Parse.hostFrames`.  With more the
reader fails with `SyntaxError.tooDeep` (`Expr.ofTokens_render`).  Printing
is therefore not undone on every parsed expression: a long flat sum such as
`a + a + ... + a` is read with a few frames, but prints fully parenthesised,
one level per operation.

Likewise the printed form of an assignment or a call, placed in the one
method `m` of a component `C`, is read back as that method's one statement
when the statement fits the frames left inside the method
(`Stmt.inMethod_reads_back`).

A parsed expression or statement needs no further condition on its names:
the reader takes names only from identifier tokens, which the scanner makes
only of names (`GameScript.Proofs.ReadNames`).  Its literals must print as
tokens that read back: strings with no double quote, backslash or line feed,
and numbers whose shortest text is a plain decimal numeral that reads back as
the same double.
-/

namespace GameScript

/-! ## Positions apart, for statements -/

mutual

/-- The statement with every line number and expression position reset. -/
def Stmt.strip : Stmt → Stmt
  | .assign target op value _ => .assign target op value.strip 0
  | .ifThen condition body _ => .ifThen condition.strip (Stmt.stripList body) 0
  | .call function args _ => .call function (Expr.stripList args) 0
  | .unknown token _ => .unknown token 0

/-- Each statement of a list with its positions reset. -/
def Stmt.stripList : List Stmt → List Stmt
  | [] => []
  | st :: rest => st.strip :: Stmt.stripList rest

end

mutual

theorem Expr.frames_strip : ∀ e : Expr, e.strip.frames = e.frames
  | .literal .. | .identifier .. => rfl
  | .unary _ operand _ => by simp [Expr.strip, Expr.frames, Expr.frames_strip operand]
  | .binary _ left right _ => by
    simp [Expr.strip, Expr.frames, Expr.frames_strip left, Expr.frames_strip right]
  | .call _ args _ => by simp only [Expr.strip, Expr.frames, Expr.framesList_stripList args]

theorem Expr.framesList_stripList : ∀ es : List Expr, Expr.framesList (Expr.stripList es) = Expr.framesList es
  | [] => rfl
  | e :: rest => by
    simp only [Expr.stripList, Expr.framesList, Expr.frames_strip e, Expr.framesList_stripList rest]

end

mutual

theorem Expr.literals_strip : ∀ e : Expr, e.strip.literals = e.literals
  | .literal .. | .identifier .. => rfl
  | .unary _ operand _ => by simp [Expr.strip, Expr.literals, Expr.literals_strip operand]
  | .binary _ left right _ => by
    simp [Expr.strip, Expr.literals, Expr.literals_strip left, Expr.literals_strip right]
  | .call _ args _ => by simp only [Expr.strip, Expr.literals, Expr.literalsList_stripList args]

theorem Expr.literalsList_stripList :
    ∀ es : List Expr, Expr.literalsList (Expr.stripList es) = Expr.literalsList es
  | [] => rfl
  | e :: rest => by
    simp only [Expr.stripList, Expr.literalsList, Expr.literals_strip e,
      Expr.literalsList_stripList rest]

end

/-- Whether a statement is an assignment or a call, the statements printed as themselves. -/
def Stmt.printsItself : Stmt → Bool
  | .assign .. | .call .. => true
  | .ifThen .. | .unknown .. => false

/-- The literals an assignment or a call prints; the other statements print as summaries and show none. -/
def Stmt.printedLiterals : Stmt → List Literal
  | .assign _ _ value _ => value.literals
  | .call _ args _ => Expr.literalsList args
  | .ifThen .. | .unknown .. => []

/--
The frames of host stack that reading a printed assignment or call takes from
the statement rule down: the statement and assignment rules above the value,
or the statement, call and argument rules above the deepest argument.
-/
def Stmt.frames : Stmt → Nat
  | .assign _ _ value _ => value.frames + 2
  | .call _ args _ => Expr.framesList args + 3
  | .ifThen .. | .unknown .. => 0

theorem Stmt.frames_strip (st : Stmt) : st.strip.frames = st.frames := by
  cases st <;> simp only [Stmt.strip, Stmt.frames, Expr.frames_strip, Expr.framesList_stripList]

theorem Stmt.printedLiterals_strip (st : Stmt) : st.strip.printedLiterals = st.printedLiterals := by
  cases st <;>
    simp only [Stmt.strip, Stmt.printedLiterals, Expr.literals_strip, Expr.literalsList_stripList]

theorem Stmt.printsItself_strip (st : Stmt) : st.strip.printsItself = st.printsItself := by
  cases st <;> rfl

/--
A statement read from scanned tokens prints as itself and scans back when it
is an assignment or a call whose literals print as tokens that read back.
-/
theorem Stmt.Scanned.printable {st : Stmt} (scanned : st.Scanned) (itself : st.printsItself = true)
    (literals : ∀ l ∈ st.printedLiterals, l.Reprints) : st.Printable := by
  obtain ⟨names, ops⟩ := scanned
  cases st with
  | assign target op value _ =>
    simp only [Stmt.names, AllNames.cons] at names
    exact ⟨names.1, ops op (by simp [Stmt.assignOps]), names.2, literals⟩
  | call function args _ =>
    simp only [Stmt.names, AllNames.cons, Expr.allNames_namesList] at names
    refine ⟨names.1, fun e member => ⟨names.2 e member, fun l used => literals l ?_⟩⟩
    exact Expr.mem_literalsList.2 ⟨e, member, used⟩
  | ifThen | unknown => cases itself

/-- An assignment operator written as one token is the operator that token stands for. -/
theorem AssignOp.assignOp?_tokenKind {op : AssignOp} {k : TokenKind} (token : op.tokenKind? = some k) :
    Parse.assignOp? k = some op := by
  cases op with
  | set => cases token; rfl
  | compound op => cases op <;> cases token <;> rfl

/-! ## Scanned texts as streams -/

namespace Parse

open Grammar

/-- A scanned text already is a stream: its one end-of-input token comes last. -/
theorem stream_scan (s : String) : stream (Token.scan s).1 = (Token.scan s).1 := by
  obtain ⟨pieces, -, scanned, clean⟩ := Token.scan_cut s
  rw [scanned]
  dsimp only
  have found : ((Lexeme.layout [] pieces).1 ++
      [(⟨.endOfInput, "", Position.after s.toList⟩ : Token)]).findIdx?
        (·.kind == .endOfInput) = some (Lexeme.layout [] pieces).1.length := by
    rw [List.findIdx?_append, List.findIdx?_eq_none_iff.2 fun t member => by simpa using clean t member]
    simp
  unfold stream
  rw [found]
  simp

/-- A scanned text whose tokens are spelled `spelling` is those tokens and an end token. -/
theorem scan_spelled {s : String} {spelling : List (TokenKind × String)}
    (shapes : Token.shapes s.toList = spelling ++ [(.endOfInput, "")]) :
    ∃ ts eof, (Token.scan s).1 = ts ++ [eof] ∧ ts.map Token.shape = spelling ∧
      eof.kind = .endOfInput := by
  obtain ⟨ts, ends, split, spelled, endShape⟩ := List.map_eq_append_iff.1 shapes
  obtain ⟨eof, rfl, eofShape⟩ := List.map_eq_singleton_iff.1 endShape
  exact ⟨ts, eof, split, spelled, (Token.shape_eq.1 eofShape).1⟩

/-! ## Printed expressions -/

/--
The printed form of a printable expression is read back as the expression,
positions apart, using all its tokens but the end, when it fits the host
stack; with a deeper nesting the reader fails as nested too deeply.
-/
theorem ofTokens_render {e : Expr} (printable : e.Printable) :
    (e.frames ≤ hostFrames → ∃ e', e'.strip = e.strip ∧
      Expr.ofTokens (Token.scan e.render).1 = .ok (e', (Token.scan e.render).1.length - 1)) ∧
    (hostFrames < e.frames → ∃ t, Expr.ofTokens (Token.scan e.render).1 = .error (.tooDeep t)) := by
  have shapes : Token.shapes e.render.toList = e.spelling ++ [(.endOfInput, "")] := by
    simpa [show Token.shapes [] = [(.endOfInput, "")] by decide +kernel] using
      Token.shapes_render e printable Closes.nil
  obtain ⟨ts, eof, split, spelled, eofKind⟩ := scan_spelled shapes
  obtain ⟨e', stripped, read⟩ := expression_spelling printable spelled
  unfold Expr.ofTokens
  rw [stream_scan, split]
  dsimp only
  refine ⟨fun fits => ⟨e', stripped, ?_⟩, fun deep => ?_⟩
  · rw [read hostFrames eof [] fits (Or.inr (Or.inr (Or.inr eofKind)))]
    rfl
  · obtain ⟨t, failed⟩ := expression_spelling_needs printable spelled [eof] deep
    exact ⟨t, by rw [failed]⟩

/-! ## Printed statements inside a method -/

section Rules

variable {b : Nat} {after rest : List Token}

/-- An assignment reads its target, its operator and its value up to the `;`. -/
theorem assignment_read {target o semicolon : Token} {tv : List Token} {value : Expr}
    (semicolonKind : semicolon.kind = .semicolon) (targetKind : target.kind = .identifier)
    (opNotEnd : o.kind ≠ .endOfInput)
    (read : Parse.expression b (tv ++ semicolon :: rest) = .ok (value, semicolon :: rest)) :
    Parse.assignment (b + 1) (target :: o :: (tv ++ semicolon :: rest)) =
      .ok (.assign target.text ((assignOp? o.kind).getD .set) value target.position.line, rest) := by
  have targetNotEnd : target.kind ≠ .endOfInput := by simp [targetKind]
  rw [Parse.assignment]
  simp only [peek_cons, peekNext_cons_cons, advance_cons targetNotEnd, advance_cons opNotEnd, read,
    ok_bind, expect_cons semicolonKind (by simp)]
  rfl

/-- A call statement reads its function, its arguments and the `;` after them. -/
theorem callStatement_read {function semicolon : Token} {ts : List Token} {args : List Expr}
    (semicolonKind : semicolon.kind = .semicolon) (functionKind : function.kind = .identifier)
    (read : Parse.arguments b ts = .ok (args, semicolon :: rest)) :
    Parse.callStatement (b + 1) (function :: ts) =
      .ok (.call function.text args function.position.line, rest) := by
  have notEnd : function.kind ≠ .endOfInput := by simp [functionKind]
  rw [Parse.callStatement]
  simp only [peek_cons, advance_cons notEnd, read, ok_bind, expect_cons semicolonKind (by simp)]
  rfl

/-- A name followed by an assignment operator starts an assignment. -/
theorem statement_assignment {target o : Token} {ts : List Token} {x : Stmt}
    (targetKind : target.kind = .identifier) (assigns : (assignOp? o.kind).isSome)
    (read : Parse.assignment b (target :: o :: ts) = .ok (x, after)) :
    Parse.statement (b + 1) (target :: o :: ts) = .ok (x, after) := by
  have notEnd : target.kind ≠ .endOfInput := by simp [targetKind]
  rw [Parse.statement]
  simp only [check_cons notEnd, targetKind, peekNext_cons_cons, assigns]
  simpa using read

/-- A name followed by `(` starts a call. -/
theorem statement_call {function opening : Token} {ts : List Token} {x : Stmt}
    (functionKind : function.kind = .identifier) (openKind : opening.kind = .leftParen)
    (read : Parse.callStatement b (function :: opening :: ts) = .ok (x, after)) :
    Parse.statement (b + 1) (function :: opening :: ts) = .ok (x, after) := by
  have notEnd : function.kind ≠ .endOfInput := by simp [functionKind]
  have noAssignment : (assignOp? TokenKind.leftParen).isSome = false := rfl
  rw [Parse.statement]
  simp only [check_cons notEnd, functionKind, peekNext_cons_cons, openKind, noAssignment]
  simpa using read

/-- One statement before a `}` is a body of one statement. -/
theorem statements_single {t close : Token} {ts : List Token} {st : Stmt}
    (notEnd : t.kind ≠ .endOfInput) (notClose : t.kind ≠ .rightBrace)
    (closeKind : close.kind = .rightBrace)
    (read : Parse.statement b (t :: ts) = .ok (st, close :: after)) :
    Parse.statements b [] (t :: ts) = .ok ([st], close :: after) := by
  have closeNotEnd : close.kind ≠ .endOfInput := by simp [closeKind]
  have stops : Parse.statements b [st] (close :: after) = .ok ([st], close :: after) := by
    rw [Parse.statements]
    simp [check_cons closeNotEnd, closeKind]
  have open' : (t.kind == .rightBrace) = false := by simp [notClose]
  rw [Parse.statements]
  simp only [check_cons notEnd, open', atEnd_cons notEnd, Bool.or_self, Bool.false_eq_true,
    if_false, read, ok_bind, List.nil_append]
  split
  · exact stops
  · rfl

/-- A block reads the statements between its braces. -/
theorem block_read {opening close : Token} {ts : List Token} {body : List Stmt}
    (openKind : opening.kind = .leftBrace) (closeKind : close.kind = .rightBrace)
    (read : Parse.statements b [] ts = .ok (body, close :: after)) :
    Parse.block (b + 1) (opening :: ts) = .ok (body, after) := by
  rw [Parse.block]
  simp only [expect_cons openKind (by simp), ok_bind, read, expect_cons closeKind (by simp)]
  rfl

/-- A method without parameters reads its name and its block. -/
theorem method_read {fn name opening closing : Token} {ts : List Token} {body : List Stmt}
    (fnKind : fn.kind = .keywordFn) (nameKind : name.kind = .identifier)
    (openKind : opening.kind = .leftParen) (closeKind : closing.kind = .rightParen)
    (read : Parse.block b ts = .ok (body, after)) :
    Parse.method (b + 1) (fn :: name :: opening :: closing :: ts) =
      .ok (⟨name.text, [], body, fn.position.line⟩, after) := by
  have closeNotEnd : closing.kind ≠ .endOfInput := by simp [closeKind]
  rw [Parse.method]
  simp only [expect_cons fnKind (by simp), ok_bind, name_cons nameKind,
    expect_cons openKind (by simp), check_cons closeNotEnd, closeKind, beq_self_eq_true,
    if_true, pure_bind, expect_cons closeKind (by simp), read]
  rfl

/-- Members that are one method before a `}`. -/
theorem members_single {fn close : Token} {ts : List Token} {m : MethodDecl}
    (fnKind : fn.kind = .keywordFn) (closeKind : close.kind = .rightBrace)
    (read : Parse.method b (fn :: ts) = .ok (m, close :: after)) :
    Parse.members b [] [] (fn :: ts) = .ok (([], [m]), close :: after) := by
  have notEnd : fn.kind ≠ .endOfInput := by simp [fnKind]
  have closeNotEnd : close.kind ≠ .endOfInput := by simp [closeKind]
  have stops : Parse.members b [] [m] (close :: after) = .ok (([], [m]), close :: after) := by
    rw [Parse.members]
    simp [check_cons closeNotEnd, closeKind]
  have open' : (TokenKind.keywordFn == .rightBrace) = false := by decide
  rw [Parse.members]
  simp only [check_cons notEnd, fnKind, open', atEnd_cons notEnd, Bool.or_self, Bool.false_eq_true,
    if_false, beq_self_eq_true, if_true, read, List.nil_append]
  split
  · exact stops
  · rfl

/-- A component reads its name and the members between its braces. -/
theorem component_read {start name opening close : Token} {ts : List Token}
    {fields : List FieldDecl} {methods : List MethodDecl}
    (nameKind : name.kind = .identifier) (openKind : opening.kind = .leftBrace)
    (closeKind : close.kind = .rightBrace)
    (read : Parse.members b [] [] ts = .ok ((fields, methods), close :: after)) :
    Parse.component (b + 1) start (name :: opening :: ts) =
      .ok (⟨name.text, fields, methods, start.position.line⟩, after) := by
  rw [Parse.component]
  simp only [name_cons nameKind, ok_bind, expect_cons openKind (by simp), read,
    expect_cons closeKind (by simp)]
  rfl

/-- A text that is one component is one declaration. -/
theorem declarations_single {start t eof : Token} {ts : List Token} {d : Declaration}
    (startKind : start.kind = .keywordComponent) (eofKind : eof.kind = .endOfInput)
    (read : Parse.component b start (t :: ts) = .ok (d, [eof])) :
    Parse.declarations b [] (start :: t :: ts) = .ok [d] := by
  have notEnd : start.kind ≠ .endOfInput := by simp [startKind]
  have stops : Parse.declarations b [d] [eof] = .ok [d] := by
    rw [Parse.declarations]
    simp [atEnd_single eofKind]
  rw [Parse.declarations]
  simp only [atEnd_cons notEnd, check_cons notEnd, startKind, beq_self_eq_true, Bool.false_eq_true,
    if_false, if_true, peek_cons, advance_cons notEnd, read, List.nil_append]
  split
  · exact stops
  · rfl

end Rules

/--
The statement rule reads the spelling of a printable assignment or call back
as the statement, positions apart, before a `}`, once it has the frames the
statement takes.
-/
theorem statement_spelling {st : Stmt} (printable : st.Printable) {ts : List Token}
    (spelled : ts.map Token.shape = st.spelling) :
    ∃ st', st'.strip = st.strip ∧ ∀ b close after, st.frames ≤ b → close.kind = .rightBrace →
      Parse.statement b (ts ++ close :: after) = .ok (st', close :: after) := by
  cases st with
  | assign target op value _ =>
    obtain ⟨isName, readable, printable⟩ := printable
    obtain ⟨kind, token⟩ := Option.isSome_iff_exists.1 readable
    simp only [Stmt.spelling, token, Option.getD_some, List.cons_append] at spelled
    obtain ⟨t, ts, rfl, targetShape, spelled⟩ := List.map_eq_cons_iff.1 spelled
    obtain ⟨o, ts, rfl, opShape, spelled⟩ := List.map_eq_cons_iff.1 spelled
    obtain ⟨tv, ts, rfl, valueSpelled, spelled⟩ := List.map_eq_append_iff.1 spelled
    obtain ⟨semicolon, rfl, semicolonShape⟩ := List.map_eq_singleton_iff.1 spelled
    obtain ⟨targetKind, targetText⟩ := Token.shape_eq.1 targetShape
    have opKind := (Token.shape_eq.1 opShape).1
    have semicolonKind := (Token.shape_eq.1 semicolonShape).1
    obtain ⟨value', stripped, read⟩ := expression_spelling printable valueSpelled
    have operator : assignOp? o.kind = some op := opKind ▸ AssignOp.assignOp?_tokenKind token
    refine ⟨.assign target op value' t.position.line, by simp [Stmt.strip, stripped], ?_⟩
    intro b close after enough closeKind
    obtain ⟨c, rfl⟩ : ∃ c, b = c + 1 + 1 := ⟨b - 2, by simp only [Stmt.frames] at enough; omega⟩
    have opNotEnd : o.kind ≠ .endOfInput := by
      intro atEnd
      simp [atEnd, assignOp?] at operator
    have readValue := read c semicolon (close :: after) (by simp only [Stmt.frames] at enough; omega)
      (Or.inr (Or.inr (Or.inl semicolonKind)))
    simp only [List.cons_append, List.append_assoc, List.nil_append]
    rw [statement_assignment targetKind (by simp [operator])
      (assignment_read semicolonKind targetKind opNotEnd readValue), operator, targetText]
    rfl
  | call function args _ =>
    obtain ⟨isName, printable⟩ := printable
    simp only [Stmt.spelling, List.cons_append] at spelled
    obtain ⟨f, ts, rfl, functionShape, spelled⟩ := List.map_eq_cons_iff.1 spelled
    obtain ⟨opening, ts, rfl, openShape, spelled⟩ := List.map_eq_cons_iff.1 spelled
    obtain ⟨targs, ts, rfl, argsSpelled, spelled⟩ := List.map_eq_append_iff.1 spelled
    obtain ⟨closing, ts, rfl, closeShape, spelled⟩ := List.map_eq_cons_iff.1 spelled
    obtain ⟨semicolon, rfl, semicolonShape⟩ := List.map_eq_singleton_iff.1 spelled
    obtain ⟨functionKind, functionText⟩ := Token.shape_eq.1 functionShape
    have openKind := (Token.shape_eq.1 openShape).1
    have closingKind := (Token.shape_eq.1 closeShape).1
    have semicolonKind := (Token.shape_eq.1 semicolonShape).1
    obtain ⟨args', stripped, read⟩ := arguments_spelling args printable argsSpelled
    refine ⟨.call f.text args' f.position.line, ?_, ?_⟩
    · simp only [Stmt.strip, Expr.stripList_eq_map, stripped, functionText]
    intro b close after enough closeKind
    obtain ⟨c, rfl⟩ : ∃ c, b = c + 1 + 1 + 1 := ⟨b - 3, by simp only [Stmt.frames] at enough; omega⟩
    have readArgs := read c opening closing semicolon (close :: after)
      (by simp only [Stmt.frames] at enough; omega) openKind closingKind
    simp only [List.cons_append, List.append_assoc, List.nil_append]
    exact statement_call functionKind openKind (callStatement_read semicolonKind functionKind readArgs)
  | ifThen | unknown => exact printable.elim

end Parse

open Parse

/--
The one-method component around a printed assignment or call is read as one
declaration `C` with no fields and one method `m` without parameters, whose
body is the statement, positions apart, when the statement fits the frames
left inside the method. The statement starts with its target or function, a
name.
-/
theorem Stmt.inMethod_reads_back {st : Stmt} (printable : st.Printable)
    (fits : st.frames ≤ hostFrames - 5) :
    ∃ st' line line', st'.strip = st.strip ∧
      Declaration.ofTokens (Token.scan st.inMethod).1 =
        .ok [⟨"C", [], [⟨"m", [], [st'], line'⟩], line⟩] := by
  have shapes : (Token.scan st.inMethod).1.map Token.shape = _ := Token.shapes_inMethod printable
  simp only [List.cons_append, List.nil_append] at shapes
  obtain ⟨t1, tokens, split, shape1, shapes⟩ := List.map_eq_cons_iff.1 shapes
  obtain ⟨t2, tokens, rfl, shape2, shapes⟩ := List.map_eq_cons_iff.1 shapes
  obtain ⟨t3, tokens, rfl, shape3, shapes⟩ := List.map_eq_cons_iff.1 shapes
  obtain ⟨t4, tokens, rfl, shape4, shapes⟩ := List.map_eq_cons_iff.1 shapes
  obtain ⟨t5, tokens, rfl, shape5, shapes⟩ := List.map_eq_cons_iff.1 shapes
  obtain ⟨t6, tokens, rfl, shape6, shapes⟩ := List.map_eq_cons_iff.1 shapes
  obtain ⟨t7, tokens, rfl, shape7, shapes⟩ := List.map_eq_cons_iff.1 shapes
  obtain ⟨t8, tokens, rfl, shape8, shapes⟩ := List.map_eq_cons_iff.1 shapes
  obtain ⟨ts, tokens, rfl, spelled, shapes⟩ := List.map_eq_append_iff.1 shapes
  obtain ⟨close, tokens, rfl, closeShape, shapes⟩ := List.map_eq_cons_iff.1 shapes
  obtain ⟨close', tokens, rfl, closeShape', shapes⟩ := List.map_eq_cons_iff.1 shapes
  obtain ⟨eof, rfl, eofShape⟩ := List.map_eq_singleton_iff.1 shapes
  have kind1 := (Token.shape_eq.1 shape1).1
  obtain ⟨kind2, text2⟩ := Token.shape_eq.1 shape2
  have kind3 := (Token.shape_eq.1 shape3).1
  have kind4 := (Token.shape_eq.1 shape4).1
  obtain ⟨kind5, text5⟩ := Token.shape_eq.1 shape5
  have kind6 := (Token.shape_eq.1 shape6).1
  have kind7 := (Token.shape_eq.1 shape7).1
  have kind8 := (Token.shape_eq.1 shape8).1
  have closeKind := (Token.shape_eq.1 closeShape).1
  have closeKind' := (Token.shape_eq.1 closeShape').1
  have eofKind := (Token.shape_eq.1 eofShape).1
  obtain ⟨t, ts, rfl, headKind⟩ : ∃ t ts', ts = t :: ts' ∧ t.kind = .identifier := by
    cases st with
    | assign | call =>
      obtain ⟨t, ts', rfl, headShape, -⟩ := List.map_eq_cons_iff.1 spelled
      exact ⟨t, ts', rfl, (Token.shape_eq.1 headShape).1⟩
    | ifThen | unknown => exact printable.elim
  obtain ⟨st', stripped, read⟩ := statement_spelling printable spelled
  have statements := statements_single (by simp [headKind]) (by simp [headKind]) closeKind
    (read (hostFrames - 5) close (close' :: [eof]) fits closeKind)
  have method := method_read kind4 kind5 kind6 kind7 (block_read kind8 closeKind statements)
  have component : Parse.component _ t1 _ = _ :=
    component_read kind2 kind3 closeKind' (members_single kind4 closeKind' method)
  refine ⟨st', t1.position.line, t4.position.line, stripped, ?_⟩
  unfold Declaration.ofTokens
  rw [stream_scan, split, ← text2, ← text5]
  exact declarations_single kind1 eofKind component

/-! ## Parsed phrases printed and read again -/

/--
Printing a parsed expression and reading the printed text gives the expression
back, positions apart, using every token of the text, exactly when the printed
nesting fits the host stack; with a deeper nesting the reader fails as nested
too deeply. A parsed assignment or call, printed alone in the one method of a
component, is read back as that method's body when it fits the frames left
there. Literals must print as tokens that read back. The names of a parsed
expression are names, so it is printable.
-/
theorem printed_phrases_read_back :
    (∀ (s : String) (e : Expr) (n : Nat), Expr.ofTokens (Token.scan s).1 = .ok (e, n) →
      (∀ l ∈ e.literals, l.Reprints) →
      ((∃ e', e'.strip = e.strip ∧
          Expr.ofTokens (Token.scan e.render).1 = .ok (e', (Token.scan e.render).1.length - 1)) ↔
        e.frames ≤ hostFrames) ∧
      (hostFrames < e.frames → ∃ t, Expr.ofTokens (Token.scan e.render).1 = .error (.tooDeep t))) ∧
    ∀ (s : String) (ds : List Declaration), Declaration.ofTokens (Token.scan s).1 = .ok ds →
      ∀ d ∈ ds, ∀ m ∈ d.methods, ∀ st ∈ m.body, st.printsItself = true →
        (∀ l ∈ st.printedLiterals, l.Reprints) → st.frames ≤ hostFrames - 5 →
        ∃ st' line line', st'.strip = st.strip ∧
          Declaration.ofTokens (Token.scan st.inMethod).1 =
            .ok [⟨"C", [], [⟨"m", [], [st'], line'⟩], line⟩] := by
  refine ⟨fun s e n parsed literals => ?_,
    fun s ds parsed d declared m method st inBody itself literals fits => ?_⟩
  · have printable : e.Printable := ⟨Expr.ofTokens_names (Token.scan_named s) parsed, literals⟩
    obtain ⟨fitting, deep⟩ := ofTokens_render printable
    refine ⟨⟨fun ⟨_, _, read⟩ => ?_, fitting⟩, deep⟩
    by_contra tooDeep
    obtain ⟨t, failed⟩ := deep (Nat.lt_of_not_le tooDeep)
    rw [failed] at read
    cases read
  · have scanned :=
      Declaration.ofTokens_bodiesScanned (Token.scan_named s) parsed d declared m method st inBody
    exact Stmt.inMethod_reads_back (scanned.printable itself literals) fits

/--
The call `f(a, "hi")`, printed, reads back as itself; and the call `log("hi");`
in the method of a component, read from there and printed alone in the
method again, reads back as that method's body.
-/
theorem printed_call_reads_back :
    let call : Expr := .call "f" [.identifier "a" {}, .literal (.text "hi") {}] {}
    let logged : Stmt := .call "log" [.literal (.text "hi") {}] 0
    (∃ e n, Expr.ofTokens (Token.scan call.render).1 = .ok (e, n) ∧ (∀ l ∈ e.literals, l.Reprints) ∧
      e.frames ≤ hostFrames ∧ ∃ e', e'.strip = e.strip ∧
        Expr.ofTokens (Token.scan e.render).1 = .ok (e', (Token.scan e.render).1.length - 1)) ∧
    ∃ ds, Declaration.ofTokens (Token.scan logged.inMethod).1 = .ok ds ∧
      ∃ d ∈ ds, ∃ m ∈ d.methods, ∃ st ∈ m.body, st.printsItself = true ∧
        (∀ l ∈ st.printedLiterals, l.Reprints) ∧ st.frames ≤ hostFrames - 5 ∧
        ∃ st' line line', st'.strip = st.strip ∧
          Declaration.ofTokens (Token.scan st.inMethod).1 =
            .ok [⟨"C", [], [⟨"m", [], [st'], line'⟩], line⟩] := by
  intro call logged
  have nameF : IsName "f" := ⟨'f', [], rfl, by decide +kernel, by simp, by decide⟩
  have nameA : IsName "a" := ⟨'a', [], rfl, by decide +kernel, by simp, by decide⟩
  have nameLog : IsName "log" := ⟨'l', ['o', 'g'], rfl, by decide +kernel,
    List.all_eq_true.1 (by decide +kernel), by decide⟩
  have text : (Literal.text "hi").Reprints := by simp only [Literal.Reprints]; decide
  have callPrintable : call.Printable :=
    ⟨by simp [call, Expr.names, Expr.namesList, nameF, nameA],
      by simp [call, Expr.literals, Expr.literalsList, text]⟩
  have loggedPrintable : logged.Printable := by
    refine ⟨nameLog, fun e member => ?_⟩
    obtain rfl : e = .literal (.text "hi") {} := List.mem_singleton.1 member
    exact ⟨by simp [Expr.names], by simp [Expr.literals, text]⟩
  constructor
  · obtain ⟨e, stripped, parsed⟩ := (ofTokens_render callPrintable).1 (by decide)
    have literals : ∀ l ∈ e.literals, l.Reprints := by
      rw [← Expr.literals_strip, stripped, Expr.literals_strip]
      simp [call, Expr.literals, Expr.literalsList, text]
    have fits : e.frames ≤ hostFrames := by
      rw [← Expr.frames_strip, stripped, Expr.frames_strip]
      decide
    exact ⟨e, _, parsed, literals, fits,
      (printed_phrases_read_back.1 _ e _ parsed literals).1.2 fits⟩
  · obtain ⟨st, line, line', stripped, parsed⟩ := Stmt.inMethod_reads_back loggedPrintable (by decide)
    have itself : st.printsItself = true := by rw [← Stmt.printsItself_strip, stripped]; rfl
    have literals : ∀ l ∈ st.printedLiterals, l.Reprints := by
      rw [← Stmt.printedLiterals_strip, stripped, Stmt.printedLiterals_strip]
      simp [logged, Stmt.printedLiterals, Expr.literals, Expr.literalsList, text]
    have fits : st.frames ≤ hostFrames - 5 := by
      rw [← Stmt.frames_strip, stripped, Stmt.frames_strip]
      decide
    refine ⟨_, parsed, _, List.mem_singleton_self _, _, List.mem_singleton_self _, st,
      List.mem_singleton_self _, itself, literals, fits, ?_⟩
    exact printed_phrases_read_back.2 _ _ parsed _ (List.mem_singleton_self _) _
      (List.mem_singleton_self _) st (List.mem_singleton_self _) itself literals fits

/-! ## A sum too long to read back -/

/-- The text `a + a + ... + a` of a sum of `k + 1` names `a`, with a space around each `+`. -/
def longSumText (k : Nat) : String :=
  String.ofList ('a' :: (List.replicate k [' ', '+', ' ', 'a']).flatten)

namespace Parse

open Grammar

theorem isName_a : IsName "a" :=
  ⟨'a', [], rfl, by decide +kernel, by simp, by decide⟩

/--
The text ` + a` repeated `k` times scans to `+` and `a` repeated `k` times,
then the end. After each `a` comes a space or nothing, which ends the name.
-/
theorem shapes_sumTail (k : Nat) :
    Token.shapes (List.replicate k [' ', '+', ' ', 'a']).flatten =
      (List.replicate k [(TokenKind.plus, "+"), (.identifier, "a")]).flatten ++ [(.endOfInput, "")] := by
  induction k with
  | zero => decide +kernel
  | succ k more =>
    have stops : ∀ x, ((List.replicate k [' ', '+', ' ', 'a']).flatten).head? = some x →
        Lexeme.continuesWord x = false := by
      intro x head
      cases k with
      | zero => cases head
      | succ k =>
        obtain rfl : x = ' ' := by simpa [List.replicate_succ] using head.symm
        decide +kernel
    simp only [List.replicate_succ, List.flatten_cons, List.cons_append, List.nil_append]
    generalize (List.replicate k [' ', '+', ' ', 'a']).flatten = rest at stops more
    calc Token.shapes (' ' :: '+' :: ' ' :: 'a' :: rest)
        = Token.shapes (BinOp.add.symbol.toList ++ ' ' :: ("a".toList ++ rest)) := by
          rw [Token.shapes_space]
          rfl
      _ = (TokenKind.plus, "+") :: (TokenKind.identifier, "a") :: Token.shapes rest := by
          rw [Token.shapes_binOp, Token.shapes_space, Token.shapes_name isName_a stops]
          rfl
      _ = _ := by rw [more]

/-- A name is read as an operand of a sum before a token that is no `(` and joins no product. -/
theorem sum_operand_name (b : Nat) {a w : Token} {rest : List Token} (nameKind : a.kind = .identifier)
    (notOpen : w.kind ≠ .leftParen) (stops : ¬ Level.product.Joins w.kind) :
    Level.operandReader .sum (b + 1 + 1 + 1) (a :: w :: rest) =
      .ok (.identifier a.text a.position, w :: rest) := by
  have notEnd : a.kind ≠ .endOfInput := by simp [nameKind]
  have noPrefix : prefixOp? a.kind = none := by rw [nameKind]; rfl
  refine operand_of_unary .sum (unary_of_primary notEnd noPrefix (primary_identifier nameKind notOpen))
    fun inner tighter => ?_
  cases inner with
  | comparison | sum => simp [Level.rank] at tighter
  | product => exact stops

/-- Tokens spelled as `+ a` repeated, then the end token, start with a `+` or the end. -/
theorem sumTail_head {k : Nat} {ts : List Token} {u : Token} (uKind : u.kind = .endOfInput)
    (spelled : ts.map Token.shape = (List.replicate k [(TokenKind.plus, "+"), (.identifier, "a")]).flatten) :
    ∃ w after, ts ++ [u] = w :: after ∧ w.kind ≠ .leftParen ∧ ¬ Level.product.Joins w.kind := by
  cases k with
  | zero =>
    obtain rfl : ts = [] := by simpa using spelled
    exact ⟨u, [], rfl, by simp [uKind], by simp [Level.Joins, uKind]⟩
  | succ k =>
    simp only [List.replicate_succ, List.flatten_cons, List.cons_append] at spelled
    obtain ⟨w, after, rfl, wShape, -⟩ := List.map_eq_cons_iff.1 spelled
    have wKind := (Token.shape_eq.1 wShape).1
    exact ⟨w, after ++ [u], rfl, by simp [wKind], by simp [Level.Joins, wKind]⟩

/--
The operations `+ a` repeated `k` times after a first operand are read as
additions of names, each nesting the sum one operation deeper, up to the end.
-/
theorem additionTail_sum (b : Nat) {u : Token} (uKind : u.kind = .endOfInput) (k : Nat) :
    ∀ (ts : List Token) (left : Expr),
      ts.map Token.shape = (List.replicate k [(TokenKind.plus, "+"), (.identifier, "a")]).flatten →
      ∃ e, Level.tail .sum (b + 1 + 1 + 1) left (ts ++ [u]) = .ok (e, [u]) ∧
        e.frames = left.frames + 6 * k ∧ e.literals = left.literals := by
  induction k with
  | zero =>
    intro ts left spelled
    obtain rfl : ts = [] := by simpa using spelled
    exact ⟨left, tail_stops .sum _ left (by simp [Level.Joins, uKind]), by simp, rfl⟩
  | succ k more =>
    intro ts left spelled
    simp only [List.replicate_succ, List.flatten_cons, List.cons_append, List.nil_append] at spelled
    obtain ⟨o, ts, rfl, opShape, spelled⟩ := List.map_eq_cons_iff.1 spelled
    obtain ⟨a, ts, rfl, nameShape, spelled⟩ := List.map_eq_cons_iff.1 spelled
    have opKind := (Token.shape_eq.1 opShape).1
    have nameKind := (Token.shape_eq.1 nameShape).1
    have oNotEnd : o.kind ≠ .endOfInput := by simp [opKind]
    obtain ⟨w, after, following, notOpen, stops⟩ := sumTail_head uKind spelled
    have readName : Level.operandReader .sum (b + 1 + 1 + 1) (a :: w :: after) = _ :=
      sum_operand_name b nameKind notOpen stops
    rw [← following] at readName
    obtain ⟨e, readRest, frames, literals⟩ :=
      more ts (.binary .add left (.identifier a.text a.position) o.position) spelled
    have shorter : (ts ++ [u]).length < (o :: a :: (ts ++ [u])).length := by simp
    refine ⟨e, ?_, ?_, ?_⟩
    · rw [List.cons_append, List.cons_append, Level.tail_eq]
      simp only [atEnd_cons oNotEnd, peek_cons, Bool.false_eq_true, if_false, opKind,
        Level.operator?, additiveOp?, advance_cons oNotEnd, readName, ok_bind, shorter, dif_pos]
      exact readRest
    · have := left.six_le_frames
      rw [frames]
      simp only [Expr.frames]
      omega
    · rw [literals]
      simp [Expr.literals]

/-- The text of a sum of `k + 1` names is read up to its end as one sum nested `k` operations deep. -/
theorem ofTokens_longSum (k : Nat) :
    ∃ e n, Expr.ofTokens (Token.scan (longSumText k)).1 = .ok (e, n) ∧ e.frames = 6 + 6 * k ∧
      e.literals = [] := by
  have stops : ∀ x, ((List.replicate k [' ', '+', ' ', 'a']).flatten).head? = some x →
      Lexeme.continuesWord x = false := by
    intro x head
    cases k with
    | zero => cases head
    | succ k =>
      obtain rfl : x = ' ' := by simpa [List.replicate_succ] using head.symm
      decide +kernel
  have shapes : Token.shapes (longSumText k).toList =
      ((TokenKind.identifier, "a") :: (List.replicate k [(TokenKind.plus, "+"), (.identifier, "a")]).flatten) ++
        [(.endOfInput, "")] := by
    rw [longSumText, String.toList_ofList,
      show 'a' :: (List.replicate k [' ', '+', ' ', 'a']).flatten =
        "a".toList ++ (List.replicate k [' ', '+', ' ', 'a']).flatten from rfl,
      Token.shapes_name isName_a stops, shapes_sumTail]
    rfl
  obtain ⟨ts, eof, split, spelled, eofKind⟩ := scan_spelled shapes
  obtain ⟨a, ts, rfl, nameShape, spelled⟩ := List.map_eq_cons_iff.1 spelled
  have nameKind := (Token.shape_eq.1 nameShape).1
  obtain ⟨e, readTail, frames, literals⟩ :=
    additionTail_sum 954 eofKind k ts (.identifier a.text a.position) spelled
  obtain ⟨w, after, following, notOpen, stopsProduct⟩ := sumTail_head eofKind spelled
  have readFirst : Level.operandReader .sum (954 + 1 + 1 + 1) (a :: (ts ++ [eof])) =
      .ok (.identifier a.text a.position, ts ++ [eof]) := by
    rw [following]
    exact sum_operand_name 954 nameKind notOpen stopsProduct
  have readSum : Level.reader .sum (957 + 1) (a :: (ts ++ [eof])) = .ok (e, [eof]) := by
    rw [Level.reader_succ, readFirst, ok_bind]
    exact readTail
  have readExpression : Parse.expression hostFrames (a :: (ts ++ [eof])) = .ok (e, [eof]) :=
    expression_of_reader .sum readSum fun outer _ => by cases outer <;> simp [Level.Joins, eofKind]
  refine ⟨e, (Token.scan (longSumText k)).1.length - 1, ?_, by rw [frames]; simp [Expr.frames],
    by simpa [Expr.literals] using literals⟩
  unfold Expr.ofTokens
  rw [stream_scan, split, List.cons_append]
  dsimp only
  rw [readExpression]
  rfl

end Parse

open Parse

/--
The sum `a + a + ... + a` of two hundred names is read with a few frames, but
its printed form nests one pair of parentheses per operation, and reading
that form back fails as nested too deeply.
-/
theorem long_sum_not_read_back :
    ∃ e n, Expr.ofTokens (Token.scan (longSumText 199)).1 = .ok (e, n) ∧ e.literals = [] ∧
      hostFrames < e.frames ∧ ∃ t, Expr.ofTokens (Token.scan e.render).1 = .error (.tooDeep t) := by
  obtain ⟨e, n, parsed, frames, literals⟩ := ofTokens_longSum 199
  have printable : e.Printable :=
    ⟨Expr.ofTokens_names (Token.scan_named _) parsed, by simp [literals]⟩
  have deep : hostFrames < e.frames := by
    rw [frames]
    decide
  exact ⟨e, n, parsed, literals, deep, (ofTokens_render printable).2 deep⟩

end GameScript

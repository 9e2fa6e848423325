import GameScript.Proofs.ReadBound
import GameScript.Proofs.Acceptance
import GameScript.Proofs.ScanLoop

/-!
# The reader makes progress on any token list

The reader of `GameScript.Syntax.Parse` takes any list of tokens. It first
closes the list into a stream (`Parse.stream`): the tokens before the first
end-of-input token, then one end token, appended at the last token's position
when the list has none. Every rule reads a suffix of that stream, and the end
token is never passed.

The loops of the reader (statements of a block, members of a component, the
top level, the operations of a binary level, the arguments after commas, the
parameters of a method) are written with a guard: a step that leaves as many
tokens as it took ends the loop. This module proves that the guard never
decides anything: on every suffix of a stream each step of each loop takes at
least one token, so each loop is the plain loop it stands for (`PlainLoops`).
The steps take their tokens by the grammar's derivations, which the reader
follows (`GameScript.Proofs.Reading`).

With the frame bound of `GameScript.Proofs.ReadBound` (a rule that enters a
nested phrase takes a token first, so reading needs at most seven frames a
token) and the scanner's numbers, which `Reading.readFloat?` always reads,
this gives `reader_progresses_on_any_tokens`.
-/

namespace GameScript.Grammar

open Parse

/-- A suffix of a stream is empty, or a suffix of its tokens before the end token, then the end token. -/
theorem suffix_stream {xs ts : List Token} {e : Token} (suffix : ts <:+ xs ++ [e]) :
    ts = [] ∨ ∃ ys, ts = ys ++ [e] ∧ ys <:+ xs := by
  obtain ⟨front, whole⟩ := suffix
  rcases List.eq_nil_or_concat ts with rfl | ⟨ys, y, rfl⟩
  · exact .inl rfl
  · rw [List.concat_eq_append, ← List.append_assoc] at whole
    rw [List.concat_eq_append]
    obtain ⟨before, last⟩ := List.append_inj' whole rfl
    obtain rfl : y = e := by simpa using last
    exact .inr ⟨ys, rfl, front, before⟩

/-! ## Every step of a loop takes a token -/

section Steps

variable {e : Token} (he : e.kind = .endOfInput) {ys : List Token} (clean : Clean ys)
include he clean

/-- A statement read where the loop over statements asks for one takes at least one token. -/
theorem statement_progress (due : (check .rightBrace (ys ++ [e]) || atEnd (ys ++ [e])) = false)
    {b : Nat} {st : Stmt} {out : List Token} (read : statement b (ys ++ [e]) = .ok (st, out)) :
    out.length < (ys ++ [e]).length := by
  cases ys with
  | nil => simp [atEnd_single he] at due
  | cons t ts =>
    have notClose : t.kind ≠ .rightBrace := by
      simpa [check_cons clean.head, atEnd_cons clean.head] using due
    obtain ⟨rest, rfl, derived⟩ := (statementsSound he b).statement t ts st out clean notClose read
    obtain ⟨_, _, split, _, shorter⟩ := derived.starts
    cases split
    exact stream_shorter shorter

/-- A method takes at least its keyword `fn`. -/
theorem method_progress {b : Nat} {m : MethodDecl} {out : List Token}
    (read : method b (ys ++ [e]) = .ok (m, out)) : out.length < (ys ++ [e]).length := by
  obtain ⟨rest, rfl, derived⟩ := method_sound he b ys m out clean read
  obtain ⟨_, _, split, _, shorter⟩ := derived.starts
  cases split
  exact stream_shorter shorter

/-- A field takes at least its type name. -/
theorem field_progress {b : Nat} {f : FieldDecl} {out : List Token}
    (read : field b (ys ++ [e]) = .ok (f, out)) : out.length < (ys ++ [e]).length := by
  obtain ⟨rest, rfl, derived⟩ := field_sound he b ys f out clean read
  obtain ⟨_, _, split, _, shorter⟩ := derived.starts
  cases split
  exact stream_shorter shorter

/-- A component is read after its keyword, which the top level takes first. -/
theorem component_progress (going : atEnd (ys ++ [e]) = false) {b : Nat} {d : Declaration}
    {out : List Token}
    (read : component b (peek (ys ++ [e])) (advance (ys ++ [e])) = .ok (d, out)) :
    out.length < (ys ++ [e]).length := by
  cases ys with
  | nil => simp [atEnd_single he] at going
  | cons t ts =>
    simp only [List.cons_append, advance_cons clean.head] at read
    obtain ⟨rest, rfl, derived⟩ := component_sound he b _ ts d out clean.tail read
    exact stream_shorter derived.suffix

/-- An operand read after an operator of its level takes no more than what follows the operator. -/
theorem operand_progress (going : atEnd (ys ++ [e]) = false) (level : Level) {b : Nat}
    {right : Expr} {out : List Token}
    (read : level.operandReader b (advance (ys ++ [e])) = .ok (right, out)) :
    out.length < (ys ++ [e]).length := by
  cases ys with
  | nil => simp [atEnd_single he] at going
  | cons t ts =>
    simp only [List.cons_append, advance_cons clean.head] at read
    have sound := expressionsSound he b
    obtain ⟨rest, rfl, derived⟩ :=
      operand_sound sound.binary sound.unary level ts right out clean.tail read
    exact stream_shorter derived.suffix

/-- An argument read after a comma takes no more than what follows the comma. -/
theorem argument_progress (going : atEnd (ys ++ [e]) = false) {b : Nat} {next : Expr}
    {out : List Token} (read : expression b (advance (ys ++ [e])) = .ok (next, out)) :
    out.length < (ys ++ [e]).length := by
  cases ys with
  | nil => simp [atEnd_single he] at going
  | cons t ts =>
    simp only [List.cons_append, advance_cons clean.head] at read
    obtain ⟨rest, rfl, derived⟩ := (expressionsSound he b).expression ts next out clean.tail read
    exact stream_shorter derived.suffix

end Steps

/-- Two names are taken before the parameters go on after a comma. -/
theorem parameters_progress {ts afterType afterName : List Token} {type paramName : Token}
    (readType : name "Expected parameter type" ts = .ok (type, afterType))
    (readName : name "Expected parameter name" afterType = .ok (paramName, afterName)) :
    (advance afterName).length < ts.length := by
  have first := name_length readType
  have second := name_length readName
  have after := advance_length_le afterName
  omega

/-! ## The loops are plain loops -/

/--
The loops of the reader at a stream `ts`, each as the plain loop it stands for:
the step is taken until the loop's stop condition holds, and the loop goes on
from where the step left it, with no other way out.
-/
structure PlainLoops (ts : List Token) : Prop where
  statements : ∀ b body, Parse.statements b body ts =
    if check .rightBrace ts || atEnd ts then .ok (body, ts)
    else do
      let (stmt, rest) ← statement b ts
      Parse.statements b (body ++ [stmt]) rest
  members : ∀ b fields methods, Parse.members b fields methods ts =
    if check .rightBrace ts || atEnd ts then .ok ((fields, methods), ts)
    else if check .keywordFn ts then do
      let (m, rest) ← method b ts
      Parse.members b fields (methods ++ [m]) rest
    else do
      let (f, rest) ← field b ts
      Parse.members b (fields ++ [f]) methods rest
  declarations : ∀ b found, Parse.declarations b found ts =
    if atEnd ts then .ok found
    else if check .keywordComponent ts then do
      let (d, rest) ← component b (peek ts) (advance ts)
      Parse.declarations b (found ++ [d]) rest
    else Parse.declarations b found (advance ts)
  tail : ∀ (level : Level) b left, level.tail b left ts =
    match (if atEnd ts then none else level.operator? (peek ts).kind) with
    | none => .ok (left, ts)
    | some op => do
      let (right, rest) ← level.operandReader b (advance ts)
      level.tail b (.binary op left right (peek ts).position) rest
  argumentsTail : ∀ b args, Parse.argumentsTail b args ts =
    if check .comma ts then do
      let (next, rest) ← expression b (advance ts)
      Parse.argumentsTail b (args ++ [next]) rest
    else .ok (args, ts)
  parameters : ∀ params, Parse.parameters params ts = do
    let (dataType, rest) ← name "Expected parameter type" ts
    let (paramName, rest) ← name "Expected parameter name" rest
    let params := params ++ [⟨dataType.text, paramName.text⟩]
    if check .comma rest then Parse.parameters params (advance rest) else .ok (params, rest)

/-- The parameters loop is plain on every token list: each round takes two names. -/
theorem parameters_plain (params : List Param) (ts : List Token) :
    Parse.parameters params ts = (do
      let (dataType, rest) ← name "Expected parameter type" ts
      let (paramName, rest) ← name "Expected parameter name" rest
      let params := params ++ [⟨dataType.text, paramName.text⟩]
      if check .comma rest then Parse.parameters params (advance rest) else .ok (params, rest)) := by
  rw [Parse.parameters]
  refine bind_congr_ok fun type afterType readType => ?_
  refine bind_congr_ok fun paramName afterName readName => ?_
  dsimp only
  split
  · rw [dif_pos (parameters_progress readType readName)]
  · rfl

section Plain

variable {e : Token} (he : e.kind = .endOfInput) {ys : List Token} (clean : Clean ys)
include he clean

theorem statements_plain (b : Nat) (body : List Stmt) :
    Parse.statements b body (ys ++ [e]) =
      if check .rightBrace (ys ++ [e]) || atEnd (ys ++ [e]) then .ok (body, ys ++ [e])
      else (do
        let (stmt, rest) ← statement b (ys ++ [e])
        Parse.statements b (body ++ [stmt]) rest) := by
  rw [Parse.statements]
  split
  · rfl
  · next due =>
    refine bind_congr_ok fun st rest read => ?_
    dsimp only
    rw [dif_pos (statement_progress he clean (by simpa using due) read)]

theorem members_plain (b : Nat) (fields : List FieldDecl) (methods : List MethodDecl) :
    Parse.members b fields methods (ys ++ [e]) =
      if check .rightBrace (ys ++ [e]) || atEnd (ys ++ [e]) then
        .ok ((fields, methods), ys ++ [e])
      else if check .keywordFn (ys ++ [e]) then do
        let (m, rest) ← method b (ys ++ [e])
        Parse.members b fields (methods ++ [m]) rest
      else (do
        let (f, rest) ← field b (ys ++ [e])
        Parse.members b (fields ++ [f]) methods rest) := by
  rw [Parse.members]
  split
  · rfl
  split
  · cases read : method b (ys ++ [e]) with
    | error => rfl
    | ok result =>
      obtain ⟨m, rest⟩ := result
      exact dif_pos (method_progress he clean read)
  · cases read : field b (ys ++ [e]) with
    | error => rfl
    | ok result =>
      obtain ⟨f, rest⟩ := result
      exact dif_pos (field_progress he clean read)

theorem declarations_plain (b : Nat) (found : List Declaration) :
    Parse.declarations b found (ys ++ [e]) =
      if atEnd (ys ++ [e]) then .ok found
      else if check .keywordComponent (ys ++ [e]) then do
        let (d, rest) ← component b (peek (ys ++ [e])) (advance (ys ++ [e]))
        Parse.declarations b (found ++ [d]) rest
      else Parse.declarations b found (advance (ys ++ [e])) := by
  rw [Parse.declarations]
  split
  · rfl
  · next going =>
    have going : atEnd (ys ++ [e]) = false := by simpa using going
    split
    · cases read : component b (peek (ys ++ [e])) (advance (ys ++ [e])) with
      | error => rfl
      | ok result =>
        obtain ⟨d, rest⟩ := result
        exact dif_pos (component_progress he clean going read)
    · exact dif_pos (by have := advance_length_of_going going; omega)

theorem tail_plain (level : Level) (b : Nat) (left : Expr) :
    level.tail b left (ys ++ [e]) =
      match (if atEnd (ys ++ [e]) then none else level.operator? (peek (ys ++ [e])).kind) with
      | none => .ok (left, ys ++ [e])
      | some op => (do
        let (right, rest) ← level.operandReader b (advance (ys ++ [e]))
        level.tail b (.binary op left right (peek (ys ++ [e])).position) rest) := by
  rw [Level.tail_eq]
  cases found : (if atEnd (ys ++ [e]) then none else level.operator? (peek (ys ++ [e])).kind) with
  | none => rfl
  | some op =>
    dsimp only
    refine bind_congr_ok fun right rest read => ?_
    exact dif_pos (operand_progress he clean (going_of_found found) level read)

theorem argumentsTail_plain (b : Nat) (args : List Expr) :
    Parse.argumentsTail b args (ys ++ [e]) =
      if check .comma (ys ++ [e]) then do
        let (next, rest) ← expression b (advance (ys ++ [e]))
        Parse.argumentsTail b (args ++ [next]) rest
      else .ok (args, ys ++ [e]) := by
  rw [Parse.argumentsTail]
  split
  · next comma =>
    refine bind_congr_ok fun next rest read => ?_
    exact dif_pos (argument_progress he clean (going_of_check comma) read)
  · rfl

/-- Every loop of the reader is plain on a stream. -/
theorem plainLoops : PlainLoops (ys ++ [e]) where
  statements := statements_plain he clean
  members := members_plain he clean
  declarations := declarations_plain he clean
  tail := tail_plain he clean
  argumentsTail := argumentsTail_plain he clean
  parameters params := parameters_plain params _

end Plain

/-- On the empty list every loop stops before its first step. -/
theorem plainLoops_nil : PlainLoops [] where
  statements b body := by rw [Parse.statements]; rfl
  members b fields methods := by rw [Parse.members]; rfl
  declarations b found := by rw [Parse.declarations]; rfl
  tail level b left := by rw [Level.tail_eq]; rfl
  argumentsTail b args := by rw [Parse.argumentsTail]; rfl
  parameters params := parameters_plain params []

/-- On every suffix of a stream, every loop of the reader is plain. -/
theorem plainLoops_of_suffix {tokens ts : List Token} (suffix : ts <:+ stream tokens) :
    PlainLoops ts := by
  obtain ⟨e, he, split⟩ := stream_eq_takeWhile tokens
  rw [split] at suffix
  rcases suffix_stream suffix with rfl | ⟨ys, rfl, before⟩
  · exact plainLoops_nil
  · exact plainLoops he ((clean_takeWhile tokens).of_suffix before)

/-! ## Frames and the tokens used -/

/-- From `7 * n + 2` frames on, the top level of a list of `n` tokens reads the same. -/
theorem declarations_settled (ts : List Token) (found : List Declaration) {b : Nat}
    (enough : 7 * ts.length + 2 ≤ b) :
    declarations b found ts = declarations (7 * ts.length + 2) found ts := by
  induction b, enough using Nat.le_induction with
  | base => rfl
  | succ b enough same => rw [declarations_settle _ ts found rfl b enough, same]

/-- From `7 * n + 7` frames on, an expression at the head of a list of `n` tokens reads the same. -/
theorem expression_settled (ts : List Token) {b : Nat} (enough : 7 * ts.length + 7 ≤ b) :
    expression b ts = expression (7 * ts.length + 7) ts := by
  induction b, enough using Nat.le_induction with
  | base => rfl
  | succ b enough same => rw [((readsSettle ts.length).expression ts le_rfl b enough).1, same]

/--
An expression read at the head of a token list uses at least one token, and
only tokens before the first end-of-input token.
-/
theorem Expr.ofTokens_used {tokens : List Token} {x : Expr} {n : Nat}
    (read : Expr.ofTokens tokens = .ok (x, n)) :
    0 < n ∧ n ≤ (tokens.takeWhile (·.kind != .endOfInput)).length := by
  obtain ⟨e, he, split⟩ := stream_eq_takeWhile tokens
  simp only [Expr.ofTokens, split] at read
  split at read
  · next y rest readExpr =>
    cases read
    obtain ⟨rest', rfl, derived⟩ :=
      (expressionsSound he hostFrames).expression _ _ _ (clean_takeWhile tokens) readExpr
    obtain ⟨t, ts', first, _, shorter⟩ := derived.starts
    have fewer := shorter.length_le
    rw [first]
    simp only [List.length_append, List.length_cons, List.length_nil]
    omega
  · cases read

/-- A number token the scanner emits is read as its number, never as the fallback zero. -/
theorem literal?_scanned_number (source : String) :
    ∀ t ∈ (Token.scan source).1, t.kind = .number →
      ∃ x, Reading.readFloat? t.text = some x ∧ literal? t = some (.number x) := by
  intro t member number
  obtain ⟨x, read⟩ := Token.scan_numbers_read source t member number
  exact ⟨x, read, by simp [literal?, number, read]⟩

/-! ## Progress -/

/--
The reader on any token list: it reads the list's stream, which stops at the
first end-of-input token; on every suffix of that stream every loop is plain,
each round taking a token; the frames needed are bounded by the stream's
length, past which more frames read the same; an expression uses at least one
token and none from the first end token on. A number token the scanner emits
is always read as its number.
-/
theorem reader_progresses_on_any_tokens (tokens : List Token) :
    (∃ e, e.kind = .endOfInput ∧
      stream tokens = tokens.takeWhile (·.kind != .endOfInput) ++ [e]) ∧
    (∀ ts, ts <:+ stream tokens → PlainLoops ts) ∧
    (∀ b, 7 * (stream tokens).length + 2 ≤ b →
      declarations b [] (stream tokens) =
        declarations (7 * (stream tokens).length + 2) [] (stream tokens)) ∧
    (∀ b, 7 * (stream tokens).length + 7 ≤ b →
      expression b (stream tokens) = expression (7 * (stream tokens).length + 7) (stream tokens)) ∧
    (∀ x n, Expr.ofTokens tokens = .ok (x, n) →
      0 < n ∧ n ≤ (tokens.takeWhile (·.kind != .endOfInput)).length) ∧
    ∀ source, ∀ t ∈ (Token.scan source).1, t.kind = .number →
      ∃ x, Reading.readFloat? t.text = some x ∧ literal? t = some (.number x) :=
  ⟨stream_eq_takeWhile tokens, fun _ suffix => plainLoops_of_suffix suffix,
    fun _ enough => declarations_settled _ [] enough, fun _ enough => expression_settled _ enough,
    fun _ _ read => Expr.ofTokens_used read, literal?_scanned_number⟩

end GameScript.Grammar

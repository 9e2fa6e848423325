import GameScript.Proofs.PrintedRead

/-!
# The names the reader reads

Every name in what the reader reads (a variable, a called function, the
target of an assignment) is the text of the identifier token at the head of
the stream when the rule reads it, and every assignment operator it reads is
one the scanner writes as a single token.  The scanner makes identifier tokens
only of words that are names (`Token.scan_named`), so every name of a parsed
expression is a name (`Expr.ofTokens_names`), and every statement of a parsed
method body uses only names and such operators
(`Declaration.ofTokens_bodiesScanned`); every parsed declaration is named by
a name (`Declaration.ofTokens_names`).

The property carried through the reader is `Parse.Named`: every identifier
token of the stream spells a name.  Each rule, run on such a stream, reads a
phrase whose names are names and leaves such a stream (`Parse.NamedReads`).
The proofs follow the reader's rules as `GameScript.Proofs.Reading` does:
induction on the frames for the rules that take one, and recursion on the
length of the stream for the repetitions.
-/

namespace GameScript

/-- Every string of a list is a name. -/
def AllNames (names : List String) : Prop :=
  ∀ n ∈ names, IsName n

/-- A name is not empty. -/
theorem IsName.ne_empty {s : String} (isName : IsName s) : s ≠ "" := by
  obtain ⟨c, tail, spelled, -⟩ := isName
  intro empty
  rw [empty] at spelled
  cases spelled

namespace AllNames

@[simp]
theorem nil : AllNames [] := by
  simp [AllNames]

@[simp]
theorem cons {n : String} {names : List String} : AllNames (n :: names) ↔ IsName n ∧ AllNames names := by
  simp [AllNames]

@[simp]
theorem append {names more : List String} :
    AllNames (names ++ more) ↔ AllNames names ∧ AllNames more := by
  simp only [AllNames, List.mem_append]
  exact ⟨fun all => ⟨fun n member => all n (.inl member), fun n member => all n (.inr member)⟩,
    fun ⟨left, right⟩ n member => member.elim (left n) (right n)⟩

end AllNames

theorem Expr.allNames_namesList {es : List Expr} :
    AllNames (Expr.namesList es) ↔ ∀ e ∈ es, AllNames e.names := by
  simp only [AllNames, Expr.mem_namesList]
  exact ⟨fun all e member n named => all n ⟨e, member, named⟩,
    fun all n ⟨e, member, named⟩ => all e member n named⟩

@[simp]
theorem Expr.namesList_append (es more : List Expr) :
    Expr.namesList (es ++ more) = Expr.namesList es ++ Expr.namesList more := by
  induction es with
  | nil => rfl
  | cons e rest ih => simp [Expr.namesList, ih]

mutual

/-- The names a statement uses: the target of an assignment or the function of a call, and the names of its expressions and nested statements. -/
def Stmt.names : Stmt → List String
  | .assign target _ value _ => target :: value.names
  | .ifThen condition body _ => condition.names ++ Stmt.namesList body
  | .call function args _ => function :: Expr.namesList args
  | .unknown .. => []

/-- The names of statements, one after the other. -/
def Stmt.namesList : List Stmt → List String
  | [] => []
  | st :: rest => st.names ++ Stmt.namesList rest

end

@[simp]
theorem Stmt.namesList_append (body more : List Stmt) :
    Stmt.namesList (body ++ more) = Stmt.namesList body ++ Stmt.namesList more := by
  induction body with
  | nil => rfl
  | cons st rest ih => simp [Stmt.namesList, ih]

theorem Stmt.allNames_namesList {body : List Stmt} :
    AllNames (Stmt.namesList body) ↔ ∀ st ∈ body, AllNames st.names := by
  induction body with
  | nil => simp [Stmt.namesList]
  | cons st rest ih => simp [Stmt.namesList, ih]

mutual

/-- The assignment operators of a statement, those of nested statements included. -/
def Stmt.assignOps : Stmt → List AssignOp
  | .assign _ op _ _ => [op]
  | .ifThen _ body _ => Stmt.assignOpsList body
  | .call .. | .unknown .. => []

/-- The assignment operators of statements, one after the other. -/
def Stmt.assignOpsList : List Stmt → List AssignOp
  | [] => []
  | st :: rest => st.assignOps ++ Stmt.assignOpsList rest

end

@[simp]
theorem Stmt.assignOpsList_append (body more : List Stmt) :
    Stmt.assignOpsList (body ++ more) = Stmt.assignOpsList body ++ Stmt.assignOpsList more := by
  induction body with
  | nil => rfl
  | cons st rest ih => simp [Stmt.assignOpsList, ih]

theorem Stmt.mem_assignOpsList {op : AssignOp} {body : List Stmt} :
    op ∈ Stmt.assignOpsList body ↔ ∃ st ∈ body, op ∈ st.assignOps := by
  induction body with
  | nil => simp [Stmt.assignOpsList]
  | cons st rest ih => simp [Stmt.assignOpsList, ih]

/-- A statement the reader can have read from scanned tokens: every name it uses is a name, and every assignment operator in it is written as one token. -/
def Stmt.Scanned (st : Stmt) : Prop :=
  AllNames st.names ∧ ∀ op ∈ st.assignOps, op.tokenKind?.isSome

theorem Stmt.scanned_ifThen {condition : Expr} {body : List Stmt} {line : Nat} :
    (Stmt.ifThen condition body line).Scanned ↔ AllNames condition.names ∧ ∀ st ∈ body, st.Scanned := by
  simp only [Stmt.Scanned, Stmt.names, Stmt.assignOps, AllNames.append, Stmt.allNames_namesList,
    Stmt.mem_assignOpsList]
  constructor
  · rintro ⟨⟨condition, names⟩, ops⟩
    exact ⟨condition, fun st member => ⟨names st member, fun op mem => ops op ⟨st, member, mem⟩⟩⟩
  · rintro ⟨condition, scanned⟩
    exact ⟨⟨condition, fun st member => (scanned st member).1⟩,
      fun op ⟨st, member, mem⟩ => (scanned st member).2 op mem⟩

/-- Every operator the reader takes an assignment for is written as one token. -/
theorem AssignOp.tokenKind?_assignOp? (k : TokenKind) :
    ((Parse.assignOp? k).getD .set).tokenKind?.isSome := by
  cases k <;> rfl

/-- The method bodies of a declaration are statements the reader can have read from scanned tokens. -/
def Declaration.BodiesScanned (d : Declaration) : Prop :=
  ∀ m ∈ d.methods, ∀ st ∈ m.body, st.Scanned

namespace Parse

open Grammar

/-! ## Streams whose identifier tokens are names -/

/-- Every identifier token of a stream spells a name. -/
def Named (ts : List Token) : Prop :=
  ∀ t ∈ ts, t.kind = .identifier → IsName t.text

section Primitives

variable {t : Token} {ts rest : List Token} {k : TokenKind} {what : String}

theorem Named.tail (named : Named (t :: ts)) : Named ts :=
  fun u member => named u (List.mem_cons_of_mem t member)

theorem Named.advance (named : Named ts) : Named (advance ts) := by
  unfold Parse.advance
  split
  · exact named
  · cases ts with
    | nil => exact named
    | cons t ts => exact named.tail

/-- The token a rule finds at the head as an identifier spells a name. -/
theorem Named.peek (named : Named ts) (isName : check .identifier ts = true) :
    IsName (Parse.peek ts).text := by
  cases ts with
  | nil => simp [check, atEnd, Parse.peek, endToken] at isName
  | cons t ts =>
    simp only [check, Bool.and_eq_true, Bool.not_eq_eq_eq_not, Bool.not_true, beq_iff_eq] at isName
    exact named t (List.mem_cons_self ..) isName.2

theorem Named.expect (named : Named ts) (read : expect k what ts = .ok (t, rest)) : Named rest := by
  unfold Parse.expect at read
  split at read
  · cases read
    exact named.advance
  · cases read

theorem Named.name (named : Named ts) (read : name what ts = .ok (t, rest)) :
    IsName t.text ∧ Named rest := by
  unfold Parse.name at read
  split at read
  · next isName =>
    cases read
    exact ⟨named.peek isName, named.advance⟩
  · cases read

end Primitives

/--
A rule reads named phrases: run on a stream whose identifier tokens are names,
whatever it reads satisfies `P`, and it leaves such a stream.
-/
def NamedReads (run : List Token → Except SyntaxError (α × List Token)) (P : α → Prop) : Prop :=
  ∀ ts x out, Named ts → run ts = .ok (x, out) → P x ∧ Named out

theorem NamedReads.of_fails {run : List Token → Except SyntaxError (α × List Token)}
    {P : α → Prop} (fails : ∀ ts, ∃ error, run ts = .error error) : NamedReads run P := by
  intro ts x out _ read
  obtain ⟨error, failed⟩ := fails ts
  rw [failed] at read
  cases read

/-! ## The expression rules -/

/-- The expression rules with a number of frames read only names. -/
structure ExpressionsNamed (b : Nat) : Prop where
  expression : NamedReads (Parse.expression b) (AllNames ·.names)
  binary : ∀ level : Level, NamedReads (level.reader b) (AllNames ·.names)
  unary : NamedReads (Parse.unary b) (AllNames ·.names)
  primary : NamedReads (Parse.primary b) (AllNames ·.names)
  arguments : NamedReads (Parse.arguments b) (AllNames <| Expr.namesList ·)

section Expressions

variable {b : Nat}

theorem operand_named (binary : ∀ level : Level, NamedReads (level.reader b) (AllNames ·.names))
    (unary : NamedReads (Parse.unary b) (AllNames ·.names)) (level : Level) :
    NamedReads (level.operandReader b) (AllNames ·.names) := by
  cases level with
  | comparison => exact binary .sum
  | sum => exact binary .product
  | product => exact unary

/-- The operations after an operand whose names are names read only names. -/
theorem tail_named {level : Level} (operand : NamedReads (level.operandReader b) (AllNames ·.names)) :
    ∀ n ts (left : Expr) x out, ts.length = n → AllNames left.names → Named ts →
      level.tail b left ts = .ok (x, out) → AllNames x.names ∧ Named out := by
  intro n
  induction n using Nat.strong_induction_on with
  | _ n more =>
    intro ts left x out length leftNamed named read
    rw [Level.tail_eq] at read
    split at read
    · cases read
      exact ⟨leftNamed, named⟩
    · next _ op _ =>
      obtain ⟨⟨right, rest⟩, readRight, read⟩ := bind_eq_ok.1 read
      obtain ⟨rightNamed, restNamed⟩ := operand _ right rest named.advance readRight
      have nodeNamed : AllNames (Expr.binary op left right (peek ts).position).names := by
        simp [Expr.names, leftNamed, rightNamed]
      dsimp only at read
      split at read
      · next shorter => exact more _ (length ▸ shorter) rest _ x out rfl nodeNamed restNamed read
      · cases read
        exact ⟨nodeNamed, restNamed⟩

/-- The arguments after commas, after arguments whose names are names, read only names. -/
theorem argumentsTail_named (expression : NamedReads (Parse.expression b) (AllNames ·.names)) :
    ∀ n ts (args : List Expr) x out, ts.length = n → AllNames (Expr.namesList args) → Named ts →
      Parse.argumentsTail b args ts = .ok (x, out) → AllNames (Expr.namesList x) ∧ Named out := by
  intro n
  induction n using Nat.strong_induction_on with
  | _ n more =>
    intro ts args x out length argsNamed named read
    rw [Parse.argumentsTail] at read
    split at read
    · obtain ⟨⟨next, rest⟩, readNext, read⟩ := bind_eq_ok.1 read
      obtain ⟨nextNamed, restNamed⟩ := expression _ next rest named.advance readNext
      have allNamed : AllNames (Expr.namesList (args ++ [next])) := by
        simp [argsNamed, Expr.namesList, nextNamed]
      dsimp only at read
      split at read
      · next shorter => exact more _ (length ▸ shorter) rest _ x out rfl allNamed restNamed read
      · cases read
        exact ⟨allNamed, restNamed⟩
    · cases read
      exact ⟨argsNamed, named⟩

variable (ih : ExpressionsNamed b)
include ih

theorem expression_named_succ : NamedReads (Parse.expression (b + 1)) (AllNames ·.names) := by
  intro ts x out named read
  rw [Parse.expression.eq_2] at read
  exact ih.binary .comparison ts x out named read

theorem binary_named_succ (level : Level) : NamedReads (level.reader (b + 1)) (AllNames ·.names) := by
  intro ts x out named read
  rw [Level.reader_succ] at read
  obtain ⟨⟨left, rest⟩, readLeft, read⟩ := bind_eq_ok.1 read
  have operand := operand_named ih.binary ih.unary level
  obtain ⟨leftNamed, restNamed⟩ := operand ts left rest named readLeft
  exact tail_named operand _ rest left x out rfl leftNamed restNamed read

theorem unary_named_succ : NamedReads (Parse.unary (b + 1)) (AllNames ·.names) := by
  intro ts x out named read
  rw [Parse.unary.eq_2] at read
  split at read
  · obtain ⟨⟨operand, rest⟩, readOperand, done⟩ := bind_eq_ok.1 read
    obtain ⟨operandNamed, restNamed⟩ := ih.unary _ operand rest named.advance readOperand
    simp only [pure, Except.pure, Except.ok.injEq, Prod.mk.injEq] at done
    obtain ⟨rfl, rfl⟩ := done
    exact ⟨by simpa [Expr.names] using operandNamed, restNamed⟩
  · exact ih.primary ts x out named read

theorem arguments_named_succ : NamedReads (Parse.arguments (b + 1)) (AllNames <| Expr.namesList ·) := by
  intro ts x out named read
  rw [Parse.arguments.eq_2] at read
  obtain ⟨⟨_, rest⟩, readOpening, read⟩ := bind_eq_ok.1 read
  have afterOpening := named.expect readOpening
  dsimp only at read
  split at read
  · obtain ⟨⟨_, rest'⟩, readClose, done⟩ := bind_eq_ok.1 read
    simp only [pure, Except.pure, Except.ok.injEq, Prod.mk.injEq] at done
    obtain ⟨rfl, rfl⟩ := done
    exact ⟨by simp [Expr.namesList], afterOpening.expect readClose⟩
  · obtain ⟨⟨first, rest⟩, readFirst, read⟩ := bind_eq_ok.1 read
    obtain ⟨firstNamed, afterFirst⟩ := ih.expression _ first rest afterOpening readFirst
    obtain ⟨⟨args, rest'⟩, readArgs, read⟩ := bind_eq_ok.1 read
    obtain ⟨argsNamed, afterArgs⟩ := argumentsTail_named ih.expression _ rest [first] args rest' rfl
      (by simpa [Expr.namesList] using firstNamed) afterFirst readArgs
    obtain ⟨⟨_, rest''⟩, readClose, done⟩ := bind_eq_ok.1 read
    simp only [pure, Except.pure, Except.ok.injEq, Prod.mk.injEq] at done
    obtain ⟨rfl, rfl⟩ := done
    exact ⟨argsNamed, afterArgs.expect readClose⟩

/--
A primary phrase read from a named stream has names only and leaves the stream
named; a name's head token is an identifier, so it spells a name.
-/
theorem primary_named_succ : NamedReads (Parse.primary (b + 1)) (AllNames ·.names) := by
  intro ts x out named read
  rw [Parse.primary.eq_2] at read
  dsimp only at read
  split at read
  · cases read
    exact ⟨by simp [Expr.names], named.advance⟩
  · split at read
    · next isName =>
      have headNamed := named.peek isName
      split at read
      · obtain ⟨⟨args, rest⟩, readArgs, done⟩ := bind_eq_ok.1 read
        obtain ⟨argsNamed, restNamed⟩ := ih.arguments _ args rest named.advance readArgs
        simp only [pure, Except.pure, Except.ok.injEq, Prod.mk.injEq] at done
        obtain ⟨rfl, rfl⟩ := done
        exact ⟨by simp [Expr.names, headNamed, argsNamed], restNamed⟩
      · cases read
        exact ⟨by simp [Expr.names, headNamed], named.advance⟩
    · split at read
      · obtain ⟨⟨inner, rest⟩, readInner, read⟩ := bind_eq_ok.1 read
        obtain ⟨innerNamed, restNamed⟩ := ih.expression _ inner rest named.advance readInner
        obtain ⟨⟨_, rest'⟩, readClose, done⟩ := bind_eq_ok.1 read
        simp only [pure, Except.pure, Except.ok.injEq, Prod.mk.injEq] at done
        obtain ⟨rfl, rfl⟩ := done
        exact ⟨innerNamed, restNamed.expect readClose⟩
      · split at read <;> cases read

end Expressions

/-- With any number of frames, the expression rules read only names. -/
theorem expressionsNamed (b : Nat) : ExpressionsNamed b := by
  induction b with
  | zero =>
    exact ⟨.of_fails fun ts => ⟨_, Parse.expression.eq_1 ts⟩,
      fun level => .of_fails fun ts => ⟨_, level.reader_zero ts⟩,
      .of_fails fun ts => ⟨_, Parse.unary.eq_1 ts⟩,
      .of_fails fun ts => ⟨_, Parse.primary.eq_1 ts⟩,
      .of_fails fun ts => ⟨_, Parse.arguments.eq_1 ts⟩⟩
  | succ b ih =>
    exact ⟨expression_named_succ ih, binary_named_succ ih, unary_named_succ ih,
      primary_named_succ ih, arguments_named_succ ih⟩

/-! ## The statement rules -/

/--
The statement rules with a number of frames read only statements of scanned
tokens.  An assignment and a call are entered only once the statement rule has
seen a name at the head, so their fields assume one.
-/
structure StatementsNamed (b : Nat) : Prop where
  statement : NamedReads (Parse.statement b) Stmt.Scanned
  ifStatement : NamedReads (Parse.ifStatement b) Stmt.Scanned
  assignment : ∀ ts x out, Named ts → check .identifier ts = true →
    Parse.assignment b ts = .ok (x, out) → x.Scanned ∧ Named out
  callStatement : ∀ ts x out, Named ts → check .identifier ts = true →
    Parse.callStatement b ts = .ok (x, out) → x.Scanned ∧ Named out
  block : NamedReads (Parse.block b) fun body => ∀ st ∈ body, st.Scanned

section Statements

variable {b : Nat}

/-- The statements after statements of scanned tokens are statements of scanned tokens. -/
theorem statements_named (statement : NamedReads (Parse.statement b) Stmt.Scanned) :
    ∀ n ts (body : List Stmt) x out, ts.length = n → (∀ st ∈ body, st.Scanned) → Named ts →
      Parse.statements b body ts = .ok (x, out) → (∀ st ∈ x, st.Scanned) ∧ Named out := by
  intro n
  induction n using Nat.strong_induction_on with
  | _ n more =>
    intro ts body x out length bodyScanned named read
    rw [Parse.statements] at read
    split at read
    · cases read
      exact ⟨bodyScanned, named⟩
    · obtain ⟨⟨st, rest⟩, readStatement, read⟩ := bind_eq_ok.1 read
      obtain ⟨stScanned, restNamed⟩ := statement _ st rest named readStatement
      have allScanned : ∀ st' ∈ body ++ [st], st'.Scanned := by
        simpa [or_imp, forall_and] using ⟨bodyScanned, stScanned⟩
      dsimp only at read
      split at read
      · next shorter =>
        exact more _ (length ▸ shorter) rest _ x out rfl allScanned restNamed read
      · cases read
        exact ⟨allScanned, restNamed⟩

variable (ih : StatementsNamed b)
include ih

/--
A statement read from a named stream is scanned; any other token is an unknown
statement, which has no names and no operators.
-/
theorem statement_named_succ : NamedReads (Parse.statement (b + 1)) Stmt.Scanned := by
  intro ts x out named read
  rw [Parse.statement] at read
  split at read
  · exact ih.ifStatement ts x out named read
  split at read
  · next assigns => exact ih.assignment ts x out named (Bool.and_eq_true_iff.1 assigns).1 read
  split at read
  · next calls => exact ih.callStatement ts x out named (Bool.and_eq_true_iff.1 calls).1 read
  cases read
  exact ⟨⟨by simp [Stmt.names], by simp [Stmt.assignOps]⟩, named.advance⟩

theorem block_named_succ : NamedReads (Parse.block (b + 1)) fun body => ∀ st ∈ body, st.Scanned := by
  intro ts x out named read
  rw [Parse.block] at read
  obtain ⟨⟨_, afterOpen⟩, readOpen, read⟩ := bind_eq_ok.1 read
  obtain ⟨⟨body, afterBody⟩, readBody, read⟩ := bind_eq_ok.1 read
  obtain ⟨bodyScanned, bodyRest⟩ := statements_named ih.statement _ afterOpen [] body afterBody
    rfl (by simp) (named.expect readOpen) readBody
  obtain ⟨⟨_, afterClose⟩, readClose, done⟩ := bind_eq_ok.1 read
  simp only [pure, Except.pure, Except.ok.injEq, Prod.mk.injEq] at done
  obtain ⟨rfl, rfl⟩ := done
  exact ⟨bodyScanned, bodyRest.expect readClose⟩

omit ih in
theorem ifStatement_named_succ
    (block : NamedReads (Parse.block b) fun body => ∀ st ∈ body, st.Scanned) :
    NamedReads (Parse.ifStatement (b + 1)) Stmt.Scanned := by
  intro ts x out named read
  rw [Parse.ifStatement] at read
  obtain ⟨⟨_, afterKeyword⟩, readKeyword, read⟩ := bind_eq_ok.1 read
  obtain ⟨⟨condition, afterCondition⟩, readCondition, read⟩ := bind_eq_ok.1 read
  obtain ⟨conditionNamed, conditionRest⟩ := (expressionsNamed b).expression _ condition
    afterCondition (named.expect readKeyword) readCondition
  obtain ⟨⟨body, afterBody⟩, readBody, done⟩ := bind_eq_ok.1 read
  obtain ⟨bodyScanned, bodyRest⟩ := block _ body afterBody conditionRest readBody
  simp only [pure, Except.pure, Except.ok.injEq, Prod.mk.injEq] at done
  obtain ⟨rfl, rfl⟩ := done
  exact ⟨Stmt.scanned_ifThen.2 ⟨conditionNamed, bodyScanned⟩, bodyRest⟩

omit ih in
/--
An assignment read from a named stream is scanned; its operator is the one the
token after the target stands for, or a plain `=`.
-/
theorem assignment_named_succ (ts : List Token) (x : Stmt) (out : List Token) (named : Named ts)
    (isName : check .identifier ts = true) (read : Parse.assignment (b + 1) ts = .ok (x, out)) :
    x.Scanned ∧ Named out := by
  rw [Parse.assignment] at read
  obtain ⟨⟨value, afterValue⟩, readValue, read⟩ := bind_eq_ok.1 read
  obtain ⟨valueNamed, valueRest⟩ :=
    (expressionsNamed b).expression _ value afterValue named.advance.advance readValue
  obtain ⟨⟨_, afterSemicolon⟩, readSemicolon, done⟩ := bind_eq_ok.1 read
  simp only [pure, Except.pure, Except.ok.injEq, Prod.mk.injEq] at done
  obtain ⟨rfl, rfl⟩ := done
  refine ⟨⟨by simp [Stmt.names, named.peek isName, valueNamed], ?_⟩, valueRest.expect readSemicolon⟩
  simp only [Stmt.assignOps, List.mem_singleton, forall_eq]
  exact AssignOp.tokenKind?_assignOp? _

omit ih in
theorem callStatement_named_succ (ts : List Token) (x : Stmt) (out : List Token) (named : Named ts)
    (isName : check .identifier ts = true) (read : Parse.callStatement (b + 1) ts = .ok (x, out)) :
    x.Scanned ∧ Named out := by
  rw [Parse.callStatement] at read
  obtain ⟨⟨args, afterArgs⟩, readArgs, read⟩ := bind_eq_ok.1 read
  obtain ⟨argsNamed, argsRest⟩ :=
    (expressionsNamed b).arguments _ args afterArgs named.advance readArgs
  obtain ⟨⟨_, afterSemicolon⟩, readSemicolon, done⟩ := bind_eq_ok.1 read
  simp only [pure, Except.pure, Except.ok.injEq, Prod.mk.injEq] at done
  obtain ⟨rfl, rfl⟩ := done
  exact ⟨⟨by simp [Stmt.names, named.peek isName, argsNamed], by simp [Stmt.assignOps]⟩,
    argsRest.expect readSemicolon⟩

end Statements

/-- With any number of frames, the statement rules read only statements of scanned tokens. -/
theorem statementsNamed (b : Nat) : StatementsNamed b := by
  induction b with
  | zero =>
    refine ⟨.of_fails fun ts => ⟨_, Parse.statement.eq_1 ts⟩,
      .of_fails fun ts => ⟨_, Parse.ifStatement.eq_1 ts⟩, ?_, ?_,
      .of_fails fun ts => ⟨_, Parse.block.eq_1 ts⟩⟩
    · intro ts x out _ _ read
      rw [Parse.assignment.eq_1] at read
      cases read
    · intro ts x out _ _ read
      rw [Parse.callStatement.eq_1] at read
      cases read
  | succ b ih =>
    exact ⟨statement_named_succ ih, ifStatement_named_succ ih.block, assignment_named_succ,
      callStatement_named_succ, block_named_succ ih⟩

/-! ## The declaration rules -/

/-- Parameters are names, so reading them keeps the stream named. -/
theorem parameters_named :
    ∀ n ts (params : List Param) x out, ts.length = n → Named ts →
      Parse.parameters params ts = .ok (x, out) → Named out := by
  intro n
  induction n using Nat.strong_induction_on with
  | _ n more =>
    intro ts params x out length named read
    rw [Parse.parameters] at read
    obtain ⟨⟨_, afterType⟩, readType, read⟩ := bind_eq_ok.1 read
    obtain ⟨⟨_, afterName⟩, readName, read⟩ := bind_eq_ok.1 read
    have nameRest := ((named.name readType).2.name readName).2
    dsimp only at read
    split at read
    · split at read
      · next shorter =>
        exact more _ (length ▸ shorter) _ _ x out rfl nameRest.advance read
      · cases read
        exact nameRest
    · cases read
      exact nameRest

/--
A field read from a named stream leaves it named; an initial value is an
expression, which keeps the stream named.
-/
theorem field_named (b : Nat) : NamedReads (Parse.field b) fun _ => True := by
  intro ts x out named read
  cases b with
  | zero => rw [Parse.field] at read; cases read
  | succ b =>
    rw [Parse.field] at read
    obtain ⟨⟨_, afterType⟩, readType, read⟩ := bind_eq_ok.1 read
    obtain ⟨⟨_, afterName⟩, readName, read⟩ := bind_eq_ok.1 read
    have nameRest := ((named.name readType).2.name readName).2
    dsimp only at read
    split at read
    · obtain ⟨⟨value, afterValue⟩, readValue, read⟩ := bind_eq_ok.1 read
      have valueRest :=
        ((expressionsNamed b).expression _ value afterValue nameRest.advance readValue).2
      simp only [pure_bind] at read
      obtain ⟨⟨_, afterSemicolon⟩, readSemicolon, done⟩ := bind_eq_ok.1 read
      simp only [pure, Except.pure, Except.ok.injEq, Prod.mk.injEq] at done
      exact ⟨trivial, done.2 ▸ valueRest.expect readSemicolon⟩
    · simp only [pure_bind] at read
      obtain ⟨⟨_, afterSemicolon⟩, readSemicolon, done⟩ := bind_eq_ok.1 read
      simp only [pure, Except.pure, Except.ok.injEq, Prod.mk.injEq] at done
      exact ⟨trivial, done.2 ▸ nameRest.expect readSemicolon⟩

/-- A method read from a named stream leaves it named. -/
theorem method_named (b : Nat) : NamedReads (Parse.method b) fun m => ∀ st ∈ m.body, st.Scanned := by
  intro ts x out named read
  cases b with
  | zero => rw [Parse.method] at read; cases read
  | succ b =>
    rw [Parse.method] at read
    obtain ⟨⟨_, afterKeyword⟩, readKeyword, read⟩ := bind_eq_ok.1 read
    obtain ⟨⟨_, afterName⟩, readName, read⟩ := bind_eq_ok.1 read
    obtain ⟨⟨_, afterOpen⟩, readOpen, read⟩ := bind_eq_ok.1 read
    have openRest := ((named.expect readKeyword).name readName).2.expect readOpen
    dsimp only at read
    split at read
    · simp only [pure_bind] at read
      obtain ⟨⟨_, afterClose⟩, readClose, read⟩ := bind_eq_ok.1 read
      obtain ⟨⟨body, after⟩, readBody, done⟩ := bind_eq_ok.1 read
      obtain ⟨bodyNamed, bodyRest⟩ :=
        (statementsNamed b).block _ body after (openRest.expect readClose) readBody
      simp only [pure, Except.pure, Except.ok.injEq, Prod.mk.injEq] at done
      obtain ⟨rfl, rfl⟩ := done
      exact ⟨bodyNamed, bodyRest⟩
    · obtain ⟨⟨params, afterParams⟩, readParams, read⟩ := bind_eq_ok.1 read
      have paramsRest := parameters_named _ _ [] params afterParams rfl openRest readParams
      obtain ⟨⟨_, afterClose⟩, readClose, read⟩ := bind_eq_ok.1 read
      obtain ⟨⟨body, after⟩, readBody, done⟩ := bind_eq_ok.1 read
      obtain ⟨bodyNamed, bodyRest⟩ :=
        (statementsNamed b).block _ body after (paramsRest.expect readClose) readBody
      simp only [pure, Except.pure, Except.ok.injEq, Prod.mk.injEq] at done
      obtain ⟨rfl, rfl⟩ := done
      exact ⟨bodyNamed, bodyRest⟩

/-- Members after methods whose bodies are statements of scanned tokens read only such methods. -/
theorem members_named (b : Nat) :
    ∀ n ts (fields : List FieldDecl) (methods : List MethodDecl) x out, ts.length = n →
      (∀ m ∈ methods, ∀ st ∈ m.body, st.Scanned) → Named ts →
      Parse.members b fields methods ts = .ok (x, out) →
        (∀ m ∈ x.2, ∀ st ∈ m.body, st.Scanned) ∧ Named out := by
  intro n
  induction n using Nat.strong_induction_on with
  | _ n more =>
    intro ts fields methods x out length methodsNamed named read
    rw [Parse.members] at read
    split at read
    · cases read
      exact ⟨methodsNamed, named⟩
    split at read
    · split at read
      · cases read
      · next m rest readMethod =>
        obtain ⟨mNamed, restNamed⟩ := method_named b _ m rest named readMethod
        have allNamed : ∀ m' ∈ methods ++ [m], ∀ st ∈ m'.body, st.Scanned := by
          simpa [or_imp, forall_and] using ⟨methodsNamed, mNamed⟩
        split at read
        · next shorter =>
          exact more _ (length ▸ shorter) rest _ _ x out rfl allNamed restNamed read
        · cases read
          exact ⟨allNamed, restNamed⟩
    · split at read
      · cases read
      · next f rest readField =>
        have restNamed := (field_named b _ f rest named readField).2
        split at read
        · next shorter =>
          exact more _ (length ▸ shorter) rest _ _ x out rfl methodsNamed restNamed read
        · cases read
          exact ⟨methodsNamed, restNamed⟩

theorem component_named (b : Nat) (start : Token) :
    NamedReads (Parse.component b start) Declaration.BodiesScanned := by
  intro ts x out named read
  cases b with
  | zero => rw [Parse.component] at read; cases read
  | succ b =>
    rw [Parse.component] at read
    obtain ⟨⟨_, afterName⟩, readName, read⟩ := bind_eq_ok.1 read
    obtain ⟨⟨_, afterOpen⟩, readOpen, read⟩ := bind_eq_ok.1 read
    obtain ⟨⟨⟨fields, methods⟩, afterMembers⟩, readMembers, read⟩ := bind_eq_ok.1 read
    obtain ⟨methodsNamed, membersRest⟩ := members_named b _ _ [] [] (fields, methods) afterMembers
      rfl (by simp) ((named.name readName).2.expect readOpen) readMembers
    obtain ⟨⟨_, afterClose⟩, readClose, done⟩ := bind_eq_ok.1 read
    simp only [pure, Except.pure, Except.ok.injEq, Prod.mk.injEq] at done
    obtain ⟨rfl, rfl⟩ := done
    exact ⟨methodsNamed, membersRest.expect readClose⟩

/--
The declarations read after `found` satisfy `P` when those of `found` do and the rule for one
declaration reads only declarations satisfying `P`: the repetition of declarations is by
recursion on the length of the stream, and a token outside a declaration is skipped.
-/
theorem declarations_reads {P : Declaration → Prop} (b : Nat)
    (component : ∀ start, NamedReads (Parse.component b start) P) :
    ∀ n ts (found : List Declaration) ds, ts.length = n → (∀ d ∈ found, P d) →
      Named ts → Parse.declarations b found ts = .ok ds → ∀ d ∈ ds, P d := by
  intro n
  induction n using Nat.strong_induction_on with
  | _ n more =>
    intro ts found ds length foundRead named read
    rw [Parse.declarations] at read
    split at read
    · cases read
      exact foundRead
    split at read
    · split at read
      · cases read
      · next d rest readComponent =>
        obtain ⟨dRead, restNamed⟩ := component _ _ d rest named.advance readComponent
        have allRead : ∀ d' ∈ found ++ [d], P d' := by
          simpa [or_imp, forall_and] using ⟨foundRead, dRead⟩
        split at read
        · next shorter => exact more _ (length ▸ shorter) rest _ ds rfl allRead restNamed read
        · cases read
          exact allRead
    · split at read
      · next shorter =>
        exact more _ (length ▸ shorter) _ found ds rfl foundRead named.advance read
      · cases read
        exact foundRead

/-- Declarations after declarations whose method bodies are statements of scanned tokens read only such declarations. -/
theorem declarations_named (b : Nat) :
    ∀ n ts (found : List Declaration) ds, ts.length = n → (∀ d ∈ found, d.BodiesScanned) →
      Named ts → Parse.declarations b found ts = .ok ds → ∀ d ∈ ds, d.BodiesScanned :=
  declarations_reads b (component_named b)

/-- A declaration is named by the identifier token after its keyword. -/
theorem component_names (b : Nat) (start : Token) :
    NamedReads (Parse.component b start) fun d => IsName d.name := by
  intro ts x out named read
  refine ⟨?_, (component_named b start ts x out named read).2⟩
  cases b with
  | zero => rw [Parse.component] at read; cases read
  | succ b =>
    rw [Parse.component] at read
    obtain ⟨⟨_, afterName⟩, readName, read⟩ := bind_eq_ok.1 read
    obtain ⟨⟨_, afterOpen⟩, _, read⟩ := bind_eq_ok.1 read
    obtain ⟨⟨⟨fields, methods⟩, afterMembers⟩, _, read⟩ := bind_eq_ok.1 read
    obtain ⟨⟨_, afterClose⟩, _, done⟩ := bind_eq_ok.1 read
    simp only [pure, Except.pure, Except.ok.injEq, Prod.mk.injEq] at done
    obtain ⟨rfl, rfl⟩ := done
    exact (named.name readName).1

/-! ## Parsed texts -/

/-- A stream made of a token list keeps its identifier tokens, and adds at most an end token. -/
theorem Named.stream {tokens : List Token} (named : Named tokens) : Named (stream tokens) := by
  unfold Parse.stream
  split
  · exact fun t member => named t (List.mem_of_mem_take member)
  · split
    · intro t member isName
      rcases List.mem_append.1 member with member | member
      · exact named t member isName
      · simp only [List.mem_singleton] at member
        subst member
        cases isName
    · intro t member isName
      simp only [List.mem_singleton] at member
      subst member
      cases isName

end Parse

open Parse

/-- Every name of an expression read from a stream whose identifier tokens are names is a name. -/
theorem Expr.ofTokens_names {tokens : List Token} {e : Expr} {n : Nat} (named : Named tokens)
    (read : Expr.ofTokens tokens = .ok (e, n)) : AllNames e.names := by
  unfold Expr.ofTokens at read
  dsimp only at read
  split at read
  · next rest readExpression =>
    cases read
    exact ((expressionsNamed hostFrames).expression _ _ rest named.stream readExpression).1
  · cases read

/-- The method bodies of declarations read from such a stream are statements of scanned tokens. -/
theorem Declaration.ofTokens_bodiesScanned {tokens : List Token} {ds : List Declaration}
    (named : Named tokens) (read : Declaration.ofTokens tokens = .ok ds) :
    ∀ d ∈ ds, d.BodiesScanned :=
  declarations_named _ _ _ [] ds rfl (by simp) named.stream read

/-- The declarations read from such a stream are named by names. -/
theorem Declaration.ofTokens_names {tokens : List Token} {ds : List Declaration}
    (named : Named tokens) (read : Declaration.ofTokens tokens = .ok ds) :
    ∀ d ∈ ds, IsName d.name :=
  declarations_reads _ (component_names _) _ _ [] ds rfl (by simp) named.stream read

/-- No keyword is read as a name. -/
theorem TokenKind.keyword?_ne_identifier (word : String) :
    TokenKind.keyword? word ≠ some .identifier := by
  unfold TokenKind.keyword?
  split_ifs <;> simp

namespace Lexeme

/--
Every identifier token laid out from the pieces of a cut is a word that is a
name. A word is an identifier only when it is no keyword.
-/
theorem layout_named {text : List Char} {pieces : List (Lexeme × List Char)} (cut : Cut text pieces)
    (before : List Char) : Named (layout before pieces).1 := by
  induction cut generalizing before with
  | nil => simp [Named, layout]
  | @cons piece span rest pieces first _ more =>
    have others := more (before ++ span)
    cases first with
    | blank | comment | stray => simpa [layout] using others
    | closedString | openString | number =>
      intro t member isName
      simp only [layout, List.mem_cons] at member
      rcases member with rfl | member
      · cases isName
      · exact others t member isName
    | @word c tail _ starts continues _ =>
      intro t member isName
      simp only [layout, List.mem_cons] at member
      rcases member with rfl | member
      · have noKeyword : TokenKind.keyword? (String.ofList (c :: tail)) = none := by
          cases keyword : TokenKind.keyword? (String.ofList (c :: tail)) with
          | none => rfl
          | some k =>
            simp only [keyword, Option.getD_some] at isName
            exact absurd (isName ▸ keyword) (TokenKind.keyword?_ne_identifier _)
        exact ⟨c, tail, String.toList_ofList .., starts, continues, noKeyword⟩
      · exact others t member isName
    | pair operator =>
      have kinds : ∀ p ∈ TokenKind.pairs, p.2.2 ≠ .identifier := by decide
      intro t member isName
      simp only [layout, List.mem_cons] at member
      rcases member with rfl | member
      · exact absurd isName (kinds _ operator)
      · exact others t member isName
    | single operator =>
      have kinds : ∀ p ∈ TokenKind.singles, p.2 ≠ .identifier := by decide
      intro t member isName
      simp only [layout, List.mem_cons] at member
      rcases member with rfl | member
      · exact absurd isName (kinds _ operator)
      · exact others t member isName

end Lexeme

/-- Every identifier token of a scanned text spells a name. -/
theorem Token.scan_named (s : String) : Named (Token.scan s).1 := by
  obtain ⟨pieces, cut, scanned, -⟩ := Token.scan_cut s
  rw [scanned]
  intro t member isName
  rcases List.mem_append.1 member with member | member
  · exact Lexeme.layout_named cut [] t member isName
  · simp only [List.mem_singleton] at member
    subst member
    cases isName

end GameScript

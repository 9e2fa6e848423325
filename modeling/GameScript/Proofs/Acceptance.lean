import Mathlib.Order.Filter.AtTopBot.Basic
import Mathlib.Data.List.TakeWhile
import GameScript.Proofs.Reading

/-!
# The reader accepts exactly the programs of the grammar

The completeness half of acceptance: for every derivation of the grammar of
`GameScript.Proofs.Grammar`, the reader of `GameScript.Syntax.Parse`, given
enough frames of host stack, reads exactly the derived phrase.  "Enough
frames" is the filter `atTop`: a statement `∀ᶠ b in atTop, P b` says that `P`
holds from some number of frames on.  Every rule of the reader that enters a
nested phrase uses one frame, so a derivation is read once the frames exceed
its nesting; the proofs go by induction on the derivations.

Together with the soundness half of `GameScript.Proofs.Reading` this gives
`declarations_ok_iff_program`: leaving aside the failure for nesting past the
host stack, the reader accepts a token list exactly when the tokens before
its first end-of-input token form a program of the grammar.
-/

namespace GameScript.Grammar

open Parse Filter

/-- A property that holds from some number of frames on holds from one fewer on. -/
theorem eventually_of_succ {P : ℕ → Prop} (h : ∀ᶠ b in atTop, P (b + 1)) :
    ∀ᶠ b in atTop, P b := by
  rw [← map_add_atTop_eq_nat 1]
  exact h

/-- With enough frames, a reader reads `ts` and leaves exactly `rest`, on streams ending in `e`. -/
def Reads (e : Token) (run : Nat → List Token → Except SyntaxError (α × List Token))
    (ts rest : List Token) : Prop :=
  ∀ᶠ b in atTop, ∃ x, run b (ts ++ [e]) = .ok (x, rest ++ [e])

/-- Like `Reads`, for a repetition that carries what it has read so far. -/
def ReadsFrom (e : Token) (run : Nat → β → List Token → Except SyntaxError (α × List Token))
    (ts rest : List Token) : Prop :=
  ∀ᶠ b in atTop, ∀ acc, ∃ x, run b acc (ts ++ [e]) = .ok (x, rest ++ [e])

/-! ## Expressions -/

/-- A primary expression starts with a literal, a name or `(`, never a prefix operator. -/
theorem Primary.not_unaryOperator (primary : Primary (t :: ts) rest) :
    prefixOp? t.kind = none := by
  cases primary with
  | literal isLiteral =>
      rcases isLiteral with h | h | h | h <;> simp [h, prefixOp?]
  | name isName _ => simp [isName, prefixOp?]
  | call isName _ => simp [isName, prefixOp?]
  | group opening _ _ => simp [opening, prefixOp?]

/-- An expression is read one frame above its comparisons. -/
theorem Reads.expression (read : Reads e (Level.reader .comparison) ts rest) :
    Reads e Parse.expression ts rest := by
  apply eventually_of_succ
  filter_upwards [read] with b ⟨x, readComparison⟩
  exact ⟨x, by rw [Parse.expression.eq_2]; exact readComparison⟩

theorem StartsExpression.ne_rightParen (starts : StartsExpression k) : k ≠ .rightParen := by
  rintro rfl
  simp [StartsExpression, IsUnaryOperator, IsLiteral] at starts

theorem literal?_eq_none (notLiteral : ¬ IsLiteral t.kind) : literal? t = none :=
  Option.not_isSome_iff_eq_none.1 (mt (fun isSome => ((literal?_isSome t).1 isSome).1) notLiteral)

variable {e : Token}

mutual

theorem Binary.reads (he : e.kind = .endOfInput) :
    Binary level ts rest → Clean ts → Reads e level.reader ts rest
  | .chain operand chain, clean => by
      apply eventually_of_succ
      filter_upwards [operand.reads he clean, chain.reads he (clean.of_suffix operand.suffix)]
        with b ⟨left, readLeft⟩ readChain
      obtain ⟨x, readRest⟩ := readChain left
      exact ⟨x, by rw [Level.reader_succ, readLeft, ok_bind]; exact readRest⟩

theorem Chain.reads (he : e.kind = .endOfInput) :
    Chain level ts rest → Clean ts → ReadsFrom e level.tail ts rest
  | @Chain.stop level ts stops, clean => by
      refine Eventually.of_forall fun b left => ⟨left, ?_⟩
      rw [Level.tail_eq]
      cases ts with
      | nil => simp [atEnd_single he]
      | cons t ts =>
          have none : level.operator? t.kind = none := by
            simpa [← Level.operator?_isSome] using stops
          simp [atEnd_cons clean.head, none]
  | @Chain.link level operator ts mid _ joins operand chain, clean => by
      filter_upwards [operand.reads he clean.tail,
        chain.reads he (clean.tail.of_suffix operand.suffix)]
        with b ⟨right, readRight⟩ readChain
      intro left
      obtain ⟨op, isOperator⟩ := Option.isSome_iff_exists.1 ((Level.operator?_isSome ..).2 joins)
      obtain ⟨x, readRest⟩ := readChain (.binary op left right operator.position)
      refine ⟨x, ?_⟩
      rw [Level.tail_eq]
      simp only [List.cons_append, atEnd_cons clean.head, peek_cons, Bool.false_eq_true,
        if_false, isOperator, advance_cons clean.head, readRight, ok_bind,
        stream_shorter operand.suffix,
        dif_pos]
      exact readRest

theorem Operand.reads (he : e.kind = .endOfInput) :
    Operand level ts rest → Clean ts → Reads e level.operandReader ts rest
  | .sum sum, clean => sum.reads he clean
  | .product product, clean => product.reads he clean
  | .unary unary, clean => unary.reads he clean

theorem Unary.reads (he : e.kind = .endOfInput) :
    Unary ts rest → Clean ts → Reads e Parse.unary ts rest
  | @Unary.prefixed operator ts _ isOperator operand, clean => by
      apply eventually_of_succ
      filter_upwards [operand.reads he clean.tail] with b ⟨x, readOperand⟩
      obtain ⟨op, prefixed⟩ := Option.isSome_iff_exists.1 ((prefixOp?_isSome _).2 isOperator)
      refine ⟨.unary op x operator.position, ?_⟩
      rw [Parse.unary.eq_2]
      simp only [List.cons_append, atEnd_cons clean.head, peek_cons, Bool.false_eq_true,
        if_false, prefixed, advance_cons clean.head, readOperand, ok_bind]
      rfl
  | .primary primary, clean => by
      apply eventually_of_succ
      filter_upwards [primary.reads he clean] with b ⟨x, readPrimary⟩
      refine ⟨x, ?_⟩
      obtain ⟨t, ts', rfl, _, _⟩ := primary.starts
      rw [Parse.unary.eq_2]
      simp only [List.cons_append, atEnd_cons clean.head, peek_cons, Bool.false_eq_true,
        if_false, primary.not_unaryOperator]
      exact readPrimary

/--
A primary phrase is read by `Parse.primary`; a name stands alone when the next
token, if any, is not `(`.
-/
theorem Primary.reads (he : e.kind = .endOfInput) :
    Primary ts rest → Clean ts → Reads e Parse.primary ts rest
  | @Primary.literal t _ isLiteral, clean => by
      have notEnd := clean.head
      obtain ⟨lit, isSome⟩ := Option.isSome_iff_exists.1 ((literal?_isSome t).2 isLiteral)
      apply eventually_of_succ
      refine Eventually.of_forall fun b => ⟨.literal lit t.position, ?_⟩
      rw [Parse.primary.eq_2]
      simp only [List.cons_append, atEnd_cons notEnd, peek_cons, Bool.false_eq_true, if_false,
        isSome, advance_cons notEnd]
  | @Primary.name t ts isName notCall, clean => by
      have notEnd := clean.head
      have notLiteral := literal?_eq_none (t := t) (by simp [IsLiteral, isName])
      apply eventually_of_succ
      refine Eventually.of_forall fun b => ⟨.identifier t.text t.position, ?_⟩
      rw [Parse.primary.eq_2]
      simp only [List.cons_append, atEnd_cons notEnd, peek_cons, Bool.false_eq_true, if_false,
        notLiteral, check_cons notEnd, isName, beq_self_eq_true, if_true, advance_cons notEnd]
      cases ts with
      | nil => simp [check_single he]
      | cons u ts => simp [check_cons clean.tail.head, notCall u rfl]
  | @Primary.call t ts _ isName arguments, clean => by
      have notEnd := clean.head
      have notLiteral := literal?_eq_none (t := t) (by simp [IsLiteral, isName])
      have argumentsRead := arguments.reads he clean.tail
      obtain ⟨u, ts', rfl, opening⟩ := arguments.starts
      apply eventually_of_succ
      filter_upwards [argumentsRead] with b ⟨args, readArgs⟩
      refine ⟨.call t.text args t.position, ?_⟩
      rw [Parse.primary.eq_2]
      simp only [List.cons_append, atEnd_cons notEnd, peek_cons, Bool.false_eq_true, if_false,
        notLiteral, check_cons notEnd]
      simp only [isName, beq_self_eq_true, if_true, advance_cons notEnd,
        check_cons clean.tail.head, opening]
      rw [← List.cons_append, readArgs]
      rfl
  | @Primary.group opening ts close _ isOpening inner isClose, clean => by
      have notEnd := clean.head
      have notLiteral := literal?_eq_none (t := opening) (by simp [IsLiteral, isOpening])
      apply eventually_of_succ
      filter_upwards [(inner.reads he clean.tail).expression] with b ⟨x, readInner⟩
      refine ⟨x, ?_⟩
      rw [Parse.primary.eq_2]
      simp only [List.cons_append, atEnd_cons notEnd, peek_cons, Bool.false_eq_true, if_false,
        notLiteral, check_cons notEnd]
      simp only [isOpening, beq_iff_eq, reduceCtorEq, if_true, if_false, advance_cons notEnd,
        readInner, ok_bind, List.cons_append, expect_cons isClose (by simp)]
      rfl

theorem Arguments.reads (he : e.kind = .endOfInput) :
    Arguments ts rest → Clean ts → Reads e Parse.arguments ts rest
  | @Arguments.empty opening close _ isOpening isClose, clean => by
      apply eventually_of_succ
      refine Eventually.of_forall fun b => ⟨[], ?_⟩
      rw [Parse.arguments.eq_2]
      simp only [List.cons_append, expect_cons isOpening (by simp), ok_bind,
        check_cons clean.tail.head, isClose, beq_self_eq_true, if_true,
        expect_cons isClose (by simp)]
      rfl
  | @Arguments.list opening ts mid close _ isOpening first more isClose, clean => by
      have firstRead := (first.reads he clean.tail).expression
      have moreRead := more.reads he (clean.tail.of_suffix first.suffix)
      obtain ⟨t, ts', rfl, starts, _⟩ := first.starts
      apply eventually_of_succ
      filter_upwards [firstRead, moreRead] with b ⟨x, readFirst⟩ readMore
      obtain ⟨args, readArgs⟩ := readMore [x]
      refine ⟨args, ?_⟩
      rw [Parse.arguments.eq_2]
      simp only [List.cons_append, expect_cons isOpening (by simp), ok_bind,
        check_cons clean.tail.head, beq_iff_eq, starts.ne_rightParen, if_false]
      rw [← List.cons_append, readFirst, ok_bind, readArgs, ok_bind, List.cons_append,
        expect_cons isClose (by simp)]
      rfl

theorem MoreArguments.reads (he : e.kind = .endOfInput) :
    MoreArguments ts rest → Clean ts → ReadsFrom e Parse.argumentsTail ts rest
  | @MoreArguments.stop ts notComma, clean => by
      refine Eventually.of_forall fun b acc => ⟨acc, ?_⟩
      rw [Parse.argumentsTail]
      cases ts with
      | nil => simp [check_single he]
      | cons t ts => simp [check_cons clean.head, notComma t rfl]
  | @MoreArguments.comma separator ts mid _ isComma next more, clean => by
      filter_upwards [(next.reads he clean.tail).expression,
        more.reads he (clean.tail.of_suffix next.suffix)] with b ⟨x, readNext⟩ readMore
      intro acc
      obtain ⟨args, readRest⟩ := readMore (acc ++ [x])
      refine ⟨args, ?_⟩
      rw [Parse.argumentsTail]
      simp only [List.cons_append, check_cons clean.head, isComma, beq_self_eq_true, if_true,
        advance_cons clean.head, readNext, ok_bind, stream_shorter next.suffix, dif_pos]
      exact readRest

end

/-! ## Statements -/

/--
After a token that starts no assignment and no call, the reader sees neither:
the token is not a name, or the token after it is neither an assignment
operator nor `(`.
-/
theorem neither_assignment_nor_call (he : e.kind = .endOfInput)
    (notStart : t.kind = .identifier →
      ∀ u ∈ ts.head?, ¬ IsAssignment u.kind ∧ u.kind ≠ .leftParen) :
    (t.kind == .identifier && (assignOp? (peekNext (t :: (ts ++ [e]))).kind).isSome) = false ∧
      (t.kind == .identifier && (peekNext (t :: (ts ++ [e]))).kind == .leftParen) = false := by
  by_cases isName : t.kind = .identifier
  · cases ts with
    | nil => simp [he, assignOp?]
    | cons u ts =>
        obtain ⟨notAssignment, notOpening⟩ := notStart isName u rfl
        have noOperator : assignOp? u.kind = none :=
          Option.not_isSome_iff_eq_none.1 (mt (assignOp?_isSome _).1 notAssignment)
        simp [noOperator, notOpening]
  · simp [isName]

mutual

theorem Block.reads (he : e.kind = .endOfInput) :
    Block ts rest → Clean ts → Reads e Parse.block ts rest
  | @Block.braces opening ts close _ isOpening body isClose, clean => by
      have bodyRead := body.reads he clean.tail
      apply eventually_of_succ
      filter_upwards [bodyRead] with b readBody
      obtain ⟨stmts, readStatements⟩ := readBody []
      refine ⟨stmts, ?_⟩
      rw [Parse.block.eq_2]
      simp only [List.cons_append, expect_cons isOpening (by simp), ok_bind]
      rw [readStatements, ok_bind, List.cons_append, expect_cons isClose (by simp)]
      rfl

theorem Statements.reads (he : e.kind = .endOfInput) :
    Statements ts rest → Clean ts → ReadsFrom e Parse.statements ts rest
  | @Statements.stop ts stops, clean => by
      refine Eventually.of_forall fun b acc => ⟨acc, ?_⟩
      rw [Parse.statements]
      cases ts with
      | nil => simp [atEnd_single he]
      | cons t ts => simp [check_cons clean.head, stops t rfl]
  | @Statements.next ts mid _ statement more, clean => by
      have statementRead := statement.reads he clean
      have moreRead := more.reads he (clean.of_suffix statement.suffix)
      obtain ⟨t, ts', rfl, notClose, shorter⟩ := statement.starts
      filter_upwards [statementRead, moreRead] with b ⟨x, readStatement⟩ readMore
      intro acc
      obtain ⟨xs, readRest⟩ := readMore (acc ++ [x])
      refine ⟨xs, ?_⟩
      rw [Parse.statements]
      simp only [List.cons_append, check_cons clean.head, atEnd_cons clean.head, beq_iff_eq,
        notClose, Bool.or_false, if_false]
      simp only [List.cons_append] at readStatement
      simp only [readStatement, ok_bind, stream_shorter shorter, dif_pos]
      exact readRest

theorem Statement.reads (he : e.kind = .endOfInput) :
    Statement ts rest → Clean ts → Reads e Parse.statement ts rest
  | @Statement.ifThen keyword ts mid _ isIf condition body, clean => by
      have conditionRead := (condition.reads he clean.tail).expression
      have bodyRead := body.reads he (clean.tail.of_suffix condition.suffix)
      apply eventually_of_succ
      apply eventually_of_succ
      filter_upwards [conditionRead, bodyRead] with b ⟨x, readCondition⟩ ⟨stmts, readBody⟩
      refine ⟨.ifThen x stmts keyword.position.line, ?_⟩
      rw [Parse.statement.eq_2, Parse.ifStatement.eq_2]
      simp only [List.cons_append, check_cons clean.head, isIf, beq_self_eq_true, if_true,
        expect_cons isIf (by simp), ok_bind, readCondition, readBody]
      rfl
  | @Statement.assign target operator ts semicolon _ isTarget isAssignment value isSemicolon,
      clean => by
      have valueRead := (value.reads he clean.tail.tail).expression
      obtain ⟨op, isOperator⟩ := Option.isSome_iff_exists.1 ((assignOp?_isSome _).2 isAssignment)
      apply eventually_of_succ
      apply eventually_of_succ
      filter_upwards [valueRead] with b ⟨x, readValue⟩
      refine ⟨.assign target.text op x target.position.line, ?_⟩
      rw [Parse.statement.eq_2, Parse.assignment.eq_2]
      simp only [List.cons_append, check_cons clean.head, isTarget, beq_iff_eq, reduceCtorEq,
        if_false, peekNext_cons_cons, isOperator, Option.isSome_some, Bool.and_true, if_true,
        peek_cons, Option.getD_some, advance_cons clean.head,
        advance_cons clean.tail.head, readValue, ok_bind, expect_cons isSemicolon (by simp)]
      rfl
  | @Statement.call function ts semicolon _ isName args isSemicolon, clean => by
      have argsRead := args.reads he clean.tail
      obtain ⟨u, ts', rfl, opening, _⟩ := args.starts
      have notAssignment : assignOp? .leftParen = none := rfl
      apply eventually_of_succ
      apply eventually_of_succ
      filter_upwards [argsRead] with b ⟨xs, readArgs⟩
      refine ⟨.call function.text xs function.position.line, ?_⟩
      rw [Parse.statement.eq_2, Parse.callStatement.eq_2]
      simp only [List.cons_append, check_cons clean.head, isName, beq_iff_eq, reduceCtorEq,
        Bool.false_eq_true, if_false, peekNext_cons_cons, opening, notAssignment,
        Option.isSome_none, Bool.and_false, peek_cons, advance_cons clean.head]
      rw [← List.cons_append, readArgs, ok_bind, List.cons_append,
        expect_cons isSemicolon (by simp)]
      rfl
  | @Statement.unknown t ts notIf _ notStart, clean => by
      obtain ⟨notAssignment, notCall⟩ := neither_assignment_nor_call he notStart
      apply eventually_of_succ
      refine Eventually.of_forall fun b => ⟨.unknown t.text t.position.line, ?_⟩
      rw [Parse.statement.eq_2]
      simp only [List.cons_append, check_cons clean.head, beq_iff_eq, notIf, Bool.false_eq_true,
        if_false, notAssignment, notCall, peek_cons, advance_cons clean.head]

end

/-! ## Declarations -/

/-- Parameters are read in pairs of names while a comma follows, with no frame of their own. -/
theorem Parameters.reads (he : e.kind = .endOfInput) (derivation : Parameters ts rest) :
    Clean ts → ∀ params, ∃ x, Parse.parameters params (ts ++ [e]) = .ok (x, rest ++ [e]) := by
  induction derivation with
  | @last type name ts isType isName notComma =>
      intro clean params
      refine ⟨params ++ [⟨type.text, name.text⟩], ?_⟩
      rw [Parse.parameters]
      simp only [List.cons_append, name_cons isType, ok_bind, name_cons isName]
      cases ts with
      | nil => simp [check_single he]
      | cons t ts => simp [check_cons clean.tail.tail.head, notComma t rfl]
  | @more type name separator ts _ isType isName isComma _ others =>
      intro clean params
      obtain ⟨x, readOthers⟩ := others clean.tail.tail.tail (params ++ [⟨type.text, name.text⟩])
      refine ⟨x, ?_⟩
      rw [Parse.parameters]
      simp only [List.cons_append, name_cons isType, ok_bind, name_cons isName,
        check_cons clean.tail.tail.head, isComma, beq_self_eq_true, if_true,
        advance_cons clean.tail.tail.head]
      rw [dif_pos (by simp)]
      exact readOthers

/--
A field phrase is read by `Parse.field`; without an initial value the reader
goes on to its semicolon.
-/
theorem Field.reads (he : e.kind = .endOfInput) (derivation : Field ts rest) (clean : Clean ts) :
    Reads e Parse.field ts rest := by
  cases derivation with
  | @plain type name semicolon _ isType isName isSemicolon =>
      apply eventually_of_succ
      refine Eventually.of_forall fun b => ⟨⟨type.text, name.text, none, type.position.line⟩, ?_⟩
      rw [Parse.field.eq_2]
      simp only [List.cons_append, name_cons isType, ok_bind, name_cons isName,
        check_cons clean.tail.tail.head, isSemicolon, beq_iff_eq, reduceCtorEq, if_false]
      simp only [LawfulMonad.pure_bind, expect_cons isSemicolon (by simp), ok_bind]
      rfl
  | @initialized type name assign ts semicolon _ isType isName isAssign value isSemicolon =>
      apply eventually_of_succ
      filter_upwards [(value.reads he clean.tail.tail.tail).expression] with b ⟨x, readValue⟩
      refine ⟨⟨type.text, name.text, some x, type.position.line⟩, ?_⟩
      rw [Parse.field.eq_2]
      simp only [List.cons_append, name_cons isType, ok_bind, name_cons isName,
        check_cons clean.tail.tail.head, isAssign, beq_self_eq_true, if_true,
        advance_cons clean.tail.tail.head, readValue, LawfulMonad.pure_bind,
        expect_cons isSemicolon (by simp)]
      rfl

theorem Method.reads (he : e.kind = .endOfInput) (derivation : Method ts rest)
    (clean : Clean ts) : Reads e Parse.method ts rest := by
  cases derivation with
  | @bare keyword name opening close ts _ isKeyword isName isOpening isClose body =>
      apply eventually_of_succ
      filter_upwards [body.reads he clean.tail.tail.tail.tail] with b ⟨stmts, readBody⟩
      refine ⟨⟨name.text, [], stmts, keyword.position.line⟩, ?_⟩
      rw [Parse.method.eq_2]
      simp only [List.cons_append, expect_cons isKeyword (by simp), ok_bind, name_cons isName,
        expect_cons isOpening (by simp), check_cons clean.tail.tail.tail.head, isClose,
        beq_self_eq_true, if_true, LawfulMonad.pure_bind, expect_cons isClose (by simp),
        readBody]
      rfl
  | @withParameters keyword name opening ts close mid _ isKeyword isName isOpening params
      isClose body =>
      have clean' := clean.tail.tail.tail
      obtain ⟨xs, readParams⟩ := params.reads he clean' []
      have bodyRead := body.reads he (clean'.of_suffix params.suffix).tail
      obtain ⟨type, ts', rfl, isType, _⟩ := params.starts
      apply eventually_of_succ
      filter_upwards [bodyRead] with b ⟨stmts, readBody⟩
      refine ⟨⟨name.text, xs, stmts, keyword.position.line⟩, ?_⟩
      rw [Parse.method.eq_2]
      simp only [List.cons_append, expect_cons isKeyword (by simp), ok_bind, name_cons isName,
        expect_cons isOpening (by simp), check_cons clean'.head, isType, beq_iff_eq,
        reduceCtorEq, if_false]
      rw [← List.cons_append, readParams, ok_bind, List.cons_append,
        expect_cons isClose (by simp), ok_bind, readBody]
      rfl

/-- Members are read one after another, each with the frames of the component. -/
theorem Members.reads (he : e.kind = .endOfInput) (derivation : Members ts rest) :
    Clean ts → ∀ᶠ b in atTop, ∀ fields methods,
      ∃ x, Parse.members b fields methods (ts ++ [e]) = .ok (x, rest ++ [e]) := by
  induction derivation with
  | @stop ts stops =>
      intro clean
      exact Eventually.of_forall fun b fields methods => ⟨(fields, methods), by
        rw [Parse.members]
        cases ts with
        | nil => simp [atEnd_single he]
        | cons t ts => simp [check_cons clean.head, stops t rfl]⟩
  | @method ts mid _ first _ others =>
      intro clean
      have methodRead := first.reads he clean
      have moreRead := others (clean.of_suffix first.suffix)
      obtain ⟨t, ts', rfl, isKeyword, shorter⟩ := first.starts
      filter_upwards [methodRead, moreRead] with b methodAt readMore
      intro fields methods
      obtain ⟨m, readMethod⟩ := methodAt
      obtain ⟨x, readRest⟩ := readMore fields (methods ++ [m])
      refine ⟨x, ?_⟩
      rw [Parse.members]
      simp only [List.cons_append] at readMethod
      simp only [List.cons_append, check_cons clean.head, atEnd_cons clean.head, isKeyword,
        beq_iff_eq, reduceCtorEq, Bool.or_false, if_false, if_true, readMethod,
        stream_shorter shorter, dif_pos]
      exact readRest
  | @field ts mid _ first _ others =>
      intro clean
      have fieldRead := first.reads he clean
      have moreRead := others (clean.of_suffix first.suffix)
      obtain ⟨t, ts', rfl, isType, shorter⟩ := first.starts
      filter_upwards [fieldRead, moreRead] with b fieldAt readMore
      intro fields methods
      obtain ⟨f, readField⟩ := fieldAt
      obtain ⟨x, readRest⟩ := readMore (fields ++ [f]) methods
      refine ⟨x, ?_⟩
      rw [Parse.members]
      simp only [List.cons_append] at readField
      simp only [List.cons_append, check_cons clean.head, atEnd_cons clean.head, isType,
        beq_iff_eq, reduceCtorEq, Bool.or_false, if_false, readField,
        stream_shorter shorter, dif_pos]
      exact readRest

theorem Component.reads (he : e.kind = .endOfInput) (derivation : Component ts rest)
    (clean : Clean ts) : ReadsFrom e Parse.component ts rest := by
  cases derivation with
  | @braces name opening ts close _ isName isOpening members isClose =>
      apply eventually_of_succ
      filter_upwards [members.reads he clean.tail.tail] with b readMembers
      intro start
      obtain ⟨⟨fields, methods⟩, readAll⟩ := readMembers [] []
      refine ⟨⟨name.text, fields, methods, start.position.line⟩, ?_⟩
      rw [Parse.component.eq_2]
      simp only [List.cons_append, name_cons isName, ok_bind, expect_cons isOpening (by simp),
        readAll, expect_cons isClose (by simp)]
      rfl

/-- With enough frames, the reader reads every program to its end. -/
theorem Program.reads (he : e.kind = .endOfInput) :
    Program ts → Clean ts →
      ∀ᶠ b in atTop, ∀ found, ∃ ds, Parse.declarations b found (ts ++ [e]) = .ok ds
  | .nil, _ =>
      Eventually.of_forall fun b found => ⟨found, by
        rw [Parse.declarations]
        simp [atEnd_single he]⟩
  | @Program.component keyword ts _ isKeyword declared more, clean => by
      have componentRead := declared.reads he clean.tail
      filter_upwards [componentRead, more.reads he (clean.tail.of_suffix declared.suffix)]
        with b readComponent readMore
      intro found
      obtain ⟨d, readDeclaration⟩ := readComponent keyword
      obtain ⟨ds, readRest⟩ := readMore (found ++ [d])
      refine ⟨ds, ?_⟩
      rw [Parse.declarations]
      simp only [List.cons_append, atEnd_cons clean.head, Bool.false_eq_true, if_false,
        check_cons clean.head, isKeyword, beq_self_eq_true, if_true, peek_cons,
        advance_cons clean.head, readDeclaration, stream_shorter declared.suffix, dif_pos]
      exact readRest
  | @Program.skip t ts notKeyword more, clean => by
      filter_upwards [more.reads he clean.tail] with b readMore
      intro found
      obtain ⟨ds, readRest⟩ := readMore found
      refine ⟨ds, ?_⟩
      rw [Parse.declarations]
      simp only [List.cons_append, atEnd_cons clean.head, Bool.false_eq_true, if_false,
        check_cons clean.head, beq_iff_eq, notKeyword, advance_cons clean.head,
        stream_shorter (List.suffix_refl ts), dif_pos]
      exact readRest

/-! ## Acceptance -/

/--
The stream of a token list is its tokens before the first end-of-input token,
then one such token.
-/
theorem stream_eq_takeWhile (tokens : List Token) :
    ∃ e, e.kind = .endOfInput ∧
      stream tokens = tokens.takeWhile (·.kind != .endOfInput) ++ [e] := by
  unfold stream
  split
  · next i found =>
      obtain ⟨bound, first⟩ := List.findIdx?_eq_some_iff_findIdx_eq.1 found
      have isEnd : tokens[i].kind = .endOfInput := by
        have := List.findIdx_getElem (p := fun t : Token => t.kind == .endOfInput)
          (w := first ▸ bound)
        simp only [first] at this
        simpa using this
      refine ⟨tokens[i], isEnd, ?_⟩
      have sameTest : (fun t : Token => !(t.kind != .endOfInput)) = (·.kind == .endOfInput) := by
        funext t
        simp [bne]
      rw [List.takeWhile_eq_take_findIdx_not, sameTest, first, List.take_add_one,
        List.getElem?_eq_getElem bound]
      rfl
  · next notFound =>
      have clean : ∀ t ∈ tokens, t.kind ≠ .endOfInput := by
        simpa using List.findIdx?_eq_none_iff.1 notFound
      rw [List.takeWhile_eq_self_iff.2 (by simpa using clean)]
      split
      · exact ⟨_, rfl, rfl⟩
      · next noLast => exact ⟨endToken {}, rfl, by simp [List.getLast?_eq_none_iff.1 noLast]⟩

theorem clean_takeWhile (tokens : List Token) :
    Clean (tokens.takeWhile (·.kind != .endOfInput)) := fun _ member => by
  simpa using List.mem_takeWhile_imp member

/--
Acceptance: leaving aside the failure for nesting deeper than the frames
given, the reader accepts a token list exactly when its tokens before the
first end-of-input token form a program of the grammar.
-/
theorem declarations_ok_iff_program (tokens : List Token) :
    (∃ frames found, Parse.declarations frames [] (stream tokens) = .ok found) ↔
      Program (tokens.takeWhile (·.kind != .endOfInput)) := by
  obtain ⟨e, he, split⟩ := stream_eq_takeWhile tokens
  rw [split]
  constructor
  · rintro ⟨frames, found, read⟩
    exact declarations_sound he frames [] _ found (clean_takeWhile tokens) read
  · intro program
    obtain ⟨frames, read⟩ := (program.reads he (clean_takeWhile tokens)).exists
    exact ⟨frames, read []⟩

end GameScript.Grammar

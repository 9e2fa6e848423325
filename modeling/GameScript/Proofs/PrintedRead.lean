import GameScript.Proofs.PrintedScan
import GameScript.Proofs.Acceptance

/-!
# Reading printed expressions back

`GameScript.Proofs.PrintedScan` shows that the printed form of an expression
scans to the tokens of its spelling.  This module shows that the reader reads
any token list of that spelling back as the same expression, positions apart,
and measures what that takes of the host stack.  Every rule of the reader
spends one frame, so the printed form of an expression needs six frames for
the rules from an expression down to a primary one, six more for each
operation in parentheses, and one more for each prefix operator and each
argument list (`Expr.frames`); `GameScript.Proofs.PrintedDepth` shows that
with fewer the reader fails.

The proofs follow the reader's rules.  A spelling is read by the primary rule
(`primary_spelling`), by mutual structural recursion on the expression and
its argument lists; the binary levels between an expression and a primary one
are crossed by lifting lemmas that need only that the token after the phrase
joins no level they pass.
-/

namespace GameScript

/-! ## Positions apart, and the frames of a printed form -/

mutual

/-- The expression with every position set to the first line and column. -/
def Expr.strip : Expr → Expr
  | .literal value _ => .literal value {}
  | .identifier name _ => .identifier name {}
  | .unary op operand _ => .unary op operand.strip {}
  | .binary op left right _ => .binary op left.strip right.strip {}
  | .call name args _ => .call name (Expr.stripList args) {}

/-- Each expression of a list with its positions set to the first line and column. -/
def Expr.stripList : List Expr → List Expr
  | [] => []
  | e :: rest => e.strip :: Expr.stripList rest

end

@[simp]
theorem Expr.stripList_eq_map (es : List Expr) : Expr.stripList es = es.map Expr.strip := by
  induction es with
  | nil => rfl
  | cons e rest ih => simp [Expr.stripList, ih]

mutual

/--
The frames of host stack that reading the printed form of an expression takes:
six from the expression rule down to the primary one, six more for each
operation in parentheses, and one more for a prefix operator or an argument list.
-/
def Expr.frames : Expr → Nat
  | .literal .. | .identifier .. => 6
  | .unary _ operand _ => operand.frames + 7
  | .binary _ left right _ => max left.frames right.frames + 6
  | .call _ args _ => Expr.framesList args + 7

/-- The frames the printed arguments of a call take: those of the deepest one. -/
def Expr.framesList : List Expr → Nat
  | [] => 0
  | e :: rest => max e.frames (Expr.framesList rest)

end

theorem Expr.six_le_frames (e : Expr) : 6 ≤ e.frames := by
  cases e <;> simp only [Expr.frames] <;> omega

theorem Expr.framesList_cons (e : Expr) (es : List Expr) :
    Expr.framesList (e :: es) = max e.frames (Expr.framesList es) := rfl

/-! ## Spellings token by token -/

theorem Token.shape_eq {t : Token} {k : TokenKind} {s : String} :
    t.shape = (k, s) ↔ t.kind = k ∧ t.text = s := by
  simp [Token.shape]

/-- The tokens of expressions each printed after a comma. -/
def Expr.commaSpelling (es : List Expr) : List (TokenKind × String) :=
  es.flatMap fun e => (.comma, ",") :: e.spelling

theorem Expr.commaSpelling_cons (e : Expr) (es : List Expr) :
    Expr.commaSpelling (e :: es) = (.comma, ",") :: (e.spelling ++ Expr.commaSpelling es) := by
  simp [Expr.commaSpelling]

theorem Expr.spellingList_cons (e : Expr) (es : List Expr) :
    Expr.spellingList (e :: es) = e.spelling ++ Expr.commaSpelling es := by
  induction es generalizing e with
  | nil => simp [Expr.spellingList, Expr.commaSpelling]
  | cons f more ih => simp [Expr.spellingList, Expr.commaSpelling_cons, ih f]

/-- A printed expression starts with a literal, a name or `(`: never with `)`, a prefix operator or the end of input. -/
theorem Expr.spelling_head (e : Expr) :
    ∃ k s more, e.spelling = (k, s) :: more ∧ k ≠ .endOfInput ∧ k ≠ .rightParen ∧
      Parse.prefixOp? k = none := by
  cases e with
  | literal value _ =>
    cases value with
    | number x => exact ⟨_, _, [], rfl, by decide, by decide, rfl⟩
    | text s => exact ⟨_, _, [], rfl, by decide, by decide, rfl⟩
    | boolean b => cases b <;> exact ⟨_, _, [], rfl, by decide, by decide, rfl⟩
  | identifier name _ => exact ⟨_, _, [], rfl, by decide, by decide, rfl⟩
  | unary op operand _ => exact ⟨_, _, _, rfl, by decide, by decide, rfl⟩
  | binary op left right _ => exact ⟨_, _, _, rfl, by decide, by decide, rfl⟩
  | call name args _ => exact ⟨_, _, _, rfl, by decide, by decide, rfl⟩

theorem Expr.spelled_head {e : Expr} {ts : List Token} (spelled : ts.map Token.shape = e.spelling) :
    ∃ t more, ts = t :: more ∧ t.kind ≠ .endOfInput ∧ t.kind ≠ .rightParen ∧
      Parse.prefixOp? t.kind = none := by
  obtain ⟨k, s, _, head, notEnd, notClose, noPrefix⟩ := e.spelling_head
  rw [head] at spelled
  obtain ⟨t, more, rfl, shape, -⟩ := List.map_eq_cons_iff.1 spelled
  obtain ⟨kind, -⟩ := Token.shape_eq.1 shape
  exact ⟨t, more, rfl, kind ▸ notEnd, kind ▸ notClose, kind ▸ noPrefix⟩

/-- Tokens spelling a prefix operation: `(`, the operator, the operand's tokens and `)`. -/
theorem Expr.spelled_unary {op : UnaryOp} {operand : Expr} {p : Position} {ts : List Token}
    (spelled : ts.map Token.shape = (Expr.unary op operand p).spelling) :
    ∃ opening o tx close, ts = opening :: o :: (tx ++ [close]) ∧ opening.kind = .leftParen ∧
      o.kind = op.tokenKind ∧ tx.map Token.shape = operand.spelling ∧ close.kind = .rightParen := by
  simp only [Expr.spelling, List.cons_append] at spelled
  obtain ⟨opening, ts, rfl, openShape, spelled⟩ := List.map_eq_cons_iff.1 spelled
  obtain ⟨o, ts, rfl, opShape, spelled⟩ := List.map_eq_cons_iff.1 spelled
  obtain ⟨tx, ts, rfl, operandSpelled, spelled⟩ := List.map_eq_append_iff.1 spelled
  obtain ⟨close, rfl, closeShape⟩ := List.map_eq_singleton_iff.1 spelled
  exact ⟨opening, o, tx, close, rfl, (Token.shape_eq.1 openShape).1, (Token.shape_eq.1 opShape).1,
    operandSpelled, (Token.shape_eq.1 closeShape).1⟩

/-- Tokens spelling a binary operation: `(`, the left operand's tokens, the operator, the right operand's tokens and `)`. -/
theorem Expr.spelled_binary {op : BinOp} {left right : Expr} {p : Position} {ts : List Token}
    (spelled : ts.map Token.shape = (Expr.binary op left right p).spelling) :
    ∃ opening tl o tr close, ts = opening :: (tl ++ o :: (tr ++ [close])) ∧
      opening.kind = .leftParen ∧ tl.map Token.shape = left.spelling ∧ o.kind = op.tokenKind ∧
      tr.map Token.shape = right.spelling ∧ close.kind = .rightParen := by
  simp only [Expr.spelling, List.cons_append, List.append_assoc] at spelled
  obtain ⟨opening, ts, rfl, openShape, spelled⟩ := List.map_eq_cons_iff.1 spelled
  obtain ⟨tl, ts, rfl, leftSpelled, spelled⟩ := List.map_eq_append_iff.1 spelled
  obtain ⟨o, ts, rfl, opShape, spelled⟩ := List.map_eq_cons_iff.1 spelled
  obtain ⟨tr, ts, rfl, rightSpelled, spelled⟩ := List.map_eq_append_iff.1 spelled
  obtain ⟨close, rfl, closeShape⟩ := List.map_eq_singleton_iff.1 spelled
  exact ⟨opening, tl, o, tr, close, rfl, (Token.shape_eq.1 openShape).1, leftSpelled,
    (Token.shape_eq.1 opShape).1, rightSpelled, (Token.shape_eq.1 closeShape).1⟩

/-- Tokens spelling a call: the function's name, `(`, the arguments' tokens and `)`. -/
theorem Expr.spelled_call {name : String} {args : List Expr} {p : Position} {ts : List Token}
    (spelled : ts.map Token.shape = (Expr.call name args p).spelling) :
    ∃ t opening targs close, ts = t :: opening :: (targs ++ [close]) ∧
      t.kind = .identifier ∧ t.text = name ∧ opening.kind = .leftParen ∧
      targs.map Token.shape = Expr.spellingList args ∧ close.kind = .rightParen := by
  simp only [Expr.spelling, List.cons_append] at spelled
  obtain ⟨t, ts, rfl, nameShape, spelled⟩ := List.map_eq_cons_iff.1 spelled
  obtain ⟨opening, ts, rfl, openShape, spelled⟩ := List.map_eq_cons_iff.1 spelled
  obtain ⟨targs, ts, rfl, argsSpelled, spelled⟩ := List.map_eq_append_iff.1 spelled
  obtain ⟨close, rfl, closeShape⟩ := List.map_eq_singleton_iff.1 spelled
  obtain ⟨nameKind, text⟩ := Token.shape_eq.1 nameShape
  exact ⟨t, opening, targs, close, rfl, nameKind, text, (Token.shape_eq.1 openShape).1, argsSpelled,
    (Token.shape_eq.1 closeShape).1⟩

/-- Tokens spelling arguments each after a comma: a comma, the first argument's tokens and the rest's. -/
theorem Expr.spelled_commaCons {e : Expr} {more : List Expr} {ts : List Token}
    (spelled : ts.map Token.shape = Expr.commaSpelling (e :: more)) :
    ∃ w te tmore, ts = w :: (te ++ tmore) ∧ w.kind = .comma ∧ te.map Token.shape = e.spelling ∧
      tmore.map Token.shape = Expr.commaSpelling more := by
  rw [Expr.commaSpelling_cons] at spelled
  obtain ⟨w, ts, rfl, commaShape, spelled⟩ := List.map_eq_cons_iff.1 spelled
  obtain ⟨te, tmore, rfl, firstSpelled, moreSpelled⟩ := List.map_eq_append_iff.1 spelled
  exact ⟨w, te, tmore, rfl, (Token.shape_eq.1 commaShape).1, firstSpelled, moreSpelled⟩

/-! ## Operators and their levels -/

namespace Grammar.Level

/-- The place of a level among the binary levels, loosest first. -/
def rank : Level → Nat
  | .comparison => 0
  | .sum => 1
  | .product => 2

/-- The frames between the operand reader of a level and the prefix rule. -/
def operandDepth : Level → Nat
  | .comparison => 2
  | .sum => 1
  | .product => 0

theorem operandDepth_add_rank (level : Level) : level.operandDepth + level.rank = 2 := by
  cases level <;> rfl

end Grammar.Level

/-- The binary level an operator joins its operands at. -/
def BinOp.level : BinOp → Grammar.Level
  | .add | .sub => .sum
  | .mul | .div => .product
  | .less | .greater | .lessEq | .greaterEq | .equal | .notEqual => .comparison

theorem BinOp.operator?_level (op : BinOp) : op.level.operator? op.tokenKind = some op := by
  cases op <;> rfl

theorem BinOp.joins_iff (op : BinOp) (level : Grammar.Level) :
    level.Joins op.tokenKind ↔ level = op.level := by
  cases op <;> cases level <;> simp [Grammar.Level.Joins, BinOp.tokenKind, BinOp.level]

theorem BinOp.tokenKind_ne_leftParen (op : BinOp) : op.tokenKind ≠ .leftParen := by
  cases op <;> decide

theorem UnaryOp.prefixOp?_tokenKind (op : UnaryOp) : Parse.prefixOp? op.tokenKind = some op := by
  cases op <;> rfl

theorem Literal.literal?_of_shape {t : Token} {value : Literal} (reprints : value.Reprints)
    (shape : t.shape = value.spelling) : Parse.literal? t = some value := by
  cases value with
  | number x =>
    obtain ⟨kind, text⟩ := Token.shape_eq.1 shape
    simp [Parse.literal?, kind, text, reprints.2]
  | text s =>
    obtain ⟨kind, text⟩ := Token.shape_eq.1 shape
    simp [Parse.literal?, kind, text]
  | boolean b =>
    cases b
    · obtain ⟨kind, -⟩ := Token.shape_eq.1 shape
      simp [Parse.literal?, kind]
    · obtain ⟨kind, -⟩ := Token.shape_eq.1 shape
      simp [Parse.literal?, kind]

namespace Parse

open Grammar

/-- A token that may follow a whole expression: `)`, `,`, `;` or the end of input. -/
def Closer (k : TokenKind) : Prop :=
  k = .rightParen ∨ k = .comma ∨ k = .semicolon ∨ k = .endOfInput

theorem Closer.not_joins {k : TokenKind} (closer : Closer k) (level : Level) : ¬ level.Joins k := by
  rcases closer with rfl | rfl | rfl | rfl <;> cases level <;> simp [Level.Joins]

theorem Closer.ne_leftParen {k : TokenKind} (closer : Closer k) : k ≠ .leftParen := by
  rcases closer with rfl | rfl | rfl | rfl <;> simp

/-! ## The levels between an expression and a primary one -/

section Levels

variable {u : Token} {rest : List Token}

/-- The operations of a level stop at a token that joins none of its operands. -/
theorem tail_stops (level : Level) (b : Nat) (left : Expr) (stops : ¬ level.Joins u.kind) :
    level.tail b left (u :: rest) = .ok (left, u :: rest) := by
  have silent :
      (if atEnd (u :: rest) then none else level.operator? (peek (u :: rest)).kind) = none := by
    split
    · rfl
    · exact Option.not_isSome_iff_eq_none.1 (mt (Level.operator?_isSome level u.kind).1 stops)
  rw [Level.tail_eq, silent]

/-- A level reads what its operand reader reads when the next token joins none of its operands. -/
theorem reader_of_operand (level : Level) {c : Nat} {ts : List Token} {x : Expr}
    (operand : level.operandReader c ts = .ok (x, u :: rest)) (stops : ¬ level.Joins u.kind) :
    level.reader (c + 1) ts = .ok (x, u :: rest) := by
  rw [Level.reader_succ, operand, ok_bind]
  exact tail_stops level c x stops

/--
What the prefix rule reads, the operand reader of a level reads too, with a
frame more for each level in between, when the next token joins none of them.
-/
theorem operand_of_unary (level : Level) {c : Nat} {ts : List Token} {x : Expr}
    (unary : Parse.unary c ts = .ok (x, u :: rest))
    (stops : ∀ inner : Level, level.rank < inner.rank → ¬ inner.Joins u.kind) :
    level.operandReader (c + level.operandDepth) ts = .ok (x, u :: rest) := by
  cases level with
  | product => exact unary
  | sum => exact reader_of_operand .product unary (stops .product (by decide))
  | comparison =>
    exact reader_of_operand .sum (reader_of_operand .product unary (stops .product (by decide)))
      (stops .sum (by decide))

/-- The expression rule reads what a level reads when the next token joins no looser level. -/
theorem expression_of_reader (level : Level) {c : Nat} {ts : List Token} {x : Expr}
    (read : level.reader c ts = .ok (x, u :: rest))
    (stops : ∀ outer : Level, outer.rank < level.rank → ¬ outer.Joins u.kind) :
    Parse.expression (c + level.rank + 1) ts = .ok (x, u :: rest) := by
  rw [Parse.expression.eq_2]
  cases level with
  | comparison => exact read
  | sum => exact reader_of_operand .comparison read (stops .comparison (by decide))
  | product =>
    exact reader_of_operand .comparison (reader_of_operand .sum read (stops .sum (by decide)))
      (stops .comparison (by decide))

/-- A level reads one operation of its own between two operands, up to a token it does not join. -/
theorem reader_binary (level : Level) {c : Nat} {o : Token} {op : BinOp}
    (joins : level.operator? o.kind = some op) {ts mid : List Token} {l r : Expr}
    (left : level.operandReader c ts = .ok (l, o :: (mid ++ u :: rest)))
    (right : level.operandReader c (mid ++ u :: rest) = .ok (r, u :: rest))
    (stops : ¬ level.Joins u.kind) :
    level.reader (c + 1) ts = .ok (.binary op l r o.position, u :: rest) := by
  have notEnd : o.kind ≠ .endOfInput := by
    intro atEnd
    rw [atEnd] at joins
    cases level <;> simp [Level.operator?, comparisonOp?, additiveOp?, multiplicativeOp?] at joins
  have shorter : (u :: rest).length < (o :: (mid ++ u :: rest)).length := by
    simp only [List.length_cons, List.length_append]
    omega
  rw [Level.reader_succ, left, ok_bind]
  show level.tail c l (o :: (mid ++ u :: rest)) = _
  rw [Level.tail_eq]
  simp only [atEnd_cons notEnd, peek_cons, Bool.false_eq_true, if_false, joins,
    advance_cons notEnd, right, ok_bind, shorter, dif_pos]
  exact tail_stops level c _ stops

end Levels

/-! ## Phrases of the primary and prefix rules -/

section Phrases

variable {b : Nat} {u : Token} {rest : List Token}

theorem primary_literal {t : Token} {value : Literal} (notEnd : t.kind ≠ .endOfInput)
    (literal : literal? t = some value) :
    Parse.primary (b + 1) (t :: u :: rest) = .ok (.literal value t.position, u :: rest) := by
  rw [Parse.primary.eq_2]
  simp only [atEnd_cons notEnd, peek_cons, Bool.false_eq_true, if_false, literal,
    advance_cons notEnd]

/-- A name that no `(` follows is read as a name. -/
theorem primary_identifier {t : Token} (isName : t.kind = .identifier)
    (notCall : u.kind ≠ .leftParen) :
    Parse.primary (b + 1) (t :: u :: rest) = .ok (.identifier t.text t.position, u :: rest) := by
  have notEnd : t.kind ≠ .endOfInput := by simp [isName]
  have notLiteral := literal?_eq_none (t := t) (by simp [IsLiteral, isName])
  have alone : check .leftParen (u :: rest) = false := by simp [check, notCall]
  rw [Parse.primary.eq_2]
  simp only [atEnd_cons notEnd, peek_cons, Bool.false_eq_true, if_false, notLiteral,
    check_cons notEnd, isName, beq_self_eq_true, if_true, advance_cons notEnd, alone]

/-- A name that `(` follows is a call of it on the arguments read from there. -/
theorem primary_call {t opening : Token} {ts : List Token} {args : List Expr}
    (isName : t.kind = .identifier) (openKind : opening.kind = .leftParen)
    (read : Parse.arguments b (opening :: ts) = .ok (args, u :: rest)) :
    Parse.primary (b + 1) (t :: opening :: ts) =
      .ok (.call t.text args t.position, u :: rest) := by
  have notEnd : t.kind ≠ .endOfInput := by simp [isName]
  have openNotEnd : opening.kind ≠ .endOfInput := by simp [openKind]
  have notLiteral := literal?_eq_none (t := t) (by simp [IsLiteral, isName])
  rw [Parse.primary.eq_2]
  simp only [atEnd_cons notEnd, peek_cons, Bool.false_eq_true, if_false, notLiteral,
    check_cons notEnd, isName, beq_self_eq_true, if_true, advance_cons notEnd,
    check_cons openNotEnd, openKind, read, ok_bind]
  rfl

/-- An expression in parentheses is read as the expression. -/
theorem primary_group {opening close : Token} {ts : List Token} {x : Expr}
    (openKind : opening.kind = .leftParen) (closeKind : close.kind = .rightParen)
    (read : Parse.expression b (ts ++ close :: u :: rest) = .ok (x, close :: u :: rest)) :
    Parse.primary (b + 1) (opening :: (ts ++ close :: u :: rest)) = .ok (x, u :: rest) := by
  have notEnd : opening.kind ≠ .endOfInput := by simp [openKind]
  have notLiteral := literal?_eq_none (t := opening) (by simp [IsLiteral, openKind])
  rw [Parse.primary.eq_2]
  simp only [atEnd_cons notEnd, peek_cons, Bool.false_eq_true, if_false, notLiteral,
    check_cons notEnd, openKind, beq_iff_eq, reduceCtorEq, if_true, advance_cons notEnd,
    read, ok_bind, expect_cons closeKind (by simp)]
  rfl

/-- An empty argument list. -/
theorem arguments_empty {opening close : Token} (openKind : opening.kind = .leftParen)
    (closeKind : close.kind = .rightParen) :
    Parse.arguments (b + 1) (opening :: close :: u :: rest) = .ok ([], u :: rest) := by
  have closeNotEnd : close.kind ≠ .endOfInput := by simp [closeKind]
  rw [Parse.arguments.eq_2]
  simp only [expect_cons openKind (by simp), ok_bind, check_cons closeNotEnd, closeKind,
    beq_self_eq_true, if_true, expect_cons closeKind (by simp)]
  rfl

/-- A prefix operator before an operand of the prefix rule. -/
theorem unary_prefixed {o : Token} {op : UnaryOp} {ts : List Token} {x : Expr}
    (prefixed : prefixOp? o.kind = some op) (read : Parse.unary b ts = .ok (x, u :: rest)) :
    Parse.unary (b + 1) (o :: ts) = .ok (.unary op x o.position, u :: rest) := by
  have notEnd : o.kind ≠ .endOfInput := by
    intro atEnd
    simp [atEnd, prefixOp?] at prefixed
  rw [Parse.unary.eq_2]
  simp only [atEnd_cons notEnd, peek_cons, Bool.false_eq_true, if_false, prefixed,
    advance_cons notEnd, read, ok_bind]
  rfl

/-- The prefix rule reads a primary expression that starts with no prefix operator. -/
theorem unary_of_primary {t : Token} {ts out : List Token} {x : Expr}
    (notEnd : t.kind ≠ .endOfInput) (noPrefix : prefixOp? t.kind = none)
    (read : Parse.primary b (t :: ts) = .ok (x, out)) :
    Parse.unary (b + 1) (t :: ts) = .ok (x, out) := by
  rw [Parse.unary.eq_2]
  simp only [atEnd_cons notEnd, peek_cons, Bool.false_eq_true, if_false, noPrefix]
  exact read

end Phrases

/-! ## Reading spellings -/

/--
The primary rule reads the tokens `ts` as `x`, before any token but `(`, with
the frames of an expression rule that has `frames`, less the five above it.
-/
def PrimaryReads (ts : List Token) (x : Expr) (frames : Nat) : Prop :=
  ∀ b u rest, frames ≤ b + 5 → u.kind ≠ .leftParen →
    Parse.primary b (ts ++ u :: rest) = .ok (x, u :: rest)

/--
The prefix rule reads the tokens `ts` as `x`, before any token but `(`, with
the frames of an expression rule that has `frames`, less the four above it.
-/
def UnaryReads (ts : List Token) (x : Expr) (frames : Nat) : Prop :=
  ∀ c u rest, frames ≤ c + 4 → u.kind ≠ .leftParen →
    Parse.unary c (ts ++ u :: rest) = .ok (x, u :: rest)

theorem PrimaryReads.unary {e x : Expr} {ts : List Token}
    (spelled : ts.map Token.shape = e.spelling) (read : PrimaryReads ts x e.frames) :
    UnaryReads ts x e.frames := by
  obtain ⟨t, more, rfl, notEnd, -, noPrefix⟩ := Expr.spelled_head spelled
  intro c u rest enough notOpen
  obtain ⟨b, rfl⟩ : ∃ b, c = b + 1 := ⟨c - 1, by have := e.six_le_frames; omega⟩
  exact unary_of_primary notEnd noPrefix (read b u rest (by omega) notOpen)

theorem UnaryReads.prefixed {o : Token} {op : UnaryOp} {ts : List Token} {x : Expr}
    {frames : Nat} (prefixed : prefixOp? o.kind = some op) (large : 4 ≤ frames)
    (read : UnaryReads ts x frames) :
    UnaryReads (o :: ts) (.unary op x o.position) (frames + 1) := by
  intro c u rest enough notOpen
  obtain ⟨b, rfl⟩ : ∃ b, c = b + 1 := ⟨c - 1, by omega⟩
  exact unary_prefixed prefixed (read b u rest (by omega) notOpen)

theorem UnaryReads.operand (level : Level) {ts : List Token} {x : Expr} {frames : Nat}
    (read : UnaryReads ts x frames) (c : Nat) (u : Token) (rest : List Token)
    (enough : frames ≤ c + 4) (notOpen : u.kind ≠ .leftParen)
    (stops : ∀ inner : Level, level.rank < inner.rank → ¬ inner.Joins u.kind) :
    level.operandReader (c + level.operandDepth) (ts ++ u :: rest) = .ok (x, u :: rest) :=
  operand_of_unary level (read c u rest enough notOpen) stops

/-- What the prefix rule reads before a closer, the expression rule reads with four frames more. -/
theorem UnaryReads.expression {ts : List Token} {x : Expr} {frames : Nat}
    (read : UnaryReads ts x frames) {b : Nat} {u : Token} {rest : List Token}
    (enough : frames ≤ b) (large : 4 ≤ b) (closer : Closer u.kind) :
    Parse.expression b (ts ++ u :: rest) = .ok (x, u :: rest) := by
  obtain ⟨c, rfl⟩ : ∃ c, b = c + 4 := ⟨b - 4, by omega⟩
  have operand := read.operand .comparison c u rest (by omega) closer.ne_leftParen
    fun inner _ => closer.not_joins inner
  exact expression_of_reader .comparison
    (reader_of_operand .comparison operand (closer.not_joins _)) fun outer _ => closer.not_joins outer

/--
An operation between two operands that the prefix rule reads is read by the
expression rule at the level of its operator, before a closer. The operator
token joins its own level only, so the left operand stops at it.
-/
theorem UnaryReads.binary {tl tr : List Token} {l r : Expr} {nl nr : Nat}
    (left : UnaryReads tl l nl) (right : UnaryReads tr r nr) {o : Token} {op : BinOp}
    (token : o.kind = op.tokenKind) {b : Nat} {u : Token} {rest : List Token}
    (enough : max nl nr ≤ b) (large : 4 ≤ b) (closer : Closer u.kind) :
    Parse.expression b (tl ++ o :: (tr ++ u :: rest)) =
      .ok (.binary op l r o.position, u :: rest) := by
  obtain ⟨c, rfl⟩ : ∃ c, b = c + 4 := ⟨b - 4, by omega⟩
  have joins : op.level.operator? o.kind = some op := token ▸ op.operator?_level
  have ownLevel : ∀ inner : Level, op.level.rank < inner.rank → ¬ inner.Joins o.kind := by
    intro inner tighter joinsInner
    rw [token, op.joins_iff] at joinsInner
    subst joinsInner
    exact lt_irrefl _ tighter
  have readLeft := left.operand op.level c o (tr ++ u :: rest) (by omega)
    (token ▸ op.tokenKind_ne_leftParen) ownLevel
  have readRight := right.operand op.level c u rest (by omega) closer.ne_leftParen
    fun inner _ => closer.not_joins inner
  have frames : c + op.level.operandDepth + 1 + op.level.rank + 1 = c + 4 := by
    have := op.level.operandDepth_add_rank
    omega
  rw [← frames]
  exact expression_of_reader op.level (reader_binary op.level joins readLeft readRight
    (closer.not_joins _)) fun outer _ => closer.not_joins outer

/-- Tokens spelled as expressions each after a comma, and then `)`, start with a closer. -/
theorem closer_of_commaSpelling {ts : List Token} {es : List Expr}
    (spelled : ts.map Token.shape = Expr.commaSpelling es) {close : Token}
    (closeKind : close.kind = .rightParen) (rest : List Token) :
    ∃ w after, ts ++ close :: rest = w :: after ∧ Closer w.kind := by
  cases ts with
  | nil => exact ⟨close, rest, rfl, Or.inl closeKind⟩
  | cons w after =>
    cases es with
    | nil => simp [Expr.commaSpelling] at spelled
    | cons e more =>
      rw [Expr.commaSpelling_cons, List.map_cons, List.cons.injEq] at spelled
      exact ⟨w, after ++ close :: rest, rfl, Or.inr (Or.inl (Token.shape_eq.1 spelled.1).1)⟩

mutual

/--
The primary rule reads the spelling of a printable expression back as the
expression, positions apart, from the frames its printed form takes.
-/
theorem primary_spelling : ∀ (e : Expr), e.Printable → ∀ {ts : List Token},
    ts.map Token.shape = e.spelling → ∃ e', e'.strip = e.strip ∧ PrimaryReads ts e' e.frames
  | .literal value _, printable, ts, spelled => by
    obtain ⟨t, rfl, shape⟩ := List.map_eq_singleton_iff.1 spelled
    have literal := Literal.literal?_of_shape printable.literal shape
    have notEnd : t.kind ≠ .endOfInput := by
      intro atEnd
      simp [literal?, atEnd] at literal
    refine ⟨.literal value t.position, rfl, ?_⟩
    intro b u rest enough _
    obtain ⟨c, rfl⟩ : ∃ c, b = c + 1 := ⟨b - 1, by simp only [Expr.frames] at enough; omega⟩
    exact primary_literal notEnd literal
  | .identifier name _, printable, ts, spelled => by
    obtain ⟨t, rfl, shape⟩ := List.map_eq_singleton_iff.1 spelled
    obtain ⟨kind, text⟩ := Token.shape_eq.1 shape
    refine ⟨.identifier t.text t.position, by simp [Expr.strip, text], ?_⟩
    intro b u rest enough notOpen
    obtain ⟨c, rfl⟩ : ∃ c, b = c + 1 := ⟨b - 1, by simp only [Expr.frames] at enough; omega⟩
    exact primary_identifier kind notOpen
  | .unary op operand _, printable, ts, spelled => by
    obtain ⟨opening, o, tx, close, rfl, openKind, opKind, operandSpelled, closeKind⟩ :=
      Expr.spelled_unary spelled
    obtain ⟨x, stripped, read⟩ := primary_spelling operand printable.operand operandSpelled
    have large := operand.six_le_frames
    have inner : UnaryReads (o :: tx) (.unary op x o.position) (operand.frames + 1) :=
      (read.unary operandSpelled).prefixed (opKind ▸ op.prefixOp?_tokenKind) (by omega)
    refine ⟨.unary op x o.position, by simp [Expr.strip, stripped], ?_⟩
    intro b u rest enough _
    simp only [Expr.frames] at enough
    obtain ⟨c, rfl⟩ : ∃ c, b = c + 1 := ⟨b - 1, by omega⟩
    simp only [List.cons_append, List.append_assoc]
    exact primary_group openKind closeKind
      (inner.expression (by omega) (by omega) (Or.inl closeKind))
  | .binary op left right _, printable, ts, spelled => by
    obtain ⟨opening, tl, o, tr, close, rfl, openKind, leftSpelled, opKind, rightSpelled, closeKind⟩ :=
      Expr.spelled_binary spelled
    obtain ⟨l, leftStripped, readLeft⟩ := primary_spelling left printable.left leftSpelled
    obtain ⟨r, rightStripped, readRight⟩ := primary_spelling right printable.right rightSpelled
    have large := left.six_le_frames
    refine ⟨.binary op l r o.position, by simp [Expr.strip, leftStripped, rightStripped], ?_⟩
    intro b u rest enough _
    simp only [Expr.frames] at enough
    obtain ⟨c, rfl⟩ : ∃ c, b = c + 1 := ⟨b - 1, by omega⟩
    have readInner : Parse.expression c ((tl ++ o :: tr) ++ close :: u :: rest) =
        .ok (.binary op l r o.position, close :: u :: rest) := by
      rw [List.append_assoc, List.cons_append]
      exact (readLeft.unary leftSpelled).binary (readRight.unary rightSpelled) opKind (by omega)
        (by omega) (Or.inl closeKind)
    simpa using primary_group openKind closeKind readInner
  | .call name args _, printable, ts, spelled => by
    obtain ⟨t, opening, targs, close, rfl, nameKind, text, openKind, argsSpelled, closeKind⟩ :=
      Expr.spelled_call spelled
    obtain ⟨args', argsStripped, readArgs⟩ := arguments_spelling args printable.args argsSpelled
    refine ⟨.call t.text args' t.position, by simp [Expr.strip, text, argsStripped], ?_⟩
    intro b u rest enough _
    simp only [Expr.frames] at enough
    obtain ⟨c, rfl⟩ : ∃ c, b = c + 2 := ⟨b - 2, by omega⟩
    simp only [List.cons_append, List.append_assoc]
    exact primary_call nameKind openKind
      (readArgs c opening close u rest (by omega) openKind closeKind)

/--
The arguments rule reads the spellings of printable expressions, between
parentheses and with commas between them, back as the expressions.
-/
theorem arguments_spelling : ∀ (es : List Expr), (∀ e ∈ es, e.Printable) → ∀ {ts : List Token},
    ts.map Token.shape = Expr.spellingList es →
    ∃ es', es'.map Expr.strip = es.map Expr.strip ∧
      ∀ c (opening close u : Token) rest, Expr.framesList es ≤ c →
        opening.kind = .leftParen → close.kind = .rightParen →
        Parse.arguments (c + 1) (opening :: (ts ++ close :: u :: rest)) = .ok (es', u :: rest)
  | [], _, ts, spelled => by
    have empty : ts = [] := by simpa [Expr.spellingList] using spelled
    subst empty
    refine ⟨[], rfl, ?_⟩
    intro c opening close u rest _ openKind closeKind
    exact arguments_empty openKind closeKind
  | e :: more, printable, ts, spelled => by
    rw [Expr.spellingList_cons] at spelled
    obtain ⟨te, tmore, rfl, firstSpelled, moreSpelled⟩ := List.map_eq_append_iff.1 spelled
    obtain ⟨e', stripped, read⟩ := primary_spelling e (printable e (by simp)) firstSpelled
    obtain ⟨more', moreStripped, readMore⟩ := argumentsTail_spelling more
      (fun x member => printable x (List.mem_cons_of_mem e member)) moreSpelled
    refine ⟨e' :: more', by simp [stripped, moreStripped], ?_⟩
    intro c opening close u rest enough openKind closeKind
    rw [Expr.framesList_cons] at enough
    obtain ⟨w, after, following, closer⟩ := closer_of_commaSpelling moreSpelled closeKind (u :: rest)
    have readFirst : Parse.expression c (te ++ (tmore ++ close :: u :: rest)) =
        .ok (e', tmore ++ close :: u :: rest) := by
      rw [following]
      exact (read.unary firstSpelled).expression (by omega)
        (by have := e.six_le_frames; omega) closer
    obtain ⟨t, te, rfl, notEnd, notClose, -⟩ := Expr.spelled_head firstSpelled
    have open' : (t.kind == .rightParen) = false := by simp [notClose]
    rw [Parse.arguments.eq_2]
    simp only [List.cons_append, List.append_assoc] at readFirst ⊢
    simp only [expect_cons openKind (by simp), ok_bind, check_cons notEnd, open',
      Bool.false_eq_true, if_false, readFirst,
      readMore c [e'] close (u :: rest) (by omega) closeKind, expect_cons closeKind (by simp)]
    rfl

/--
The repetition of arguments after commas reads the spellings of printable
expressions, each after a comma, back as the expressions, up to `)`.
-/
theorem argumentsTail_spelling : ∀ (es : List Expr), (∀ e ∈ es, e.Printable) →
    ∀ {ts : List Token}, ts.map Token.shape = Expr.commaSpelling es →
    ∃ es', es'.map Expr.strip = es.map Expr.strip ∧
      ∀ c (acc : List Expr) (close : Token) rest, Expr.framesList es ≤ c →
        close.kind = .rightParen →
        Parse.argumentsTail c acc (ts ++ close :: rest) = .ok (acc ++ es', close :: rest)
  | [], _, ts, spelled => by
    have empty : ts = [] := by simpa [Expr.commaSpelling] using spelled
    subst empty
    refine ⟨[], rfl, ?_⟩
    intro c acc close rest _ closeKind
    have closeNotEnd : close.kind ≠ .endOfInput := by simp [closeKind]
    rw [Parse.argumentsTail]
    simp [check_cons closeNotEnd, closeKind]
  | e :: more, printable, ts, spelled => by
    obtain ⟨w, te, tmore, rfl, commaKind, firstSpelled, moreSpelled⟩ := Expr.spelled_commaCons spelled
    have commaNotEnd : w.kind ≠ .endOfInput := by simp [commaKind]
    obtain ⟨e', stripped, read⟩ := primary_spelling e (printable e (by simp)) firstSpelled
    obtain ⟨more', moreStripped, readMore⟩ := argumentsTail_spelling more
      (fun x member => printable x (List.mem_cons_of_mem e member)) moreSpelled
    refine ⟨e' :: more', by simp [stripped, moreStripped], ?_⟩
    intro c acc close rest enough closeKind
    rw [Expr.framesList_cons] at enough
    obtain ⟨v, after, following, closer⟩ := closer_of_commaSpelling moreSpelled closeKind rest
    have readNext : Parse.expression c (te ++ (tmore ++ close :: rest)) =
        .ok (e', tmore ++ close :: rest) := by
      rw [following]
      exact (read.unary firstSpelled).expression (by omega)
        (by have := e.six_le_frames; omega) closer
    obtain ⟨t, te, rfl, -, -, -⟩ := Expr.spelled_head firstSpelled
    have shorter : (tmore ++ close :: rest).length <
        (w :: (t :: te ++ tmore) ++ close :: rest).length := by
      simp only [List.length_cons, List.length_append]
      omega
    rw [Parse.argumentsTail]
    simp only [check_cons commaNotEnd, List.cons_append, commaKind, beq_self_eq_true, if_true,
      advance_cons commaNotEnd, List.append_assoc] at readNext shorter ⊢
    simp only [readNext, ok_bind, shorter, dif_pos]
    simpa using readMore c (acc ++ [e']) close rest (by omega) closeKind

end

/--
The expression rule reads the spelling of a printable expression back as the
expression, positions apart, before any closer, once it has the frames the
printed form takes.
-/
theorem expression_spelling {e : Expr} (printable : e.Printable) {ts : List Token}
    (spelled : ts.map Token.shape = e.spelling) :
    ∃ e', e'.strip = e.strip ∧ ∀ b u rest, e.frames ≤ b → Closer u.kind →
      Parse.expression b (ts ++ u :: rest) = .ok (e', u :: rest) := by
  obtain ⟨e', stripped, read⟩ := primary_spelling e printable spelled
  refine ⟨e', stripped, fun b u rest enough closer => ?_⟩
  exact (read.unary spelled).expression enough (by have := e.six_le_frames; omega) closer

end Parse

end GameScript

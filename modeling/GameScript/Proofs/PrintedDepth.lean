import GameScript.Proofs.PrintedRead

/-!
# The frames a printed expression needs

The reader spends one frame of host stack for each rule it enters, and a rule
entered with none left fails with `SyntaxError.tooDeep`.  This module shows
that the frames `Expr.frames` that `GameScript.Proofs.PrintedRead` finds
enough to read a printed expression back are also needed: with fewer, the
expression rule fails on the spelling, whatever follows it, and fails with
that error (`expression_spelling_needs`).

The proof follows the reader's rules as the reading proof does, by mutual
structural recursion on the expression and its argument lists.  In an
operation, the left operand either fails first or is read, and then the right
one fails; in a list of arguments, the first argument with too few frames
fails after the ones before it are read.
-/

namespace GameScript

namespace Parse

open Grammar

/-- A run that failed because a rule had no frame left. -/
def TooDeep (run : Except SyntaxError α) : Prop :=
  ∃ t, run = .error (.tooDeep t)

theorem TooDeep.bind {x : Except SyntaxError α} {f : α → Except SyntaxError β}
    (deep : TooDeep x) : TooDeep (x >>= f) := by
  obtain ⟨t, failed⟩ := deep
  exact ⟨t, by rw [failed]; rfl⟩

section Failures

variable {ts : List Token} {m : Nat}

/-- A level fails, with one frame more, wherever its operand reader fails. -/
theorem reader_tooDeep (level : Level) (operand : ∀ d ≤ m, TooDeep (level.operandReader d ts)) :
    ∀ d ≤ m + 1, TooDeep (level.reader d ts) := by
  intro d enough
  cases d with
  | zero => exact ⟨_, level.reader_zero ts⟩
  | succ d =>
    rw [Level.reader_succ]
    exact (operand d (by omega)).bind

theorem operand_tooDeep (level : Level) (unary : ∀ c ≤ m, TooDeep (Parse.unary c ts)) :
    ∀ d ≤ m + level.operandDepth, TooDeep (level.operandReader d ts) := by
  cases level with
  | product => exact unary
  | sum => exact reader_tooDeep .product unary
  | comparison => exact reader_tooDeep .sum (reader_tooDeep .product unary)

theorem expression_tooDeep (level : Level) (read : ∀ d ≤ m, TooDeep (level.reader d ts)) :
    ∀ b ≤ m + level.rank + 1, TooDeep (Parse.expression b ts) := by
  have comparison : ∀ d ≤ m + level.rank, TooDeep (Level.reader .comparison d ts) := by
    cases level with
    | comparison => exact read
    | sum => exact reader_tooDeep .comparison read
    | product => exact reader_tooDeep .comparison (reader_tooDeep .sum read)
  intro b enough
  cases b with
  | zero => exact ⟨_, Parse.expression.eq_1 ts⟩
  | succ b =>
    rw [Parse.expression.eq_2]
    exact comparison b (by omega)

end Failures

/-- An expression in parentheses fails where the expression inside fails. -/
theorem primary_group_tooDeep {b : Nat} {opening : Token} {ts : List Token}
    (openKind : opening.kind = .leftParen) (inner : TooDeep (Parse.expression b ts)) :
    TooDeep (Parse.primary (b + 1) (opening :: ts)) := by
  have notEnd : opening.kind ≠ .endOfInput := by simp [openKind]
  have notLiteral := literal?_eq_none (t := opening) (by simp [IsLiteral, openKind])
  rw [Parse.primary.eq_2]
  simp only [atEnd_cons notEnd, peek_cons, Bool.false_eq_true, if_false, notLiteral,
    check_cons notEnd, openKind, beq_iff_eq, reduceCtorEq, if_true, advance_cons notEnd]
  exact inner.bind

/-- A call fails where its argument list fails. -/
theorem primary_call_tooDeep {b : Nat} {t opening : Token} {ts : List Token}
    (isName : t.kind = .identifier) (openKind : opening.kind = .leftParen)
    (args : TooDeep (Parse.arguments b (opening :: ts))) :
    TooDeep (Parse.primary (b + 1) (t :: opening :: ts)) := by
  have notEnd : t.kind ≠ .endOfInput := by simp [isName]
  have openNotEnd : opening.kind ≠ .endOfInput := by simp [openKind]
  have notLiteral := literal?_eq_none (t := t) (by simp [IsLiteral, isName])
  rw [Parse.primary.eq_2]
  simp only [atEnd_cons notEnd, peek_cons, Bool.false_eq_true, if_false, notLiteral,
    check_cons notEnd, isName, beq_self_eq_true, if_true, advance_cons notEnd,
    check_cons openNotEnd, openKind]
  exact args.bind

/--
The primary rule fails on `ts`, whatever follows, with fewer frames than an
expression rule that has `frames` has less the five above it.
-/
def PrimaryNeeds (ts : List Token) (frames : Nat) : Prop :=
  ∀ b rest, b + 5 < frames → TooDeep (Parse.primary b (ts ++ rest))

/--
The prefix rule fails on `ts`, whatever follows, with fewer frames than an
expression rule that has `frames` has less the four above it.
-/
def UnaryNeeds (ts : List Token) (frames : Nat) : Prop :=
  ∀ c rest, c + 4 < frames → TooDeep (Parse.unary c (ts ++ rest))

theorem PrimaryNeeds.unary {e : Expr} {ts : List Token}
    (spelled : ts.map Token.shape = e.spelling) (needs : PrimaryNeeds ts e.frames) :
    UnaryNeeds ts e.frames := by
  obtain ⟨t, more, rfl, notEnd, -, noPrefix⟩ := Expr.spelled_head spelled
  intro c rest short
  cases c with
  | zero => exact ⟨_, Parse.unary.eq_1 _⟩
  | succ b =>
    rw [Parse.unary.eq_2]
    simp only [List.cons_append, atEnd_cons notEnd, peek_cons, Bool.false_eq_true, if_false,
      noPrefix]
    exact needs b rest (by omega)

theorem UnaryNeeds.prefixed {o : Token} {op : UnaryOp} {ts : List Token} {frames : Nat}
    (prefixed : prefixOp? o.kind = some op) (needs : UnaryNeeds ts frames) :
    UnaryNeeds (o :: ts) (frames + 1) := by
  have notEnd : o.kind ≠ .endOfInput := by
    intro atEnd
    simp [atEnd, prefixOp?] at prefixed
  intro c rest short
  cases c with
  | zero => exact ⟨_, Parse.unary.eq_1 _⟩
  | succ c =>
    rw [Parse.unary.eq_2]
    simp only [List.cons_append, atEnd_cons notEnd, peek_cons, Bool.false_eq_true, if_false,
      prefixed, advance_cons notEnd]
    exact (needs c rest (by omega)).bind

/-- What the prefix rule fails on with too few frames, the expression rule fails on with four frames more. -/
theorem UnaryNeeds.expression {ts : List Token} {frames : Nat} (needs : UnaryNeeds ts frames)
    (large : 5 ≤ frames) {b : Nat} (rest : List Token) (short : b < frames) :
    TooDeep (Parse.expression b (ts ++ rest)) := by
  have unary : ∀ c ≤ frames - 5, TooDeep (Parse.unary c (ts ++ rest)) :=
    fun c low => needs c rest (by omega)
  exact expression_tooDeep .comparison (reader_tooDeep .comparison (operand_tooDeep .comparison unary))
    b (by simp only [Level.rank, Level.operandDepth]; omega)

/--
An operation between two operands fails with fewer frames than the deeper
operand needs: the left one fails first, or it is read and the right one
fails. The reader fails when the left operand, or after it the right one, has
too few frames.
-/
theorem UnaryNeeds.binary {tl tr : List Token} {l : Expr} {nl nr : Nat}
    (leftReads : UnaryReads tl l nl) (leftNeeds : UnaryNeeds tl nl) (rightNeeds : UnaryNeeds tr nr)
    {o : Token} {op : BinOp} (token : o.kind = op.tokenKind) (large : 5 ≤ nl) (large' : 5 ≤ nr)
    {b : Nat} (rest : List Token) (short : b < max nl nr) :
    TooDeep (Parse.expression b (tl ++ o :: (tr ++ rest))) := by
  have joins : op.level.operator? o.kind = some op := token ▸ op.operator?_level
  have notEnd : o.kind ≠ .endOfInput := by
    rw [token]
    cases op <;> decide
  have ownLevel : ∀ inner : Level, op.level.rank < inner.rank → ¬ inner.Joins o.kind := by
    intro inner tighter joinsInner
    rw [token, op.joins_iff] at joinsInner
    subst joinsInner
    exact lt_irrefl _ tighter
  have depth := op.level.operandDepth_add_rank
  have read : ∀ d ≤ max nl nr + op.level.operandDepth - 4,
      TooDeep (op.level.reader d (tl ++ o :: (tr ++ rest))) := by
    intro d enough
    cases d with
    | zero => exact ⟨_, op.level.reader_zero _⟩
    | succ d =>
      rw [Level.reader_succ]
      by_cases leftShort : d + 5 ≤ nl + op.level.operandDepth
      · have unary : ∀ c ≤ nl - 5, TooDeep (Parse.unary c (tl ++ o :: (tr ++ rest))) :=
          fun c low => leftNeeds c _ (by omega)
        exact (operand_tooDeep op.level unary d (by omega)).bind
      · obtain ⟨c, rfl⟩ : ∃ c, d = c + op.level.operandDepth := ⟨d - op.level.operandDepth, by omega⟩
        have readLeft := leftReads.operand op.level c o (tr ++ rest) (by omega)
          (token ▸ op.tokenKind_ne_leftParen) ownLevel
        have unary : ∀ c ≤ nr - 5, TooDeep (Parse.unary c (tr ++ rest)) :=
          fun c low => rightNeeds c _ (by omega)
        rw [readLeft, ok_bind]
        show TooDeep (op.level.tail _ l (o :: (tr ++ rest)))
        rw [Level.tail_eq]
        simp only [atEnd_cons notEnd, peek_cons, Bool.false_eq_true, if_false, joins,
          advance_cons notEnd]
        exact (operand_tooDeep op.level unary _ (by omega)).bind
  exact expression_tooDeep op.level read b (by omega)

mutual

/--
The primary rule fails on the spelling of a printable expression, whatever
follows, with fewer frames than its printed form takes.
-/
theorem primary_spelling_needs : ∀ (e : Expr), e.Printable → ∀ {ts : List Token},
    ts.map Token.shape = e.spelling → PrimaryNeeds ts e.frames
  | .literal .., _, _, _ => by
    intro b rest short
    obtain rfl : b = 0 := by simp only [Expr.frames] at short; omega
    exact ⟨_, Parse.primary.eq_1 _⟩
  | .identifier .., _, _, _ => by
    intro b rest short
    obtain rfl : b = 0 := by simp only [Expr.frames] at short; omega
    exact ⟨_, Parse.primary.eq_1 _⟩
  | .unary op operand _, printable, ts, spelled => by
    obtain ⟨opening, o, tx, close, rfl, openKind, opKind, operandSpelled, -⟩ :=
      Expr.spelled_unary spelled
    have needs := primary_spelling_needs operand printable.operand operandSpelled
    have inner : UnaryNeeds (o :: tx) (operand.frames + 1) :=
      (needs.unary operandSpelled).prefixed (opKind ▸ op.prefixOp?_tokenKind)
    have large := operand.six_le_frames
    intro b rest short
    simp only [Expr.frames] at short
    cases b with
    | zero => exact ⟨_, Parse.primary.eq_1 _⟩
    | succ c =>
      simp only [List.cons_append, List.append_assoc]
      exact primary_group_tooDeep openKind (inner.expression (by omega) _ (by omega))
  | .binary op left right _, printable, ts, spelled => by
    obtain ⟨opening, tl, o, tr, close, rfl, openKind, leftSpelled, opKind, rightSpelled, -⟩ :=
      Expr.spelled_binary spelled
    obtain ⟨l, -, readLeft⟩ := primary_spelling left printable.left leftSpelled
    have leftNeeds := primary_spelling_needs left printable.left leftSpelled
    have rightNeeds := primary_spelling_needs right printable.right rightSpelled
    have large := left.six_le_frames
    have large' := right.six_le_frames
    intro b rest short
    simp only [Expr.frames] at short
    cases b with
    | zero => exact ⟨_, Parse.primary.eq_1 _⟩
    | succ c =>
      simp only [List.cons_append, List.append_assoc]
      exact primary_group_tooDeep openKind
        (UnaryNeeds.binary (readLeft.unary leftSpelled) (leftNeeds.unary leftSpelled)
          (rightNeeds.unary rightSpelled) opKind (by omega) (by omega) _ (by omega))
  | .call name args _, printable, ts, spelled => by
    obtain ⟨t, opening, targs, close, rfl, nameKind, -, openKind, argsSpelled, closeKind⟩ :=
      Expr.spelled_call spelled
    have needs := arguments_spelling_needs args printable.args argsSpelled
    intro b rest short
    simp only [Expr.frames] at short
    simp only [List.cons_append, List.append_assoc]
    cases b with
    | zero => exact ⟨_, Parse.primary.eq_1 _⟩
    | succ b =>
      apply primary_call_tooDeep nameKind openKind
      cases b with
      | zero => exact ⟨_, Parse.arguments.eq_1 _⟩
      | succ c => exact needs c opening close rest (by omega) openKind closeKind

/--
The arguments rule fails on the spellings of printable arguments, whatever
follows, with fewer frames than the deepest printed argument takes. The reader
fails when the first argument, or a later one, has too few frames.
-/
theorem arguments_spelling_needs : ∀ (es : List Expr), (∀ e ∈ es, e.Printable) →
    ∀ {ts : List Token}, ts.map Token.shape = Expr.spellingList es →
    ∀ c (opening close : Token) rest, c < Expr.framesList es →
      opening.kind = .leftParen → close.kind = .rightParen →
      TooDeep (Parse.arguments (c + 1) (opening :: (ts ++ close :: rest)))
  | [], _, _, _ => by
    intro c opening close rest short
    simp [Expr.framesList] at short
  | e :: more, printable, ts, spelled => by
    rw [Expr.spellingList_cons] at spelled
    obtain ⟨te, tmore, rfl, firstSpelled, moreSpelled⟩ := List.map_eq_append_iff.1 spelled
    have first := printable e (by simp)
    have others : ∀ x ∈ more, x.Printable := fun x member => printable x (List.mem_cons_of_mem e member)
    intro c opening close rest short openKind closeKind
    rw [Expr.framesList_cons] at short
    obtain ⟨t, te', rfl, notEnd, notClose, -⟩ := Expr.spelled_head firstSpelled
    have open' : (t.kind == .rightParen) = false := by simp [notClose]
    rw [Parse.arguments.eq_2]
    simp only [List.cons_append, List.append_assoc, expect_cons openKind (by simp), ok_bind,
      check_cons notEnd, open', Bool.false_eq_true, if_false]
    by_cases firstShort : c < e.frames
    · have needs := (primary_spelling_needs e first firstSpelled).unary firstSpelled
      have fails := needs.expression (by have := e.six_le_frames; omega)
        (tmore ++ close :: rest) firstShort
      simp only [List.cons_append] at fails
      exact fails.bind
    · obtain ⟨e', -, read⟩ := primary_spelling e first firstSpelled
      obtain ⟨w, after, following, closer⟩ :=
        closer_of_commaSpelling moreSpelled closeKind rest
      have readFirst : Parse.expression c ((t :: te') ++ w :: after) = .ok (e', w :: after) :=
        (read.unary firstSpelled).expression (by omega) (by have := e.six_le_frames; omega) closer
      rw [← following] at readFirst
      simp only [List.cons_append] at readFirst
      rw [readFirst, ok_bind]
      exact (argumentsTail_spelling_needs more others moreSpelled c [e'] close rest (by omega)
        closeKind).bind

/--
The repetition of arguments after commas fails on their spellings with fewer
frames than the deepest printed argument takes. The reader fails when this
argument, or a later one, has too few frames.
-/
theorem argumentsTail_spelling_needs : ∀ (es : List Expr), (∀ e ∈ es, e.Printable) →
    ∀ {ts : List Token}, ts.map Token.shape = Expr.commaSpelling es →
    ∀ c (acc : List Expr) (close : Token) rest, c < Expr.framesList es →
      close.kind = .rightParen → TooDeep (Parse.argumentsTail c acc (ts ++ close :: rest))
  | [], _, _, _ => by
    intro c acc close rest short
    simp [Expr.framesList] at short
  | e :: more, printable, ts, spelled => by
    obtain ⟨w, te, tmore, rfl, commaKind, firstSpelled, moreSpelled⟩ := Expr.spelled_commaCons spelled
    have commaNotEnd : w.kind ≠ .endOfInput := by simp [commaKind]
    have first := printable e (by simp)
    have others : ∀ x ∈ more, x.Printable := fun x member => printable x (List.mem_cons_of_mem e member)
    intro c acc close rest short closeKind
    rw [Expr.framesList_cons] at short
    obtain ⟨t, te', rfl, -, -, -⟩ := Expr.spelled_head firstSpelled
    rw [Parse.argumentsTail]
    simp only [List.cons_append, check_cons commaNotEnd, commaKind, beq_self_eq_true, if_true,
      advance_cons commaNotEnd, List.append_assoc]
    by_cases firstShort : c < e.frames
    · have needs := (primary_spelling_needs e first firstSpelled).unary firstSpelled
      exact (needs.expression (by have := e.six_le_frames; omega) _ firstShort).bind
    · obtain ⟨e', -, read⟩ := primary_spelling e first firstSpelled
      obtain ⟨v, after, following, closer⟩ := closer_of_commaSpelling moreSpelled closeKind rest
      have readNext : Parse.expression c ((t :: te') ++ v :: after) = .ok (e', v :: after) :=
        (read.unary firstSpelled).expression (by omega) (by have := e.six_le_frames; omega) closer
      rw [← following] at readNext
      have shorter : (tmore ++ close :: rest).length <
          (w :: t :: (te' ++ (tmore ++ close :: rest))).length := by
        simp only [List.length_cons, List.length_append]
        omega
      simp only [List.cons_append] at readNext
      rw [readNext, ok_bind]
      simp only [shorter, dif_pos]
      exact argumentsTail_spelling_needs more others moreSpelled c _ close rest (by omega) closeKind

end

/--
The expression rule fails on the spelling of a printable expression, whatever
follows, with fewer frames than its printed form takes, and the error it gives
is that the expression is nested too deeply.
-/
theorem expression_spelling_needs {e : Expr} (printable : e.Printable) {ts : List Token}
    (spelled : ts.map Token.shape = e.spelling) {b : Nat} (rest : List Token)
    (short : b < e.frames) : TooDeep (Parse.expression b (ts ++ rest)) :=
  ((primary_spelling_needs e printable spelled).unary spelled).expression
    (by have := e.six_le_frames; omega) rest short

end Parse

end GameScript

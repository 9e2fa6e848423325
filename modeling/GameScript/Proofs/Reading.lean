import GameScript.Syntax.Parse
import GameScript.Proofs.Grammar

/-!
# What the reader reads

The reader of `GameScript.Syntax.Parse` works on a token stream that ends
with an end-of-input token, while the grammar of `GameScript.Proofs.Grammar`
reads lists without one.  A stream is therefore seen as a clean list (one
with no end-of-input token) followed by a single end token `e`, and every
rule of the reader leaves a stream of that shape again.

The module first gives the reader's primitives on such streams, and the
three binary levels of expressions as one family indexed by
`Grammar.Level`.  Its main results are the soundness halves of acceptance:
whatever the reader reads with success, with any number of frames, is a
derivation of the grammar.  The reader's rules recurse on the frames left
and, inside a rule, on shorter streams; the proofs follow the same order:
induction on the frames for the rules that take one, and recursion on the
length for the repetitions.
-/

namespace GameScript.Grammar

open Parse

/-! ## Streams -/

/-- A token list with no end-of-input token in it. -/
def Clean (ts : List Token) : Prop :=
  ∀ t ∈ ts, t.kind ≠ .endOfInput

theorem Clean.head (clean : Clean (t :: ts)) : t.kind ≠ .endOfInput :=
  clean t (List.mem_cons_self ..)

theorem Clean.tail (clean : Clean (t :: ts)) : Clean ts :=
  fun u member => clean u (List.mem_cons_of_mem _ member)

theorem Clean.of_suffix (clean : Clean ts) (suffix : rest <:+ ts) : Clean rest :=
  fun t member => clean t (suffix.subset member)

/-- A rule that reads at least one token leaves a shorter stream, as the loops of the reader check. -/
theorem stream_shorter {e t : Token} (suffix : rest <:+ ts) :
    (rest ++ [e]).length < (t :: (ts ++ [e])).length := by
  have := suffix.length_le
  simp only [List.length_append, List.length_cons, List.length_nil]
  omega

section View

variable {t u e : Token} {ts : List Token} {k : TokenKind}

@[simp]
theorem peek_cons : peek (t :: ts) = t := rfl

theorem atEnd_cons (ht : t.kind ≠ .endOfInput) : atEnd (t :: ts) = false := by
  simp [atEnd, ht]

theorem atEnd_single (he : e.kind = .endOfInput) : atEnd [e] = true := by
  simp [atEnd, he]

theorem check_cons (ht : t.kind ≠ .endOfInput) : check k (t :: ts) = (t.kind == k) := by
  simp [check, atEnd_cons ht]

theorem check_single (he : e.kind = .endOfInput) : check k [e] = false := by
  simp [check, atEnd_single he]

theorem advance_cons (ht : t.kind ≠ .endOfInput) : advance (t :: ts) = ts := by
  simp [advance, atEnd_cons ht]

theorem advance_single (he : e.kind = .endOfInput) : advance [e] = [e] := by
  simp [advance, atEnd_single he]

@[simp]
theorem peekNext_cons_cons : peekNext (t :: u :: ts) = u := rfl

@[simp]
theorem peekNext_single : peekNext [t] = t := rfl

/-- Taking a token of a kind reads exactly one token of that kind. -/
theorem expect_ok (he : e.kind = .endOfInput) (clean : Clean ts)
    (run : expect k what (ts ++ [e]) = .ok (token, out)) :
    ∃ t ts', ts = t :: ts' ∧ t.kind = k ∧ out = ts' ++ [e] := by
  cases ts with
  | nil => simp [expect, check_single he] at run
  | cons t ts' =>
      simp only [List.cons_append, expect, check_cons clean.head, beq_iff_eq] at run
      split at run
      · next kind =>
          simp only [Except.ok.injEq, Prod.mk.injEq] at run
          exact ⟨t, ts', rfl, kind, by rw [← run.2, advance_cons clean.head]⟩
      · simp at run

/-- Taking a name reads exactly one identifier. -/
theorem name_ok (he : e.kind = .endOfInput) (clean : Clean ts)
    (run : name message (ts ++ [e]) = .ok (token, out)) :
    ∃ t ts', ts = t :: ts' ∧ t.kind = .identifier ∧ out = ts' ++ [e] := by
  cases ts with
  | nil => simp [name, check_single he] at run
  | cons t ts' =>
      simp only [List.cons_append, name, check_cons clean.head, beq_iff_eq] at run
      split at run
      · next kind =>
          simp only [Except.ok.injEq, Prod.mk.injEq] at run
          exact ⟨t, ts', rfl, kind, by rw [← run.2, advance_cons clean.head]⟩
      · simp at run

theorem expect_cons (ht : t.kind = k) (hk : k ≠ .endOfInput) :
    expect k what (t :: ts) = .ok (t, ts) := by
  subst ht
  simp [expect, check_cons hk, advance_cons hk]

theorem name_cons (ht : t.kind = .identifier) :
    name message (t :: ts) = .ok (t, ts) := by
  have clean : t.kind ≠ .endOfInput := by simp [ht]
  simp [name, check_cons clean, advance_cons clean, ht]

end View

theorem bind_eq_ok {x : Except ε α} {f : α → Except ε β} :
    x >>= f = .ok y ↔ ∃ a, x = .ok a ∧ f a = .ok y := by
  cases x <;> simp [bind, Except.bind]

theorem ok_bind (a : α) (f : α → Except ε β) : (Except.ok a >>= f) = f a := rfl

/-! ## The binary levels as one family -/

namespace Level

/-- The reader of a binary level. -/
def reader : Level → Nat → List Token → Except SyntaxError (Expr × List Token)
  | .comparison => Parse.comparison
  | .sum => Parse.addition
  | .product => Parse.multiplication

/-- The reader of a level's operands: the next tighter level, or prefix operations. -/
def operandReader : Level → Nat → List Token → Except SyntaxError (Expr × List Token)
  | .comparison => Parse.addition
  | .sum => Parse.multiplication
  | .product => Parse.unary

/-- The reader of the operations after a level's first operand. -/
def tail : Level → Nat → Expr → List Token → Except SyntaxError (Expr × List Token)
  | .comparison => Parse.comparisonTail
  | .sum => Parse.additionTail
  | .product => Parse.multiplicationTail

/-- The operator a token is at a level, if any. -/
def operator? : Level → TokenKind → Option BinOp
  | .comparison => comparisonOp?
  | .sum => additiveOp?
  | .product => multiplicativeOp?

theorem operator?_isSome (level : Level) (k : TokenKind) :
    (level.operator? k).isSome ↔ level.Joins k := by
  cases level <;> cases k <;>
    simp [operator?, Joins, comparisonOp?, additiveOp?, multiplicativeOp?]

theorem reader_zero (level : Level) (ts : List Token) :
    level.reader 0 ts = .error (.tooDeep (peek ts)) := by
  cases level <;> simp [reader, Parse.comparison, Parse.addition, Parse.multiplication]

theorem reader_succ (level : Level) (b : Nat) (ts : List Token) :
    level.reader (b + 1) ts =
      (do let (left, rest) ← level.operandReader b ts; level.tail b left rest) := by
  cases level <;> simp [reader, operandReader, tail, Parse.comparison, Parse.addition,
    Parse.multiplication]

/-- The operations after a first operand, as the reader of each level runs them. -/
theorem tail_eq (level : Level) (b : Nat) (left : Expr) (ts : List Token) :
    level.tail b left ts =
      (match (if atEnd ts then none else level.operator? (peek ts).kind) with
      | none => .ok (left, ts)
      | some op => do
        let (right, rest) ← level.operandReader b (advance ts)
        let node := Expr.binary op left right (peek ts).position
        if _ : rest.length < ts.length then level.tail b node rest
        else .ok (node, rest)) := by
  cases level with
  | comparison => rw [tail, Parse.comparisonTail]; rfl
  | sum => rw [tail, Parse.additionTail]; rfl
  | product => rw [tail, Parse.multiplicationTail]; rfl

end Level

/-! ## Token classes of the reader -/

theorem prefixOp?_isSome (k : TokenKind) : (prefixOp? k).isSome ↔ IsUnaryOperator k := by
  cases k <;> simp [prefixOp?, IsUnaryOperator]

theorem assignOp?_isSome (k : TokenKind) : (assignOp? k).isSome ↔ IsAssignment k := by
  cases k <;> simp [assignOp?, IsAssignment]

theorem literal?_isSome (t : Token) : (literal? t).isSome ↔ LiteralToken t := by
  unfold literal? LiteralToken
  cases t.kind <;> simp [IsLiteral]

/-! ## Soundness of the expression rules -/

/--
A reader is sound for a relation when every successful run on a clean list
followed by the end token reads a phrase of the relation and leaves a clean
list followed by the same end token.
-/
def Sound (e : Token) (run : List Token → Except SyntaxError (α × List Token))
    (R : List Token → List Token → Prop) : Prop :=
  ∀ ts x out, Clean ts → run (ts ++ [e]) = .ok (x, out) → ∃ rest, out = rest ++ [e] ∧ R ts rest

theorem Sound.mono {run : List Token → Except SyntaxError (α × List Token)}
    (sound : Sound e run R) (weaken : ∀ {ts rest}, R ts rest → R' ts rest) : Sound e run R' :=
  fun ts x out clean read =>
    let ⟨rest, shape, derivation⟩ := sound ts x out clean read
    ⟨rest, shape, weaken derivation⟩

/-- A rule that has no frame left reads nothing, so it reads no wrong phrase. -/
theorem Sound.of_fails {run : List Token → Except SyntaxError (α × List Token)}
    (fails : ∀ ts, ∃ error, run ts = .error error) : Sound e run R := by
  intro ts x out _ read
  obtain ⟨error, failed⟩ := fails (ts ++ [e])
  rw [failed] at read
  cases read

theorem operand_sound (binary : ∀ level, Sound e (Level.reader level b) (Binary level))
    (unary : Sound e (Parse.unary b) Unary) (level : Level) :
    Sound e (level.operandReader b) (Operand level) := by
  cases level with
  | comparison => exact (binary .sum).mono .sum
  | sum => exact (binary .product).mono .product
  | product => exact unary.mono .unary

section Expressions

variable {e : Token} (he : e.kind = .endOfInput)
include he

/-- The operations after an operand form a chain of the level. -/
theorem chain_sound {level : Level} (operand : Sound e (level.operandReader b) (Operand level)) :
    ∀ (left : Expr) ts x out, Clean ts → level.tail b left (ts ++ [e]) = .ok (x, out) →
      ∃ rest, out = rest ++ [e] ∧ Chain level ts rest
  | left, [], x, out, _, read => by
      rw [Level.tail_eq] at read
      simp only [List.nil_append, atEnd_single he, if_true, Except.ok.injEq,
        Prod.mk.injEq] at read
      exact ⟨[], read.2.symm, .stop (by simp)⟩
  | left, t :: ts, x, out, clean, read => by
      rw [Level.tail_eq] at read
      simp only [List.cons_append, atEnd_cons clean.head, peek_cons, Bool.false_eq_true,
        if_false, advance_cons clean.head] at read
      cases joins : level.operator? t.kind with
      | none =>
          simp only [joins, Except.ok.injEq, Prod.mk.injEq] at read
          have stops : ¬ level.Joins t.kind := by
            rw [← Level.operator?_isSome, joins]
            simp
          exact ⟨t :: ts, read.2.symm, .stop (by simpa using stops)⟩
      | some op =>
          simp only [joins] at read
          obtain ⟨⟨right, after⟩, readRight, readMore⟩ := bind_eq_ok.1 read
          obtain ⟨mid, rfl, derivation⟩ := operand ts right after clean.tail readRight
          have shorter : mid.length < (t :: ts).length := by
            have := derivation.suffix.length_le
            simp only [List.length_cons]
            omega
          have streamShorter : (mid ++ [e]).length < (t :: (ts ++ [e])).length := by
            simpa using shorter
          simp only [streamShorter, dif_pos] at readMore
          obtain ⟨rest, rfl, chain⟩ :=
            chain_sound operand _ mid x out (clean.tail.of_suffix derivation.suffix) readMore
          have stepJoins : level.Joins t.kind := by
            rw [← Level.operator?_isSome, joins]
            rfl
          exact ⟨rest, rfl, .link stepJoins derivation chain⟩
termination_by _ ts => ts.length
decreasing_by exact shorter

/-- The arguments after commas form the rest of an argument list. -/
theorem moreArguments_sound (expression : Sound e (Parse.expression b) Expression) :
    ∀ (args : List Expr) ts x out, Clean ts →
      Parse.argumentsTail b args (ts ++ [e]) = .ok (x, out) →
        ∃ rest, out = rest ++ [e] ∧ MoreArguments ts rest
  | args, [], x, out, _, read => by
      rw [Parse.argumentsTail] at read
      simp only [List.nil_append, check_single he, Bool.false_eq_true, if_false,
        Except.ok.injEq, Prod.mk.injEq] at read
      exact ⟨[], read.2.symm, .stop (by simp)⟩
  | args, t :: ts, x, out, clean, read => by
      rw [Parse.argumentsTail] at read
      simp only [List.cons_append, check_cons clean.head, beq_iff_eq,
        advance_cons clean.head] at read
      by_cases comma : t.kind = .comma
      · simp only [comma, if_true] at read
        obtain ⟨⟨next, after⟩, readNext, readMore⟩ := bind_eq_ok.1 read
        obtain ⟨mid, rfl, derivation⟩ := expression ts next after clean.tail readNext
        have shorter : mid.length < (t :: ts).length := by
          have := derivation.suffix.length_le
          simp only [List.length_cons]
          omega
        have streamShorter : (mid ++ [e]).length < (t :: (ts ++ [e])).length := by
          simpa using shorter
        simp only [streamShorter, dif_pos] at readMore
        obtain ⟨rest, rfl, more⟩ := moreArguments_sound expression _ mid x out
          (clean.tail.of_suffix derivation.suffix) readMore
        exact ⟨rest, rfl, .comma comma derivation more⟩
      · simp only [comma, if_false, Except.ok.injEq, Prod.mk.injEq] at read
        exact ⟨t :: ts, read.2.symm, .stop (by simpa using comma)⟩
termination_by _ ts => ts.length
decreasing_by exact shorter

/-- The expression rules with a number of frames read only derivations. -/
structure ExpressionsSound (e : Token) (b : Nat) : Prop where
  expression : Sound e (Parse.expression b) Expression
  binary : ∀ level : Level, Sound e (level.reader b) (Binary level)
  unary : Sound e (Parse.unary b) Unary
  primary : Sound e (Parse.primary b) Primary
  arguments : Sound e (Parse.arguments b) Arguments
  chain : ∀ (level : Level) left, Sound e (level.tail b left) (Chain level)
  moreArguments : ∀ args, Sound e (Parse.argumentsTail b args) MoreArguments

/-- The repetitions are sound as soon as the rules they repeat are. -/
theorem ExpressionsSound.ofRules
    (expression : Sound e (Parse.expression b) Expression)
    (binary : ∀ level : Level, Sound e (level.reader b) (Binary level))
    (unary : Sound e (Parse.unary b) Unary) (primary : Sound e (Parse.primary b) Primary)
    (arguments : Sound e (Parse.arguments b) Arguments) : ExpressionsSound e b where
  expression := expression
  binary := binary
  unary := unary
  primary := primary
  arguments := arguments
  chain level := chain_sound he (operand_sound binary unary level)
  moreArguments := moreArguments_sound he expression

variable {b : Nat} (ih : ExpressionsSound e b)
include ih

omit he in
theorem expression_sound_succ : Sound e (Parse.expression (b + 1)) Expression := by
  intro ts x out clean read
  rw [Parse.expression.eq_2] at read
  exact ih.binary .comparison ts x out clean read

omit he in
theorem binary_sound_succ (level : Level) : Sound e (level.reader (b + 1)) (Binary level) := by
  intro ts x out clean read
  rw [Level.reader_succ] at read
  obtain ⟨⟨left, after⟩, readLeft, readChain⟩ := bind_eq_ok.1 read
  obtain ⟨mid, rfl, operand⟩ :=
    operand_sound ih.binary ih.unary level ts left after clean readLeft
  obtain ⟨rest, rfl, chain⟩ :=
    ih.chain level left mid x out (clean.of_suffix operand.suffix) readChain
  exact ⟨rest, rfl, .chain operand chain⟩

theorem unary_sound_succ : Sound e (Parse.unary (b + 1)) Unary := by
  intro ts x out clean read
  rw [Parse.unary.eq_2] at read
  cases ts with
  | nil =>
      simp only [List.nil_append, atEnd_single he, if_true] at read
      exact (ih.primary.mono .primary) [] x out clean read
  | cons t ts =>
      simp only [List.cons_append, atEnd_cons clean.head, peek_cons, Bool.false_eq_true,
        if_false] at read
      cases operator : prefixOp? t.kind with
      | none =>
          simp only [operator] at read
          exact (ih.primary.mono .primary) (t :: ts) x out clean read
      | some op =>
          simp only [operator, advance_cons clean.head] at read
          obtain ⟨⟨operand, after⟩, readOperand, done⟩ := bind_eq_ok.1 read
          obtain ⟨rest, rfl, unary⟩ := ih.unary ts operand after clean.tail readOperand
          simp only [pure, Except.pure, Except.ok.injEq, Prod.mk.injEq] at done
          have isOperator : IsUnaryOperator t.kind := by
            rw [← prefixOp?_isSome, operator]
            rfl
          exact ⟨rest, done.2.symm, .prefixed isOperator unary⟩

/--
Arguments the reader reads are a derivation; no expression starts at the end,
so the list cannot be read either.
-/
theorem arguments_sound_succ : Sound e (Parse.arguments (b + 1)) Arguments := by
  intro ts x out clean read
  rw [Parse.arguments.eq_2] at read
  obtain ⟨⟨_, afterOpening⟩, readOpening, read⟩ := bind_eq_ok.1 read
  obtain ⟨opening, ts, rfl, isOpening, rfl⟩ := expect_ok he clean readOpening
  have clean' := clean.tail
  cases ts with
  | nil =>
      simp only [List.nil_append, check_single he, Bool.false_eq_true, if_false] at read
      obtain ⟨⟨first, afterFirst⟩, readFirst, _⟩ := bind_eq_ok.1 read
      obtain ⟨mid, _, firstDerivation⟩ := ih.expression [] first afterFirst clean' readFirst
      obtain ⟨_, _, split, _⟩ := firstDerivation.starts
      cases split
  | cons t ts =>
      simp only [List.cons_append, check_cons clean'.head, beq_iff_eq] at read
      by_cases close : t.kind = .rightParen
      · simp only [close, if_true] at read
        obtain ⟨⟨_, afterClose⟩, readClose, done⟩ := bind_eq_ok.1 read
        rw [expect_cons close (by simp)] at readClose
        cases readClose
        simp only [pure, Except.pure, Except.ok.injEq, Prod.mk.injEq] at done
        exact ⟨ts, done.2.symm, .empty isOpening close⟩
      · simp only [close, if_false] at read
        obtain ⟨⟨first, afterFirst⟩, readFirst, read⟩ := bind_eq_ok.1 read
        obtain ⟨mid, rfl, firstDerivation⟩ := ih.expression (t :: ts) first afterFirst clean' readFirst
        obtain ⟨⟨args, afterArgs⟩, readArgs, read⟩ := bind_eq_ok.1 read
        obtain ⟨mid', rfl, more⟩ := ih.moreArguments [first] mid args afterArgs
          (clean'.of_suffix firstDerivation.suffix) readArgs
        obtain ⟨⟨_, afterClose⟩, readClose, done⟩ := bind_eq_ok.1 read
        obtain ⟨closing, rest, rfl, isClose, rfl⟩ := expect_ok he
          ((clean'.of_suffix firstDerivation.suffix).of_suffix more.suffix) readClose
        simp only [pure, Except.pure, Except.ok.injEq, Prod.mk.injEq] at done
        exact ⟨rest, done.2.symm, .list isOpening firstDerivation more isClose⟩

/--
A primary phrase the reader reads is a derivation; a name followed by `(` is a
call, any other name stands alone.
-/
theorem primary_sound_succ : Sound e (Parse.primary (b + 1)) Primary := by
  intro ts x out clean read
  rw [Parse.primary.eq_2] at read
  cases ts with
  | nil =>
      simp [atEnd_single he, check_single he] at read
      by_cases number : e.kind = .number <;> simp [number] at read
  | cons t ts =>
      simp only [List.cons_append, atEnd_cons clean.head, peek_cons, Bool.false_eq_true,
        if_false, check_cons clean.head, beq_iff_eq, advance_cons clean.head] at read
      cases literal : literal? t with
      | some lit =>
          simp only [literal, Except.ok.injEq, Prod.mk.injEq] at read
          have isLiteral : LiteralToken t := by
            rw [← literal?_isSome, literal]
            rfl
          exact ⟨ts, read.2.symm, .literal isLiteral⟩
      | none =>
          simp only [literal] at read
          by_cases isName : t.kind = .identifier
          · simp only [isName, if_true] at read
            cases ts with
            | nil =>
                simp only [List.nil_append, check_single he, Bool.false_eq_true, if_false,
                  Except.ok.injEq, Prod.mk.injEq] at read
                exact ⟨[], read.2.symm, .name isName (by simp)⟩
            | cons u ts =>
                simp only [List.cons_append, check_cons clean.tail.head, beq_iff_eq] at read
                by_cases opening : u.kind = .leftParen
                · simp only [opening, if_true] at read
                  obtain ⟨⟨args, after⟩, readArgs, done⟩ := bind_eq_ok.1 read
                  obtain ⟨rest, rfl, arguments⟩ :=
                    ih.arguments (u :: ts) args after clean.tail readArgs
                  simp only [pure, Except.pure, Except.ok.injEq, Prod.mk.injEq] at done
                  exact ⟨rest, done.2.symm, .call isName arguments⟩
                · simp only [opening, if_false, Except.ok.injEq, Prod.mk.injEq] at read
                  exact ⟨u :: ts, read.2.symm, .name isName (by simpa using opening)⟩
          · simp only [isName, if_false] at read
            by_cases opening : t.kind = .leftParen
            · simp only [opening, if_true] at read
              obtain ⟨⟨inner, after⟩, readInner, read⟩ := bind_eq_ok.1 read
              obtain ⟨mid, rfl, innerDerivation⟩ :=
                ih.expression ts inner after clean.tail readInner
              obtain ⟨⟨_, afterClose⟩, readClose, done⟩ := bind_eq_ok.1 read
              obtain ⟨close, rest, rfl, isClose, rfl⟩ :=
                expect_ok he (clean.tail.of_suffix innerDerivation.suffix) readClose
              simp only [pure, Except.pure, Except.ok.injEq, Prod.mk.injEq] at done
              exact ⟨rest, done.2.symm, .group opening innerDerivation isClose⟩
            · simp [opening] at read
              by_cases number : t.kind = .number <;> simp [number] at read

end Expressions

/-- With any number of frames, the expression rules read only derivations. -/
theorem expressionsSound (he : e.kind = .endOfInput) (b : Nat) : ExpressionsSound e b := by
  induction b with
  | zero =>
      exact .ofRules he (.of_fails fun ts => ⟨_, Parse.expression.eq_1 ts⟩)
        (fun level => .of_fails fun ts => ⟨_, level.reader_zero ts⟩)
        (.of_fails fun ts => ⟨_, Parse.unary.eq_1 ts⟩)
        (.of_fails fun ts => ⟨_, Parse.primary.eq_1 ts⟩)
        (.of_fails fun ts => ⟨_, Parse.arguments.eq_1 ts⟩)
  | succ b ih =>
      exact .ofRules he (expression_sound_succ ih) (binary_sound_succ ih) (unary_sound_succ he ih)
        (primary_sound_succ he ih) (arguments_sound_succ he ih)

/-! ## Soundness of the statement rules -/

/--
The statement rules with a number of frames read only derivations.  A
statement is read only where the repetition of statements calls for one, so
its soundness is stated from a first token other than `}`; an assignment and
a call are entered only once their first two tokens are known.
-/
structure StatementsSound (e : Token) (b : Nat) : Prop where
  block : Sound e (Parse.block b) Block
  statements : ∀ body, Sound e (Parse.statements b body) Statements
  statement : ∀ t ts x out, Clean (t :: ts) → t.kind ≠ .rightBrace →
    Parse.statement b ((t :: ts) ++ [e]) = .ok (x, out) →
      ∃ rest, out = rest ++ [e] ∧ Statement (t :: ts) rest
  ifStatement : Sound e (Parse.ifStatement b) Statement
  assignment : ∀ t u ts x out, Clean (t :: u :: ts) → t.kind = .identifier →
    IsAssignment u.kind → Parse.assignment b ((t :: u :: ts) ++ [e]) = .ok (x, out) →
      ∃ rest, out = rest ++ [e] ∧ Statement (t :: u :: ts) rest
  callStatement : ∀ t ts x out, Clean (t :: ts) → t.kind = .identifier →
    Parse.callStatement b ((t :: ts) ++ [e]) = .ok (x, out) →
      ∃ rest, out = rest ++ [e] ∧ Statement (t :: ts) rest

section Statements

variable {e : Token} (he : e.kind = .endOfInput)
include he

/-- Statements are read one after another up to a closing brace or the end. -/
theorem statements_sound
    (statement : ∀ t ts x out, Clean (t :: ts) → t.kind ≠ .rightBrace →
      Parse.statement b ((t :: ts) ++ [e]) = .ok (x, out) →
        ∃ rest, out = rest ++ [e] ∧ Statement (t :: ts) rest) :
    ∀ (body : List Stmt) ts x out, Clean ts →
      Parse.statements b body (ts ++ [e]) = .ok (x, out) →
        ∃ rest, out = rest ++ [e] ∧ Statements ts rest
  | body, [], x, out, _, read => by
      rw [Parse.statements] at read
      simp only [List.nil_append, check_single he, atEnd_single he, Bool.or_true, if_true,
        Except.ok.injEq, Prod.mk.injEq] at read
      exact ⟨[], read.2.symm, .stop (by simp)⟩
  | body, t :: ts, x, out, clean, read => by
      rw [Parse.statements] at read
      simp only [List.cons_append, check_cons clean.head, atEnd_cons clean.head,
        Bool.or_false, beq_iff_eq] at read
      by_cases close : t.kind = .rightBrace
      · simp only [close, if_true, Except.ok.injEq, Prod.mk.injEq] at read
        exact ⟨t :: ts, read.2.symm, .stop (by simpa using close)⟩
      · simp only [close, if_false] at read
        obtain ⟨⟨stmt, after⟩, readStatement, readMore⟩ := bind_eq_ok.1 read
        obtain ⟨mid, rfl, first⟩ := statement t ts stmt after clean close readStatement
        have shorter : mid.length < (t :: ts).length := by
          obtain ⟨_, _, split, _, read⟩ := first.starts
          cases split
          have := read.length_le
          simp only [List.length_cons]
          omega
        have streamShorter : (mid ++ [e]).length < (t :: (ts ++ [e])).length := by
          simpa using shorter
        simp only [streamShorter, dif_pos] at readMore
        obtain ⟨rest, rfl, more⟩ := statements_sound statement _ mid x out
          (clean.of_suffix first.suffix) readMore
        exact ⟨rest, rfl, .next first more⟩
termination_by _ ts => ts.length
decreasing_by exact shorter

variable {b : Nat} (expressions : ExpressionsSound e b) (ih : StatementsSound e b)
include expressions

omit ih in
theorem assignment_sound_succ (t u : Token) (ts : List Token) (x : Stmt) (out : List Token)
    (clean : Clean (t :: u :: ts)) (target : t.kind = .identifier)
    (operator : IsAssignment u.kind)
    (read : Parse.assignment (b + 1) ((t :: u :: ts) ++ [e]) = .ok (x, out)) :
    ∃ rest, out = rest ++ [e] ∧ Statement (t :: u :: ts) rest := by
  rw [Parse.assignment] at read
  simp only [List.cons_append, advance_cons clean.head, advance_cons clean.tail.head] at read
  obtain ⟨⟨value, after⟩, readValue, read⟩ := bind_eq_ok.1 read
  obtain ⟨mid, rfl, valueDerivation⟩ :=
    expressions.expression ts value after clean.tail.tail readValue
  obtain ⟨⟨_, afterSemicolon⟩, readSemicolon, done⟩ := bind_eq_ok.1 read
  obtain ⟨semicolon, rest, rfl, isSemicolon, rfl⟩ :=
    expect_ok he (clean.tail.tail.of_suffix valueDerivation.suffix) readSemicolon
  simp only [pure, Except.pure, Except.ok.injEq, Prod.mk.injEq] at done
  exact ⟨rest, done.2.symm, .assign target operator valueDerivation isSemicolon⟩

omit ih in
theorem callStatement_sound_succ (t : Token) (ts : List Token) (x : Stmt) (out : List Token)
    (clean : Clean (t :: ts)) (function : t.kind = .identifier)
    (read : Parse.callStatement (b + 1) ((t :: ts) ++ [e]) = .ok (x, out)) :
    ∃ rest, out = rest ++ [e] ∧ Statement (t :: ts) rest := by
  rw [Parse.callStatement] at read
  simp only [List.cons_append, advance_cons clean.head] at read
  obtain ⟨⟨args, after⟩, readArgs, read⟩ := bind_eq_ok.1 read
  obtain ⟨mid, rfl, arguments⟩ := expressions.arguments ts args after clean.tail readArgs
  obtain ⟨⟨_, afterSemicolon⟩, readSemicolon, done⟩ := bind_eq_ok.1 read
  obtain ⟨semicolon, rest, rfl, isSemicolon, rfl⟩ :=
    expect_ok he (clean.tail.of_suffix arguments.suffix) readSemicolon
  simp only [pure, Except.pure, Except.ok.injEq, Prod.mk.injEq] at done
  exact ⟨rest, done.2.symm, .call function arguments isSemicolon⟩

include ih

theorem ifStatement_sound_succ : Sound e (Parse.ifStatement (b + 1)) Statement := by
  intro ts x out clean read
  rw [Parse.ifStatement] at read
  obtain ⟨⟨_, afterKeyword⟩, readKeyword, read⟩ := bind_eq_ok.1 read
  obtain ⟨keyword, ts, rfl, isKeyword, rfl⟩ := expect_ok he clean readKeyword
  obtain ⟨⟨condition, after⟩, readCondition, read⟩ := bind_eq_ok.1 read
  obtain ⟨mid, rfl, conditionDerivation⟩ :=
    expressions.expression ts condition after clean.tail readCondition
  obtain ⟨⟨body, afterBody⟩, readBody, done⟩ := bind_eq_ok.1 read
  obtain ⟨rest, rfl, block⟩ := ih.block mid body afterBody
    (clean.tail.of_suffix conditionDerivation.suffix) readBody
  simp only [pure, Except.pure, Except.ok.injEq, Prod.mk.injEq] at done
  exact ⟨rest, done.2.symm, .ifThen isKeyword conditionDerivation block⟩

omit expressions in
theorem block_sound_succ : Sound e (Parse.block (b + 1)) Block := by
  intro ts x out clean read
  rw [Parse.block] at read
  obtain ⟨⟨_, afterOpening⟩, readOpening, read⟩ := bind_eq_ok.1 read
  obtain ⟨opening, ts, rfl, isOpening, rfl⟩ := expect_ok he clean readOpening
  obtain ⟨⟨body, after⟩, readBody, read⟩ := bind_eq_ok.1 read
  obtain ⟨mid, rfl, statements⟩ := ih.statements [] ts body after clean.tail readBody
  obtain ⟨⟨_, afterClose⟩, readClose, done⟩ := bind_eq_ok.1 read
  obtain ⟨close, rest, rfl, isClose, rfl⟩ :=
    expect_ok he (clean.tail.of_suffix statements.suffix) readClose
  simp only [pure, Except.pure, Except.ok.injEq, Prod.mk.injEq] at done
  exact ⟨rest, done.2.symm, .braces isOpening statements isClose⟩

omit expressions in
/--
A statement is chosen by its first two tokens: `if`, a name and an assignment
operator, a name and `(`, or else the first token alone. The end token after a
single token starts neither an assignment nor a call.
-/
theorem statement_sound_succ (t : Token) (ts : List Token) (x : Stmt) (out : List Token)
    (clean : Clean (t :: ts)) (close : t.kind ≠ .rightBrace)
    (read : Parse.statement (b + 1) ((t :: ts) ++ [e]) = .ok (x, out)) :
    ∃ rest, out = rest ++ [e] ∧ Statement (t :: ts) rest := by
  rw [Parse.statement] at read
  simp only [List.cons_append, check_cons clean.head, beq_iff_eq] at read
  by_cases keyword : t.kind = .keywordIf
  · simp only [keyword, if_true] at read
    exact ih.ifStatement (t :: ts) x out clean read
  simp only [keyword, if_false] at read
  cases ts with
  | nil =>
      have noAssignment : (assignOp? e.kind).isSome = false := by simp [he, assignOp?]
      have noCall : (e.kind == .leftParen) = false := by simp [he]
      simp only [List.nil_append, peekNext_cons_cons, noAssignment, noCall, Bool.and_false,
        Bool.false_eq_true, if_false, advance_cons clean.head, Except.ok.injEq,
        Prod.mk.injEq] at read
      exact ⟨[], read.2.symm, .unknown keyword close (by simp)⟩
  | cons u ts =>
      simp only [List.cons_append, peekNext_cons_cons] at read
      by_cases assignment : t.kind = .identifier ∧ IsAssignment u.kind
      · have chosen : ((t.kind == .identifier) && (assignOp? u.kind).isSome) = true := by
          simp [assignment.1, (assignOp?_isSome u.kind).2 assignment.2]
        simp only [chosen, if_true] at read
        exact ih.assignment t u ts x out clean assignment.1 assignment.2 read
      have skipped : ((t.kind == .identifier) && (assignOp? u.kind).isSome) = false := by
        rw [Bool.and_eq_false_iff, beq_eq_false_iff_ne, ne_eq, Bool.eq_false_iff, ne_eq,
          assignOp?_isSome]
        tauto
      simp only [skipped, Bool.false_eq_true, if_false] at read
      by_cases call : t.kind = .identifier ∧ u.kind = .leftParen
      · have chosen : ((t.kind == .identifier) && (u.kind == .leftParen)) = true := by
          simp [call.1, call.2]
        simp only [chosen, if_true] at read
        exact ih.callStatement t (u :: ts) x out clean call.1 read
      have skippedCall : ((t.kind == .identifier) && (u.kind == .leftParen)) = false := by
        simpa using call
      simp only [skippedCall, Bool.false_eq_true, if_false, advance_cons clean.head,
        Except.ok.injEq, Prod.mk.injEq] at read
      refine ⟨u :: ts, read.2.symm, .unknown keyword close ?_⟩
      intro isName v head
      cases head
      exact ⟨fun isAssignment => assignment ⟨isName, isAssignment⟩,
        fun opening => call ⟨isName, opening⟩⟩

end Statements

/-- With any number of frames, the statement rules read only derivations. -/
theorem statementsSound (he : e.kind = .endOfInput) (b : Nat) : StatementsSound e b := by
  induction b with
  | zero =>
      have statement : ∀ t ts x out, Clean (t :: ts) → t.kind ≠ .rightBrace →
          Parse.statement 0 ((t :: ts) ++ [e]) = .ok (x, out) →
            ∃ rest, out = rest ++ [e] ∧ Statement (t :: ts) rest := by
        intro _ _ _ _ _ _ read
        rw [Parse.statement.eq_1] at read
        cases read
      exact {
        block := .of_fails fun ts => ⟨_, Parse.block.eq_1 ts⟩
        statements := statements_sound he statement
        statement := statement
        ifStatement := .of_fails fun ts => ⟨_, Parse.ifStatement.eq_1 ts⟩
        assignment := by
          intro _ _ _ _ _ _ _ _ read
          rw [Parse.assignment.eq_1] at read
          cases read
        callStatement := by
          intro _ _ _ _ _ _ read
          rw [Parse.callStatement.eq_1] at read
          cases read }
  | succ b ih =>
      have expressions := expressionsSound he b
      have statement := statement_sound_succ he ih
      exact {
        block := block_sound_succ he ih
        statements := statements_sound he statement
        statement := statement
        ifStatement := ifStatement_sound_succ he expressions ih
        assignment := assignment_sound_succ he expressions
        callStatement := callStatement_sound_succ he expressions }

/-! ## Soundness of the declaration rules -/

section Declarations

variable {e : Token} (he : e.kind = .endOfInput)
include he

/-- Parameters are read in pairs of names while a comma follows. -/
theorem parameters_sound :
    ∀ (params : List Param) ts x out, Clean ts →
      Parse.parameters params (ts ++ [e]) = .ok (x, out) →
        ∃ rest, out = rest ++ [e] ∧ Parameters ts rest
  | params, ts, x, out, clean, read => by
      rw [Parse.parameters] at read
      obtain ⟨⟨_, afterType⟩, readType, read⟩ := bind_eq_ok.1 read
      obtain ⟨type, ts, rfl, isType, rfl⟩ := name_ok he clean readType
      obtain ⟨⟨_, afterName⟩, readName, read⟩ := bind_eq_ok.1 read
      obtain ⟨name, ts, rfl, isName, rfl⟩ := name_ok he clean.tail readName
      cases ts with
      | nil =>
          simp only [List.nil_append, check_single he, Bool.false_eq_true, if_false,
            Except.ok.injEq, Prod.mk.injEq] at read
          exact ⟨[], read.2.symm, .last isType isName (by simp)⟩
      | cons separator ts =>
          have clean' := clean.tail.tail
          simp only [List.cons_append, check_cons clean'.head, beq_iff_eq,
            advance_cons clean'.head] at read
          by_cases comma : separator.kind = .comma
          · have shorter :
                (ts ++ [e]).length < (type :: name :: separator :: (ts ++ [e])).length := by
              simp
            simp only [comma, if_true, shorter, dif_pos] at read
            obtain ⟨rest, rfl, more⟩ := parameters_sound _ ts x out clean'.tail read
            exact ⟨rest, rfl, .more isType isName comma more⟩
          · simp only [comma, if_false, Except.ok.injEq, Prod.mk.injEq] at read
            exact ⟨separator :: ts, read.2.symm, .last isType isName (by simpa using comma)⟩
termination_by _ ts => ts.length

/--
A field the reader reads is a derivation; an initial value follows exactly
when the next token is `=`.
-/
theorem field_sound (b : Nat) : Sound e (Parse.field b) Field := by
  cases b with
  | zero => exact .of_fails fun ts => ⟨_, Parse.field.eq_1 ts⟩
  | succ b =>
      intro ts x out clean read
      rw [Parse.field] at read
      obtain ⟨⟨_, afterType⟩, readType, read⟩ := bind_eq_ok.1 read
      obtain ⟨type, ts, rfl, isType, rfl⟩ := name_ok he clean readType
      obtain ⟨⟨_, afterName⟩, readName, read⟩ := bind_eq_ok.1 read
      obtain ⟨name, ts, rfl, isName, rfl⟩ := name_ok he clean.tail readName
      have clean' := clean.tail.tail
      cases ts with
      | nil =>
          simp only [List.nil_append, check_single he, Bool.false_eq_true, if_false,
            pure_bind] at read
          obtain ⟨⟨_, afterSemicolon⟩, readSemicolon, _⟩ := bind_eq_ok.1 read
          obtain ⟨_, _, split, _⟩ := expect_ok he clean' readSemicolon
          cases split
      | cons assign ts =>
          simp only [List.cons_append, check_cons clean'.head, beq_iff_eq] at read
          by_cases isAssign : assign.kind = .assign
          · simp only [isAssign, if_true, advance_cons clean'.head, pure_bind] at read
            obtain ⟨⟨value, afterValue⟩, readValue, read⟩ := bind_eq_ok.1 read
            obtain ⟨mid, rfl, valueDerivation⟩ :=
              (expressionsSound he b).expression ts value afterValue clean'.tail readValue
            obtain ⟨⟨_, afterSemicolon⟩, readSemicolon, done⟩ := bind_eq_ok.1 read
            obtain ⟨semicolon, rest, rfl, isSemicolon, rfl⟩ :=
              expect_ok he (clean'.tail.of_suffix valueDerivation.suffix) readSemicolon
            simp only [pure, Except.pure, Except.ok.injEq, Prod.mk.injEq] at done
            exact ⟨rest, done.2.symm, .initialized isType isName isAssign valueDerivation
              isSemicolon⟩
          · simp only [isAssign, if_false, pure_bind] at read
            obtain ⟨⟨_, afterSemicolon⟩, readSemicolon, done⟩ := bind_eq_ok.1 read
            rw [← List.cons_append] at readSemicolon
            obtain ⟨semicolon, rest, split, isSemicolon, rfl⟩ :=
              expect_ok he clean' readSemicolon
            cases split
            simp only [pure, Except.pure, Except.ok.injEq, Prod.mk.injEq] at done
            exact ⟨_, done.2.symm, .plain isType isName isSemicolon⟩

/--
A method the reader reads is a derivation; it has no parameters exactly when
`)` follows at once.
-/
theorem method_sound (b : Nat) : Sound e (Parse.method b) Method := by
  cases b with
  | zero => exact .of_fails fun ts => ⟨_, Parse.method.eq_1 ts⟩
  | succ b =>
      intro ts x out clean read
      rw [Parse.method] at read
      obtain ⟨⟨_, afterKeyword⟩, readKeyword, read⟩ := bind_eq_ok.1 read
      obtain ⟨keyword, ts, rfl, isKeyword, rfl⟩ := expect_ok he clean readKeyword
      obtain ⟨⟨_, afterName⟩, readName, read⟩ := bind_eq_ok.1 read
      obtain ⟨name, ts, rfl, isName, rfl⟩ := name_ok he clean.tail readName
      obtain ⟨⟨_, afterOpening⟩, readOpening, read⟩ := bind_eq_ok.1 read
      obtain ⟨opening, ts, rfl, isOpening, rfl⟩ := expect_ok he clean.tail.tail readOpening
      have clean' := clean.tail.tail.tail
      by_cases bare : check .rightParen (ts ++ [e]) = true
      · simp only [bare, if_true, pure_bind] at read
        obtain ⟨⟨_, afterClose⟩, readClose, read⟩ := bind_eq_ok.1 read
        obtain ⟨close, ts, rfl, isClose, rfl⟩ := expect_ok he clean' readClose
        obtain ⟨⟨body, afterBody⟩, readBody, done⟩ := bind_eq_ok.1 read
        obtain ⟨rest, rfl, block⟩ :=
          (statementsSound he b).block ts body afterBody clean'.tail readBody
        simp only [pure, Except.pure, Except.ok.injEq, Prod.mk.injEq] at done
        exact ⟨rest, done.2.symm, .bare isKeyword isName isOpening isClose block⟩
      · simp only [bare, Bool.false_eq_true, if_false] at read
        obtain ⟨⟨params, afterParams⟩, readParams, read⟩ := bind_eq_ok.1 read
        obtain ⟨mid, rfl, parameters⟩ :=
          parameters_sound he [] ts params afterParams clean' readParams
        obtain ⟨⟨_, afterClose⟩, readClose, read⟩ := bind_eq_ok.1 read
        obtain ⟨close, mid, rfl, isClose, rfl⟩ :=
          expect_ok he (clean'.of_suffix parameters.suffix) readClose
        obtain ⟨⟨body, afterBody⟩, readBody, done⟩ := bind_eq_ok.1 read
        obtain ⟨rest, rfl, block⟩ := (statementsSound he b).block mid body afterBody
          ((clean'.of_suffix parameters.suffix).tail) readBody
        simp only [pure, Except.pure, Except.ok.injEq, Prod.mk.injEq] at done
        exact ⟨rest, done.2.symm,
          .withParameters isKeyword isName isOpening parameters isClose block⟩

/-- Members are read one after another up to a closing brace or the end. -/
theorem members_sound (b : Nat) :
    ∀ (fields : List FieldDecl) (methods : List MethodDecl) ts x out, Clean ts →
      Parse.members b fields methods (ts ++ [e]) = .ok (x, out) →
        ∃ rest, out = rest ++ [e] ∧ Members ts rest
  | fields, methods, [], x, out, _, read => by
      rw [Parse.members] at read
      simp only [List.nil_append, check_single he, atEnd_single he, Bool.or_true, if_true,
        Except.ok.injEq, Prod.mk.injEq] at read
      exact ⟨[], read.2.symm, .stop (by simp)⟩
  | fields, methods, t :: ts, x, out, clean, read => by
      rw [Parse.members] at read
      simp only [List.cons_append, check_cons clean.head, atEnd_cons clean.head,
        Bool.or_false, beq_iff_eq] at read
      by_cases close : t.kind = .rightBrace
      · simp only [close, if_true, Except.ok.injEq, Prod.mk.injEq] at read
        exact ⟨t :: ts, read.2.symm, .stop (by simpa using close)⟩
      simp only [close, if_false] at read
      by_cases isMethod : t.kind = .keywordFn
      · simp only [isMethod, if_true] at read
        cases readMethod : Parse.method b (t :: (ts ++ [e])) with
        | error => simp [readMethod] at read
        | ok result =>
            obtain ⟨m, after⟩ := result
            simp only [readMethod] at read
            obtain ⟨mid, rfl, method⟩ := method_sound he b (t :: ts) m after clean readMethod
            have shorter : mid.length < (t :: ts).length := by
              obtain ⟨_, _, split, _, read⟩ := method.starts
              cases split
              have := read.length_le
              simp only [List.length_cons]
              omega
            have streamShorter : (mid ++ [e]).length < (t :: (ts ++ [e])).length := by
              simpa using shorter
            simp only [streamShorter, dif_pos] at read
            obtain ⟨rest, rfl, more⟩ := members_sound b _ _ mid x out
              (clean.of_suffix method.suffix) read
            exact ⟨rest, rfl, .method method more⟩
      · simp only [isMethod, if_false] at read
        cases readField : Parse.field b (t :: (ts ++ [e])) with
        | error => simp [readField] at read
        | ok result =>
            obtain ⟨f, after⟩ := result
            simp only [readField] at read
            obtain ⟨mid, rfl, field⟩ := field_sound he b (t :: ts) f after clean readField
            have shorter : mid.length < (t :: ts).length := by
              obtain ⟨_, _, split, _, read⟩ := field.starts
              cases split
              have := read.length_le
              simp only [List.length_cons]
              omega
            have streamShorter : (mid ++ [e]).length < (t :: (ts ++ [e])).length := by
              simpa using shorter
            simp only [streamShorter, dif_pos] at read
            obtain ⟨rest, rfl, more⟩ := members_sound b _ _ mid x out
              (clean.of_suffix field.suffix) read
            exact ⟨rest, rfl, .field field more⟩
termination_by _ _ ts => ts.length
decreasing_by all_goals exact shorter

theorem component_sound : ∀ b start, Sound e (Parse.component b start) Component
  | 0, _ => .of_fails fun ts => ⟨_, Parse.component.eq_1 _ ts⟩
  | b + 1, start => by
      intro ts x out clean read
      rw [Parse.component] at read
      obtain ⟨⟨_, afterName⟩, readName, read⟩ := bind_eq_ok.1 read
      obtain ⟨name, ts, rfl, isName, rfl⟩ := name_ok he clean readName
      obtain ⟨⟨_, afterOpening⟩, readOpening, read⟩ := bind_eq_ok.1 read
      obtain ⟨opening, ts, rfl, isOpening, rfl⟩ := expect_ok he clean.tail readOpening
      obtain ⟨⟨_, afterMembers⟩, readMembers, read⟩ := bind_eq_ok.1 read
      obtain ⟨mid, rfl, members⟩ :=
        members_sound he b [] [] ts _ afterMembers clean.tail.tail readMembers
      obtain ⟨⟨_, afterClose⟩, readClose, done⟩ := bind_eq_ok.1 read
      obtain ⟨close, rest, rfl, isClose, rfl⟩ :=
        expect_ok he (clean.tail.tail.of_suffix members.suffix) readClose
      simp only [pure, Except.pure, Except.ok.injEq, Prod.mk.injEq] at done
      exact ⟨rest, done.2.symm, .braces isName isOpening members isClose⟩

/--
Soundness of acceptance: whatever the reader accepts, with any number of
frames, is a program of the grammar.
-/
theorem declarations_sound (b : Nat) :
    ∀ (found : List Declaration) ts ds, Clean ts →
      Parse.declarations b found (ts ++ [e]) = .ok ds → Program ts
  | _, [], _, _, _ => .nil
  | found, t :: ts, ds, clean, read => by
      rw [Parse.declarations] at read
      simp only [List.cons_append, atEnd_cons clean.head, Bool.false_eq_true, if_false,
        check_cons clean.head, beq_iff_eq, peek_cons, advance_cons clean.head] at read
      by_cases keyword : t.kind = .keywordComponent
      · simp only [keyword, if_true] at read
        cases readComponent : Parse.component b t (ts ++ [e]) with
        | error => simp [readComponent] at read
        | ok result =>
            obtain ⟨d, after⟩ := result
            simp only [readComponent] at read
            obtain ⟨mid, rfl, component⟩ :=
              component_sound he b t ts d after clean.tail readComponent
            have shorter : mid.length < (t :: ts).length := by
              have := component.suffix.length_le
              simp only [List.length_cons]
              omega
            have streamShorter : (mid ++ [e]).length < (t :: (ts ++ [e])).length := by
              simpa using shorter
            simp only [streamShorter, dif_pos] at read
            exact .component keyword component
              (declarations_sound b _ mid ds (clean.tail.of_suffix component.suffix) read)
      · have streamShorter : (ts ++ [e]).length < (t :: (ts ++ [e])).length := by simp
        simp only [keyword, if_false, streamShorter, dif_pos] at read
        exact .skip keyword (declarations_sound b found ts ds clean.tail read)
termination_by _ ts => ts.length
decreasing_by all_goals first | exact shorter | simp

end Declarations

end GameScript.Grammar

import Mathlib.Data.List.Infix
import GameScript.Token
import GameScript.Number.Reading

/-!
# The committed-choice grammar of scripts

This module states, as inductive relations over token lists, which token
sequences the reader of `GameScript.Syntax.Parse` accepts.  A relation
`R ts rest` says that a phrase of `R` stands at the front of `ts` and leaves
`rest` unread.  The lists carry no end-of-input token: the end is the empty
list.

The grammar is the one of the reader's documentation, read as committed
choice: every alternative is chosen by the next token (or the one after it),
and a repetition goes on exactly as long as its next token allows.  So

* a program is a sequence of components and of single tokens other than
  `component`;
* a component is `component name { member* }`, a member that starts with `fn`
  is a method and any other member a field;
* a block is `{ statement* }`; a statement is an `if`, an assignment (a name
  followed by an assignment operator), a call (a name followed by `(`), or
  otherwise any single token but `}`;
* an expression has three binary levels, loosest first comparisons, sums and
  products, each a left-associated chain, over prefix operations and primary
  expressions; a number is a primary expression only when its text reads as a
  double.

Besides the relations the module proves what every derivation reads: that it
leaves a suffix of its input, and for the phrases that must consume, which
token they start with.
-/

namespace GameScript.Grammar

/-! ## Token classes -/

/-- The binary levels of expressions, loosest first. -/
inductive Level where
  | comparison
  | sum
  | product
  deriving DecidableEq, Repr

/-- The operators that join two operands at a level. -/
def Level.Joins : Level → TokenKind → Prop
  | .comparison, k =>
      k = .less ∨ k = .greater ∨ k = .lessEqual ∨ k = .greaterEqual ∨
        k = .equalEqual ∨ k = .notEqual
  | .sum, k => k = .plus ∨ k = .minus
  | .product, k => k = .star ∨ k = .slash

/-- The prefix operators. -/
def IsUnaryOperator (k : TokenKind) : Prop :=
  k = .minus ∨ k = .plus ∨ k = .bang

/-- The tokens that are literals on their own. -/
def IsLiteral (k : TokenKind) : Prop :=
  k = .number ∨ k = .string ∨ k = .keywordTrue ∨ k = .keywordFalse

/-- A token that is a literal on its own: of a literal kind, and read as a double when a number. -/
def LiteralToken (t : Token) : Prop :=
  IsLiteral t.kind ∧ (t.kind = .number → (Reading.readFloat? t.text).isSome)

/-- The assignment operators, plain and compound. -/
def IsAssignment (k : TokenKind) : Prop :=
  k = .assign ∨ k = .plusAssign ∨ k = .minusAssign ∨ k = .starAssign ∨
    k = .slashAssign

/-- The tokens an expression can start with. -/
def StartsExpression (k : TokenKind) : Prop :=
  IsUnaryOperator k ∨ IsLiteral k ∨ k = .identifier ∨ k = .leftParen

instance : (level : Level) → (k : TokenKind) → Decidable (level.Joins k)
  | .comparison, k => inferInstanceAs (Decidable (k = .less ∨ _))
  | .sum, k => inferInstanceAs (Decidable (k = .plus ∨ _))
  | .product, k => inferInstanceAs (Decidable (k = .star ∨ _))

instance (k : TokenKind) : Decidable (IsUnaryOperator k) :=
  inferInstanceAs (Decidable (k = .minus ∨ _))

instance (k : TokenKind) : Decidable (IsLiteral k) :=
  inferInstanceAs (Decidable (k = .number ∨ _))

instance (k : TokenKind) : Decidable (IsAssignment k) :=
  inferInstanceAs (Decidable (k = .assign ∨ _))

/-! ## Expressions -/

mutual

/-- An expression of a level: an operand and the chain of operations after it. -/
inductive Binary : Level → List Token → List Token → Prop
  | chain {level ts mid rest} :
      Operand level ts mid → Chain level mid rest → Binary level ts rest

/--
The operations of a level after its first operand.  The chain goes on while
the next token is an operator of the level.
-/
inductive Chain : Level → List Token → List Token → Prop
  | stop {level ts} :
      (∀ t ∈ ts.head?, ¬ level.Joins t.kind) → Chain level ts ts
  | link {level operator ts mid rest} :
      level.Joins operator.kind → Operand level ts mid → Chain level mid rest →
        Chain level (operator :: ts) rest

/-- An operand of a level: an expression of the next tighter level. -/
inductive Operand : Level → List Token → List Token → Prop
  | sum {ts rest} : Binary .sum ts rest → Operand .comparison ts rest
  | product {ts rest} : Binary .product ts rest → Operand .sum ts rest
  | unary {ts rest} : Unary ts rest → Operand .product ts rest

/-- Prefix operations applied to a primary expression. -/
inductive Unary : List Token → List Token → Prop
  | prefixed {operator ts rest} :
      IsUnaryOperator operator.kind → Unary ts rest → Unary (operator :: ts) rest
  | primary {ts rest} : Primary ts rest → Unary ts rest

/--
A literal, a name, a call, or an expression in parentheses.  A name
followed by `(` is always a call.
-/
inductive Primary : List Token → List Token → Prop
  | literal {t ts} : LiteralToken t → Primary (t :: ts) ts
  | name {t ts} :
      t.kind = .identifier → (∀ u ∈ ts.head?, u.kind ≠ .leftParen) →
        Primary (t :: ts) ts
  | call {t ts rest} :
      t.kind = .identifier → Arguments ts rest → Primary (t :: ts) rest
  | group {opening ts close rest} :
      opening.kind = .leftParen → Binary .comparison ts (close :: rest) →
        close.kind = .rightParen → Primary (opening :: ts) rest

/-- A parenthesized list of expressions separated by commas. -/
inductive Arguments : List Token → List Token → Prop
  | empty {opening close rest} :
      opening.kind = .leftParen → close.kind = .rightParen →
        Arguments (opening :: close :: rest) rest
  | list {opening ts mid close rest} :
      opening.kind = .leftParen → Binary .comparison ts mid →
        MoreArguments mid (close :: rest) → close.kind = .rightParen →
          Arguments (opening :: ts) rest

/-- The arguments after the first, each after a comma. -/
inductive MoreArguments : List Token → List Token → Prop
  | stop {ts} : (∀ t ∈ ts.head?, t.kind ≠ .comma) → MoreArguments ts ts
  | comma {separator ts mid rest} :
      separator.kind = .comma → Binary .comparison ts mid →
        MoreArguments mid rest → MoreArguments (separator :: ts) rest

end

/-- An expression: the loosest level. -/
abbrev Expression : List Token → List Token → Prop :=
  Binary .comparison

/-! ## Statements -/

mutual

/-- A block: statements between braces. -/
inductive Block : List Token → List Token → Prop
  | braces {opening ts close rest} :
      opening.kind = .leftBrace → Statements ts (close :: rest) →
        close.kind = .rightBrace → Block (opening :: ts) rest

/-- Statements up to a closing brace or the end. -/
inductive Statements : List Token → List Token → Prop
  | stop {ts} : (∀ t ∈ ts.head?, t.kind = .rightBrace) → Statements ts ts
  | next {ts mid rest} :
      Statement ts mid → Statements mid rest → Statements ts rest

/--
A statement, chosen by its first two tokens.  A token that starts none of
`if`, an assignment or a call is a statement of its own, unless it is `}`.
-/
inductive Statement : List Token → List Token → Prop
  | ifThen {keyword ts mid rest} :
      keyword.kind = .keywordIf → Expression ts mid → Block mid rest →
        Statement (keyword :: ts) rest
  | assign {target operator ts semicolon rest} :
      target.kind = .identifier → IsAssignment operator.kind →
        Expression ts (semicolon :: rest) → semicolon.kind = .semicolon →
          Statement (target :: operator :: ts) rest
  | call {function ts semicolon rest} :
      function.kind = .identifier → Arguments ts (semicolon :: rest) →
        semicolon.kind = .semicolon → Statement (function :: ts) rest
  | unknown {t ts} :
      t.kind ≠ .keywordIf → t.kind ≠ .rightBrace →
        (t.kind = .identifier →
          ∀ u ∈ ts.head?, ¬ IsAssignment u.kind ∧ u.kind ≠ .leftParen) →
          Statement (t :: ts) ts

end

/-! ## Declarations -/

/-- Typed parameters `type name` separated by commas. -/
inductive Parameters : List Token → List Token → Prop
  | last {type name ts} :
      type.kind = .identifier → name.kind = .identifier →
        (∀ t ∈ ts.head?, t.kind ≠ .comma) → Parameters (type :: name :: ts) ts
  | more {type name separator ts rest} :
      type.kind = .identifier → name.kind = .identifier →
        separator.kind = .comma → Parameters ts rest →
          Parameters (type :: name :: separator :: ts) rest

/-- A field `type name ;` or `type name = expression ;`. -/
inductive Field : List Token → List Token → Prop
  | plain {type name semicolon rest} :
      type.kind = .identifier → name.kind = .identifier →
        semicolon.kind = .semicolon → Field (type :: name :: semicolon :: rest) rest
  | initialized {type name assign ts semicolon rest} :
      type.kind = .identifier → name.kind = .identifier → assign.kind = .assign →
        Expression ts (semicolon :: rest) → semicolon.kind = .semicolon →
          Field (type :: name :: assign :: ts) rest

/-- A method `fn name ( parameters ) block`, the parameters possibly none. -/
inductive Method : List Token → List Token → Prop
  | bare {keyword name opening close ts rest} :
      keyword.kind = .keywordFn → name.kind = .identifier →
        opening.kind = .leftParen → close.kind = .rightParen → Block ts rest →
          Method (keyword :: name :: opening :: close :: ts) rest
  | withParameters {keyword name opening ts close mid rest} :
      keyword.kind = .keywordFn → name.kind = .identifier →
        opening.kind = .leftParen → Parameters ts (close :: mid) →
          close.kind = .rightParen → Block mid rest →
            Method (keyword :: name :: opening :: ts) rest

/-- Members up to a closing brace or the end: methods start with `fn`, anything else is a field. -/
inductive Members : List Token → List Token → Prop
  | stop {ts} : (∀ t ∈ ts.head?, t.kind = .rightBrace) → Members ts ts
  | method {ts mid rest} : Method ts mid → Members mid rest → Members ts rest
  | field {ts mid rest} : Field ts mid → Members mid rest → Members ts rest

/-- A component after its keyword: `name { member* }`. -/
inductive Component : List Token → List Token → Prop
  | braces {name opening ts close rest} :
      name.kind = .identifier → opening.kind = .leftBrace →
        Members ts (close :: rest) → close.kind = .rightBrace →
          Component (name :: opening :: ts) rest

/-- A program: components, and single tokens other than `component` in between. -/
inductive Program : List Token → Prop
  | nil : Program []
  | component {keyword ts rest} :
      keyword.kind = .keywordComponent → Component ts rest → Program rest →
        Program (keyword :: ts)
  | skip {t ts} : t.kind ≠ .keywordComponent → Program ts → Program (t :: ts)

/-! ## What a derivation reads -/

open List (suffix_cons suffix_refl)

mutual

theorem Binary.suffix : Binary level ts rest → rest <:+ ts
  | .chain operand chain => chain.suffix.trans operand.suffix

theorem Chain.suffix : Chain level ts rest → rest <:+ ts
  | .stop _ => suffix_refl _
  | .link _ operand chain =>
      (chain.suffix.trans operand.suffix).trans (suffix_cons _ _)

theorem Operand.suffix : Operand level ts rest → rest <:+ ts
  | .sum sum => sum.suffix
  | .product product => product.suffix
  | .unary unary => unary.suffix

theorem Unary.suffix : Unary ts rest → rest <:+ ts
  | .prefixed _ operand => operand.suffix.trans (suffix_cons _ _)
  | .primary primary => primary.suffix

theorem Primary.suffix : Primary ts rest → rest <:+ ts
  | .literal _ => suffix_cons _ _
  | .name _ _ => suffix_cons _ _
  | .call _ arguments => arguments.suffix.trans (suffix_cons _ _)
  | .group _ inner _ =>
      ((suffix_cons _ _).trans inner.suffix).trans (suffix_cons _ _)

theorem Arguments.suffix : Arguments ts rest → rest <:+ ts
  | .empty _ _ => (suffix_cons _ _).trans (suffix_cons _ _)
  | .list _ first more _ =>
      (((suffix_cons _ _).trans more.suffix).trans first.suffix).trans
        (suffix_cons _ _)

theorem MoreArguments.suffix : MoreArguments ts rest → rest <:+ ts
  | .stop _ => suffix_refl _
  | .comma _ next more => (more.suffix.trans next.suffix).trans (suffix_cons _ _)

end

mutual

theorem Block.suffix : Block ts rest → rest <:+ ts
  | .braces _ body _ =>
      ((suffix_cons _ _).trans body.suffix).trans (suffix_cons _ _)

theorem Statements.suffix : Statements ts rest → rest <:+ ts
  | .stop _ => suffix_refl _
  | .next statement more => more.suffix.trans statement.suffix

theorem Statement.suffix : Statement ts rest → rest <:+ ts
  | .ifThen _ condition body =>
      (body.suffix.trans condition.suffix).trans (suffix_cons _ _)
  | .assign _ _ value _ =>
      (((suffix_cons _ _).trans value.suffix).trans (suffix_cons _ _)).trans
        (suffix_cons _ _)
  | .call _ arguments _ =>
      ((suffix_cons _ _).trans arguments.suffix).trans (suffix_cons _ _)
  | .unknown _ _ _ => suffix_cons _ _

end

theorem Primary.starts : Primary ts rest →
    ∃ t ts', ts = t :: ts' ∧ StartsExpression t.kind ∧ rest <:+ ts'
  | .literal isLiteral => ⟨_, _, rfl, .inr (.inl isLiteral.1), suffix_refl _⟩
  | .name isName _ => ⟨_, _, rfl, .inr (.inr (.inl isName)), suffix_refl _⟩
  | .call isName arguments => ⟨_, _, rfl, .inr (.inr (.inl isName)), arguments.suffix⟩
  | .group opening inner _ =>
      ⟨_, _, rfl, .inr (.inr (.inr opening)), (suffix_cons _ _).trans inner.suffix⟩

theorem Unary.starts : Unary ts rest →
    ∃ t ts', ts = t :: ts' ∧ StartsExpression t.kind ∧ rest <:+ ts'
  | .prefixed operator operand => ⟨_, _, rfl, .inl operator, operand.suffix⟩
  | .primary inner => inner.starts

mutual

/--
An expression starts with a token that can start one, and reads at least
that token.
-/
theorem Binary.starts : Binary level ts rest →
    ∃ t ts', ts = t :: ts' ∧ StartsExpression t.kind ∧ rest <:+ ts'
  | .chain operand chain =>
      let ⟨t, ts', split, starts, read⟩ := operand.starts
      ⟨t, ts', split, starts, chain.suffix.trans read⟩

theorem Operand.starts : Operand level ts rest →
    ∃ t ts', ts = t :: ts' ∧ StartsExpression t.kind ∧ rest <:+ ts'
  | .sum sum => sum.starts
  | .product product => product.starts
  | .unary unary => unary.starts

end

theorem Arguments.starts (arguments : Arguments ts rest) :
    ∃ t ts', ts = t :: ts' ∧ t.kind = .leftParen ∧ rest <:+ ts' := by
  cases arguments with
  | empty opening _ => exact ⟨_, _, rfl, opening, suffix_cons _ _⟩
  | list opening first more _ =>
      exact ⟨_, _, rfl, opening, ((suffix_cons _ _).trans more.suffix).trans first.suffix⟩

/-- A statement reads at least its first token, which is never `}`. -/
theorem Statement.starts (statement : Statement ts rest) :
    ∃ t ts', ts = t :: ts' ∧ t.kind ≠ .rightBrace ∧ rest <:+ ts' := by
  obtain ⟨t, ts', split, read⟩ : ∃ t ts', ts = t :: ts' ∧ rest <:+ ts' := by
    cases statement with
    | ifThen _ condition body => exact ⟨_, _, rfl, body.suffix.trans condition.suffix⟩
    | assign _ _ value _ =>
        exact ⟨_, _, rfl, ((suffix_cons _ _).trans value.suffix).trans (suffix_cons _ _)⟩
    | call _ arguments _ => exact ⟨_, _, rfl, (suffix_cons _ _).trans arguments.suffix⟩
    | unknown _ _ _ => exact ⟨_, _, rfl, suffix_refl _⟩
  refine ⟨t, ts', split, ?_, read⟩
  subst split
  cases statement with
  | ifThen keyword _ _ => simp [keyword]
  | assign target _ _ _ => simp [target]
  | call function _ _ => simp [function]
  | unknown _ notClose _ => exact notClose

theorem Parameters.suffix : Parameters ts rest → rest <:+ ts
  | .last _ _ _ => (suffix_cons _ _).trans (suffix_cons _ _)
  | .more _ _ _ others =>
      (((others.suffix.trans (suffix_cons _ _)).trans (suffix_cons _ _))).trans
        (suffix_cons _ _)

theorem Parameters.starts (parameters : Parameters ts rest) :
    ∃ t ts', ts = t :: ts' ∧ t.kind = .identifier ∧ rest <:+ ts' := by
  cases parameters with
  | last type _ _ => exact ⟨_, _, rfl, type, suffix_cons _ _⟩
  | more type _ _ others =>
      exact ⟨_, _, rfl, type, (others.suffix.trans (suffix_cons _ _)).trans (suffix_cons _ _)⟩

/-- A field reads at least its type name. -/
theorem Field.starts (field : Field ts rest) :
    ∃ t ts', ts = t :: ts' ∧ t.kind = .identifier ∧ rest <:+ ts' := by
  cases field with
  | plain type _ _ =>
      exact ⟨_, _, rfl, type, (suffix_cons _ _).trans (suffix_cons _ _)⟩
  | initialized type _ _ value _ =>
      exact ⟨_, _, rfl, type,
        (((suffix_cons _ _).trans value.suffix).trans (suffix_cons _ _)).trans
          (suffix_cons _ _)⟩

/-- A method reads at least its keyword `fn`. -/
theorem Method.starts (method : Method ts rest) :
    ∃ t ts', ts = t :: ts' ∧ t.kind = .keywordFn ∧ rest <:+ ts' := by
  cases method with
  | bare keyword _ _ _ body =>
      exact ⟨_, _, rfl, keyword,
        ((body.suffix.trans (suffix_cons _ _)).trans (suffix_cons _ _)).trans
          (suffix_cons _ _)⟩
  | withParameters keyword _ _ parameters _ body =>
      exact ⟨_, _, rfl, keyword,
        (((body.suffix.trans (suffix_cons _ _)).trans parameters.suffix).trans
          (suffix_cons _ _)).trans (suffix_cons _ _)⟩

theorem Field.suffix (field : Field ts rest) : rest <:+ ts :=
  let ⟨_, _, split, _, read⟩ := field.starts
  split ▸ read.trans (suffix_cons _ _)

theorem Method.suffix (method : Method ts rest) : rest <:+ ts :=
  let ⟨_, _, split, _, read⟩ := method.starts
  split ▸ read.trans (suffix_cons _ _)

theorem Members.suffix : Members ts rest → rest <:+ ts
  | .stop _ => suffix_refl _
  | .method first others => others.suffix.trans first.suffix
  | .field first others => others.suffix.trans first.suffix

theorem Component.suffix : Component ts rest → rest <:+ ts
  | .braces _ _ members _ =>
      (((suffix_cons _ _).trans members.suffix).trans (suffix_cons _ _)).trans
        (suffix_cons _ _)

end GameScript.Grammar

import GameScript.Proofs.Reading

/-!
# Reading needs a bounded number of frames

The reader counts the frames of host stack it may still use, and a rule with
none left fails with `tooDeep`.  Its recursion is nevertheless bounded by the
tokens it reads: a rule that enters a nested phrase either takes a token
first (a prefix operator, an opening parenthesis or brace, a keyword) or
enters one of a fixed chain of rules (from the expression rule down to the
primary one, from a statement to an assignment), and the repetitions walk a
shorter list each round.

`Settles off n run` says that on token lists of at most `n` tokens, from
`7 * n + off` frames on, one frame more changes nothing the rule reads, and
the tokens it leaves are no more than it took.  `readsSettle` proves it of
every rule by induction on `n`, one step lemma per rule; the offsets follow
the chain of rules, seven frames covering the deepest chain a token can
open.  `declarations_settle` lifts it to whole programs, so reading a program
of `n` tokens with more than `7 * n + 2` frames reads it as with any more.
-/

namespace GameScript.Grammar

open Parse

/-! ## Primitives -/

section Primitives

variable {ts rest : List Token} {t : Token} {k : TokenKind} {what : String}

/-- A stream that is not at its end has a token to take. -/
theorem advance_length_of_going (going : atEnd ts = false) : (advance ts).length + 1 = ts.length := by
  cases ts with
  | nil => simp [atEnd, peek, endToken] at going
  | cons t ts => simp [advance, going]

theorem going_of_check (found : check k ts = true) : atEnd ts = false := by
  simp only [check, Bool.and_eq_true, Bool.not_eq_eq_eq_not, Bool.not_true] at found
  exact found.1

/-- A token class found at the head of a stream is found before its end. -/
theorem going_of_found {o : Option β} {v : β} (found : (if atEnd ts = true then none else o) = some v) :
    atEnd ts = false := by
  cases going : atEnd ts
  · rfl
  · rw [going, if_pos rfl] at found
    cases found

theorem expect_length (read : expect k what ts = .ok (t, rest)) : rest.length + 1 = ts.length := by
  unfold expect at read
  split at read
  · next found =>
    cases read
    exact advance_length_of_going (going_of_check found)
  · cases read

theorem name_length (read : name what ts = .ok (t, rest)) : rest.length + 1 = ts.length := by
  unfold name at read
  split at read
  · next found =>
    cases read
    exact advance_length_of_going (going_of_check found)
  · cases read

/-- Parameters leave no more tokens than they take. -/
theorem parameters_length : ∀ n (params : List Param) ts x rest, ts.length = n →
    parameters params ts = .ok (x, rest) → rest.length ≤ ts.length := by
  intro n
  induction n using Nat.strong_induction_on with
  | _ n more =>
    intro params ts x rest length read
    rw [Parse.parameters] at read
    obtain ⟨⟨_, afterType⟩, readType, read⟩ := bind_eq_ok.1 read
    obtain ⟨⟨_, afterName⟩, readName, read⟩ := bind_eq_ok.1 read
    have first := name_length readType
    have second := name_length readName
    dsimp only at read
    split at read
    · split at read
      · next shorter =>
        have further := more _ (length ▸ shorter) _ _ _ _ rfl read
        omega
      · cases read
        omega
    · cases read
      omega

theorem pure_eq_ok {a b : α} {rest out : List Token} (done : (pure (a, rest) : Except SyntaxError _) = .ok (b, out)) :
    a = b ∧ rest = out := by
  simpa [pure, Except.pure] using done

/-- Continuations that agree wherever the first step answers make binds that agree. -/
theorem bind_congr_ok {x : Except ε (α × β)} {f g : α × β → Except ε γ}
    (rest : ∀ a b, x = .ok (a, b) → f (a, b) = g (a, b)) : x >>= f = x >>= g := by
  cases x with
  | error e => rfl
  | ok p => exact rest p.1 p.2 rfl

end Primitives

/-! ## Rules that settle -/

/--
A rule settles on lists of at most `n` tokens from `7 * n + off` frames: with
one frame more it reads the same, and what it leaves is no longer than what it
took.
-/
def Settles (off n : Nat) (run : Nat → List Token → Except SyntaxError (α × List Token)) : Prop :=
  ∀ ts, ts.length ≤ n → ∀ b, 7 * n + off ≤ b →
    run (b + 1) ts = run b ts ∧ ∀ x rest, run b ts = .ok (x, rest) → rest.length ≤ ts.length

/-- The frames beyond seven a token that the operands of a binary level need. -/
def Level.offset : Level → Nat
  | .comparison => 5
  | .sum => 4
  | .product => 3

/-- Every rule of the reader that takes frames settles on lists of at most `n` tokens. -/
structure ReadsSettle (n : Nat) : Prop where
  expression : Settles 7 n Parse.expression
  binary : ∀ level : Level, Settles (level.offset + 1) n level.reader
  unary : Settles 3 n Parse.unary
  primary : Settles 2 n Parse.primary
  arguments : Settles 1 n Parse.arguments
  statement : Settles 9 n Parse.statement
  ifStatement : Settles 1 n Parse.ifStatement
  assignment : Settles 8 n Parse.assignment
  callStatement : Settles 2 n Parse.callStatement
  block : Settles 3 n Parse.block
  field : Settles 1 n Parse.field
  method : Settles 1 n Parse.method
  component : ∀ start, Settles 2 n (fun b => Parse.component b start)

theorem ReadsSettle.operand {n : Nat} (settle : ReadsSettle n) (level : Level) :
    Settles level.offset n level.operandReader := by
  cases level with
  | comparison => exact settle.binary .sum
  | sum => exact settle.binary .product
  | product => exact settle.unary

section Repetitions

variable {n : Nat}

/--
The operations after a first operand settle where the operands of shorter
lists do. The right operand is read after its operator, from a shorter list.
-/
theorem tail_settles {level : Level} (operand : ∀ m < n, Settles level.offset m level.operandReader)
    (left : Expr) : Settles level.offset n (fun b => level.tail b left) := by
  suffices ∀ k ts (left : Expr), ts.length = k → k ≤ n → ∀ b, 7 * n + level.offset ≤ b →
      level.tail (b + 1) left ts = level.tail b left ts ∧
        ∀ x rest, level.tail b left ts = .ok (x, rest) → rest.length ≤ ts.length from
    fun ts short b enough => this _ ts left rfl short b enough
  intro k
  induction k using Nat.strong_induction_on with
  | _ k more =>
    intro ts left length short b enough
    rw [Level.tail_eq, Level.tail_eq]
    split
    · exact ⟨rfl, fun x rest read => by cases read; exact le_refl _⟩
    · next op found =>
      have after := advance_length_of_going (going_of_found found)
      have right := operand (n - 1) (by omega) (advance ts) (by omega) b (by omega)
      rw [right.1]
      refine ⟨bind_congr_ok fun e rest read => ?_, fun x out read => ?_⟩
      · have shorter := right.2 _ _ read
        dsimp only
        split
        · next fewer => exact (more _ (length ▸ fewer) rest _ rfl (by omega) b enough).1
        · rfl
      · obtain ⟨⟨e, rest⟩, readRight, read⟩ := bind_eq_ok.1 read
        have shorter := right.2 _ _ readRight
        dsimp only at read
        split at read
        · next fewer =>
          have further := (more _ (length ▸ fewer) rest _ rfl (by omega) b enough).2 _ _ read
          omega
        · cases read
          omega

/-- The arguments after commas settle where expressions of shorter lists do. -/
theorem argumentsTail_settles (expression : ∀ m < n, Settles 7 m Parse.expression) (args : List Expr) :
    Settles 0 n (fun b => argumentsTail b args) := by
  suffices ∀ k ts (args : List Expr), ts.length = k → k ≤ n → ∀ b, 7 * n ≤ b →
      argumentsTail (b + 1) args ts = argumentsTail b args ts ∧
        ∀ x rest, argumentsTail b args ts = .ok (x, rest) → rest.length ≤ ts.length from
    fun ts short b enough => this _ ts args rfl short b enough
  intro k
  induction k using Nat.strong_induction_on with
  | _ k more =>
    intro ts args length short b enough
    rw [Parse.argumentsTail, Parse.argumentsTail]
    split
    · next comma =>
      have after := advance_length_of_going (going_of_check comma)
      have next := expression (n - 1) (by omega) (advance ts) (by omega) b (by omega)
      rw [next.1]
      refine ⟨bind_congr_ok fun e rest read => ?_, fun x out read => ?_⟩
      · have shorter := next.2 _ _ read
        dsimp only
        split
        · next fewer => exact (more _ (length ▸ fewer) rest _ rfl (by omega) b enough).1
        · rfl
      · obtain ⟨⟨e, rest⟩, readNext, read⟩ := bind_eq_ok.1 read
        have shorter := next.2 _ _ readNext
        dsimp only at read
        split at read
        · next fewer =>
          have further := (more _ (length ▸ fewer) rest _ rfl (by omega) b enough).2 _ _ read
          omega
        · cases read
          omega
    · exact ⟨rfl, fun x rest read => by cases read; exact le_refl _⟩

/-- Statements up to a closing brace settle where one statement does. -/
theorem statements_settles (statement : Settles 9 n Parse.statement) (body : List Stmt) :
    Settles 9 n (fun b => statements b body) := by
  suffices ∀ k ts (body : List Stmt), ts.length = k → k ≤ n → ∀ b, 7 * n + 9 ≤ b →
      statements (b + 1) body ts = statements b body ts ∧
        ∀ x rest, statements b body ts = .ok (x, rest) → rest.length ≤ ts.length from
    fun ts short b enough => this _ ts body rfl short b enough
  intro k
  induction k using Nat.strong_induction_on with
  | _ k more =>
    intro ts body length short b enough
    rw [Parse.statements, Parse.statements]
    split
    · exact ⟨rfl, fun x rest read => by cases read; exact le_refl _⟩
    · have first := statement ts (length ▸ short) b enough
      rw [first.1]
      refine ⟨bind_congr_ok fun st rest read => ?_, fun x out read => ?_⟩
      · dsimp only
        split
        · next fewer => exact (more _ (length ▸ fewer) rest _ rfl (by omega) b enough).1
        · rfl
      · obtain ⟨⟨st, rest⟩, readFirst, read⟩ := bind_eq_ok.1 read
        have shorter := first.2 _ _ readFirst
        dsimp only at read
        split at read
        · next fewer =>
          have further := (more _ (length ▸ fewer) rest _ rfl (by omega) b enough).2 _ _ read
          omega
        · cases read
          omega

/-- Fields and methods up to a closing brace settle where one field and one method do. -/
theorem members_settles (method : Settles 1 n Parse.method) (field : Settles 1 n Parse.field)
    (fields : List FieldDecl) (methods : List MethodDecl) :
    Settles 1 n (fun b => members b fields methods) := by
  suffices ∀ k ts (fields : List FieldDecl) (methods : List MethodDecl), ts.length = k → k ≤ n →
      ∀ b, 7 * n + 1 ≤ b → members (b + 1) fields methods ts = members b fields methods ts ∧
        ∀ x rest, members b fields methods ts = .ok (x, rest) → rest.length ≤ ts.length from
    fun ts short b enough => this _ ts fields methods rfl short b enough
  intro k
  induction k using Nat.strong_induction_on with
  | _ k more =>
    intro ts fields methods length short b enough
    rw [Parse.members, Parse.members]
    split
    · exact ⟨rfl, fun x rest read => by cases read; exact le_refl _⟩
    split
    · have first := method ts (length ▸ short) b enough
      rw [first.1]
      refine ⟨?_, fun x out read => ?_⟩
      · split
        · rfl
        · next m rest read =>
          split
          · next fewer => exact (more _ (length ▸ fewer) rest _ _ rfl (by omega) b enough).1
          · rfl
      · split at read
        · cases read
        · next m rest readFirst =>
          have shorter := first.2 _ _ readFirst
          split at read
          · next fewer =>
            have further := (more _ (length ▸ fewer) rest _ _ rfl (by omega) b enough).2 _ _ read
            omega
          · cases read
            omega
    · have first := field ts (length ▸ short) b enough
      rw [first.1]
      refine ⟨?_, fun x out read => ?_⟩
      · split
        · rfl
        · next f rest read =>
          split
          · next fewer => exact (more _ (length ▸ fewer) rest _ _ rfl (by omega) b enough).1
          · rfl
      · split at read
        · cases read
        · next f rest readFirst =>
          have shorter := first.2 _ _ readFirst
          split at read
          · next fewer =>
            have further := (more _ (length ▸ fewer) rest _ _ rfl (by omega) b enough).2 _ _ read
            omega
          · cases read
            omega

end Repetitions

/-! ## One step of each rule -/

section Rules

variable {n : Nat}

theorem expression_settles (comparison : Settles 6 n (Level.reader .comparison)) :
    Settles 7 n Parse.expression := by
  intro ts short b enough
  obtain ⟨b, rfl⟩ : ∃ b', b = b' + 1 := ⟨b - 1, by omega⟩
  rw [Parse.expression.eq_2, Parse.expression.eq_2]
  exact comparison ts short b (by omega)

variable (below : ∀ m < n, ReadsSettle m)
include below

theorem binary_settles (level : Level) (operand : Settles level.offset n level.operandReader) :
    Settles (level.offset + 1) n level.reader := by
  intro ts short b enough
  obtain ⟨b, rfl⟩ : ∃ b', b = b' + 1 := ⟨b - 1, by omega⟩
  rw [Level.reader_succ, Level.reader_succ]
  have first := operand ts short b (by omega)
  have tail := tail_settles fun m less => (below m less).operand level
  rw [first.1]
  refine ⟨bind_congr_ok fun left rest read =>
    (tail left rest (le_trans (first.2 _ _ read) short) b (by omega)).1, fun x out read => ?_⟩
  obtain ⟨⟨left, rest⟩, readLeft, read⟩ := bind_eq_ok.1 read
  have shorter := first.2 _ _ readLeft
  have further := (tail left rest (by omega) b (by omega)).2 _ _ read
  omega

/-- A prefix operator's operand is read after it. -/
theorem unary_settles (primary : Settles 2 n Parse.primary) : Settles 3 n Parse.unary := by
  intro ts short b enough
  obtain ⟨b, rfl⟩ : ∃ b', b = b' + 1 := ⟨b - 1, by omega⟩
  rw [Parse.unary.eq_2 ts (b + 1), Parse.unary.eq_2 ts b]
  split
  · next op found =>
    have after := advance_length_of_going (going_of_found found)
    have operand := (below (n - 1) (by omega)).unary (advance ts) (by omega) b (by omega)
    rw [operand.1]
    refine ⟨rfl, fun x rest read => ?_⟩
    obtain ⟨⟨e, rest'⟩, readOperand, done⟩ := bind_eq_ok.1 read
    dsimp only at done
    obtain ⟨rfl, rfl⟩ := pure_eq_ok done
    have shorter := operand.2 _ _ readOperand
    omega
  · exact primary ts short b (by omega)

/--
A call's arguments are read after its name, and a parenthesized expression
after the parenthesis.
-/
theorem primary_settles : Settles 2 n Parse.primary := by
  intro ts short b enough
  obtain ⟨b, rfl⟩ : ∃ b', b = b' + 1 := ⟨b - 1, by omega⟩
  rw [Parse.primary.eq_2 ts (b + 1), Parse.primary.eq_2 ts b]
  dsimp only
  split
  · exact ⟨rfl, fun x rest read => by cases read; exact advance_length_le ts⟩
  by_cases named : check .identifier ts = true
  · rw [if_pos named, if_pos named]
    have after := advance_length_of_going (going_of_check named)
    by_cases called : check .leftParen (advance ts) = true
    · rw [if_pos called, if_pos called]
      have args := (below (n - 1) (by omega)).arguments (advance ts) (by omega) b (by omega)
      rw [args.1]
      refine ⟨rfl, fun x rest read => ?_⟩
      obtain ⟨⟨es, rest'⟩, readArgs, done⟩ := bind_eq_ok.1 read
      dsimp only at done
      obtain ⟨rfl, rfl⟩ := pure_eq_ok done
      have shorter := args.2 _ _ readArgs
      omega
    · rw [if_neg called, if_neg called]
      exact ⟨rfl, fun x rest read => by cases read; omega⟩
  · rw [if_neg named, if_neg named]
    by_cases opened : check .leftParen ts = true
    · rw [if_pos opened, if_pos opened]
      have after := advance_length_of_going (going_of_check opened)
      have inner := (below (n - 1) (by omega)).expression (advance ts) (by omega) b (by omega)
      rw [inner.1]
      refine ⟨rfl, fun x rest read => ?_⟩
      obtain ⟨⟨e, rest'⟩, readInner, read⟩ := bind_eq_ok.1 read
      obtain ⟨⟨_, rest''⟩, readClose, done⟩ := bind_eq_ok.1 read
      dsimp only at readClose done
      obtain ⟨rfl, rfl⟩ := pure_eq_ok done
      have shorter := inner.2 _ _ readInner
      have closed := expect_length readClose
      omega
    · rw [if_neg opened, if_neg opened]
      refine ⟨rfl, fun x rest read => ?_⟩
      split at read <;> cases read

theorem arguments_settles : Settles 1 n Parse.arguments := by
  intro ts short b enough
  obtain ⟨b, rfl⟩ : ∃ b', b = b' + 1 := ⟨b - 1, by omega⟩
  rw [Parse.arguments.eq_2 ts (b + 1), Parse.arguments.eq_2 ts b]
  refine ⟨bind_congr_ok fun _ rest opening => ?_, fun x out read => ?_⟩
  · have after := expect_length opening
    dsimp only
    split
    · rfl
    · have first := (below (n - 1) (by omega)).expression rest (by omega) b (by omega)
      rw [first.1]
      refine bind_congr_ok fun e rest' readFirst => ?_
      have shorter := first.2 _ _ readFirst
      have more := argumentsTail_settles (fun m less => (below m (by omega)).expression) [e] rest'
        (by omega) b (by omega)
      dsimp only at more ⊢
      rw [more.1]
  · obtain ⟨⟨_, rest⟩, opening, read⟩ := bind_eq_ok.1 read
    have after := expect_length opening
    dsimp only at read
    split at read
    · obtain ⟨⟨_, rest'⟩, readClose, done⟩ := bind_eq_ok.1 read
      dsimp only at done
      obtain ⟨rfl, rfl⟩ := pure_eq_ok done
      have closed := expect_length readClose
      omega
    · obtain ⟨⟨e, rest'⟩, readFirst, read⟩ := bind_eq_ok.1 read
      have first := (below (n - 1) (by omega)).expression rest (by omega) b (by omega)
      have shorter := first.2 _ _ readFirst
      obtain ⟨⟨es, rest''⟩, readMore, read⟩ := bind_eq_ok.1 read
      have more := (argumentsTail_settles (fun m less => (below m (by omega)).expression) [e] rest'
        (by omega) b (by omega)).2 _ _ readMore
      obtain ⟨⟨_, rest'''⟩, readClose, done⟩ := bind_eq_ok.1 read
      dsimp only at readClose done
      obtain ⟨rfl, rfl⟩ := pure_eq_ok done
      have closed := expect_length readClose
      omega

theorem block_settles : Settles 3 n Parse.block := by
  intro ts short b enough
  obtain ⟨b, rfl⟩ : ∃ b', b = b' + 1 := ⟨b - 1, by omega⟩
  rw [Parse.block.eq_2 ts (b + 1), Parse.block.eq_2 ts b]
  have body := fun rest (shorter : rest.length + 1 = ts.length) =>
    statements_settles (below (n - 1) (by omega)).statement [] rest (by omega) b (by omega)
  dsimp only at body
  refine ⟨bind_congr_ok fun _ rest opening => ?_, fun x out read => ?_⟩
  · dsimp only
    rw [(body rest (expect_length opening)).1]
  · obtain ⟨⟨_, rest⟩, opening, read⟩ := bind_eq_ok.1 read
    have after := expect_length opening
    obtain ⟨⟨st, rest'⟩, readBody, read⟩ := bind_eq_ok.1 read
    have shorter := (body rest after).2 _ _ readBody
    obtain ⟨⟨_, rest''⟩, readClose, done⟩ := bind_eq_ok.1 read
    dsimp only at readClose done
    obtain ⟨rfl, rfl⟩ := pure_eq_ok done
    have closed := expect_length readClose
    omega

theorem ifStatement_settles : Settles 1 n Parse.ifStatement := by
  intro ts short b enough
  obtain ⟨b, rfl⟩ : ∃ b', b = b' + 1 := ⟨b - 1, by omega⟩
  rw [Parse.ifStatement.eq_2 ts (b + 1), Parse.ifStatement.eq_2 ts b]
  refine ⟨bind_congr_ok fun _ rest opening => ?_, fun x out read => ?_⟩
  · have after := expect_length opening
    have condition := (below (n - 1) (by omega)).expression rest (by omega) b (by omega)
    dsimp only
    rw [condition.1]
    refine bind_congr_ok fun e rest' readCondition => ?_
    have shorter := condition.2 _ _ readCondition
    dsimp only
    rw [((below (n - 1) (by omega)).block rest' (by omega) b (by omega)).1]
  · obtain ⟨⟨_, rest⟩, opening, read⟩ := bind_eq_ok.1 read
    have after := expect_length opening
    obtain ⟨⟨e, rest'⟩, readCondition, read⟩ := bind_eq_ok.1 read
    have shorter := ((below (n - 1) (by omega)).expression rest (by omega) b (by omega)).2 _ _
      readCondition
    obtain ⟨⟨body, rest''⟩, readBody, done⟩ := bind_eq_ok.1 read
    have inside := ((below (n - 1) (by omega)).block rest' (by omega) b (by omega)).2 _ _ readBody
    dsimp only at done
    obtain ⟨rfl, rfl⟩ := pure_eq_ok done
    omega

/-- An initial value is read after `=`. -/
theorem field_settles : Settles 1 n Parse.field := by
  intro ts short b enough
  obtain ⟨b, rfl⟩ : ∃ b', b = b' + 1 := ⟨b - 1, by omega⟩
  rw [Parse.field.eq_2 ts (b + 1), Parse.field.eq_2 ts b]
  refine ⟨bind_congr_ok fun _ rest typed => bind_congr_ok fun _ rest' named => ?_,
    fun x out read => ?_⟩
  · have after := name_length typed
    have after' := name_length named
    dsimp only
    split
    · have value := (below (n - 1) (by omega)).expression (advance rest')
        (by have := advance_length_le rest'; omega) b (by omega)
      rw [value.1]
    · rfl
  · obtain ⟨⟨_, rest⟩, typed, read⟩ := bind_eq_ok.1 read
    obtain ⟨⟨_, rest'⟩, named, read⟩ := bind_eq_ok.1 read
    have after := name_length typed
    have after' := name_length named
    dsimp only at read
    split at read
    · obtain ⟨⟨e, rest''⟩, readValue, read⟩ := bind_eq_ok.1 read
      have value := (below (n - 1) (by omega)).expression (advance rest')
        (by have := advance_length_le rest'; omega) b (by omega)
      have shorter := value.2 _ _ readValue
      have going := advance_length_le rest'
      obtain ⟨⟨init, rest'''⟩, initial, read⟩ := bind_eq_ok.1 read
      dsimp only at initial
      obtain ⟨-, rfl⟩ := pure_eq_ok initial
      obtain ⟨⟨_, rest''''⟩, readEnd, done⟩ := bind_eq_ok.1 read
      dsimp only at readEnd done
      obtain ⟨rfl, rfl⟩ := pure_eq_ok done
      have ended := expect_length readEnd
      omega
    · obtain ⟨⟨init, rest''⟩, initial, read⟩ := bind_eq_ok.1 read
      obtain ⟨-, rfl⟩ := pure_eq_ok initial
      obtain ⟨⟨_, rest'''⟩, readEnd, done⟩ := bind_eq_ok.1 read
      dsimp only at readEnd done
      obtain ⟨rfl, rfl⟩ := pure_eq_ok done
      have ended := expect_length readEnd
      omega

/--
The parameters leave at most the tokens after `(`, and the body is read after
them, from a shorter list.
-/
theorem method_settles : Settles 1 n Parse.method := by
  intro ts short b enough
  obtain ⟨b, rfl⟩ : ∃ b', b = b' + 1 := ⟨b - 1, by omega⟩
  rw [Parse.method.eq_2 ts (b + 1), Parse.method.eq_2 ts b]
  refine ⟨bind_congr_ok fun _ rest keyword => bind_congr_ok fun _ rest' named =>
    bind_congr_ok fun _ rest'' opening => ?_, fun x out read => ?_⟩
  · have after := expect_length keyword
    have after' := name_length named
    have after'' := expect_length opening
    have body : ∀ rest''', rest'''.length ≤ rest''.length → ∀ t rest'''',
        expect .rightParen ")" rest''' = .ok (t, rest'''') →
        Parse.block (b + 1) rest'''' = Parse.block b rest'''' := by
      intro rest''' fewer t rest'''' closing
      have closed := expect_length closing
      exact ((below (n - 1) (by omega)).block rest'''' (by omega) b (by omega)).1
    dsimp only
    split
    · refine bind_congr_ok fun params rest''' none => bind_congr_ok fun _ rest'''' closing => ?_
      obtain ⟨-, rfl⟩ := pure_eq_ok none
      dsimp only
      rw [body _ (le_refl _) _ _ closing]
    · refine bind_congr_ok fun params rest''' listed => bind_congr_ok fun _ rest'''' closing => ?_
      dsimp only
      rw [body _ (parameters_length _ _ _ _ _ rfl listed) _ _ closing]
  · obtain ⟨⟨_, rest⟩, keyword, read⟩ := bind_eq_ok.1 read
    obtain ⟨⟨_, rest'⟩, named, read⟩ := bind_eq_ok.1 read
    obtain ⟨⟨_, rest''⟩, opening, read⟩ := bind_eq_ok.1 read
    have after := expect_length keyword
    have after' := name_length named
    have after'' := expect_length opening
    have listed : ∀ (x : Except SyntaxError (List Param × List Token)) params rest''',
        (x = .ok ([], rest'') ∨ x = parameters [] rest'') → x = .ok (params, rest''') →
        rest'''.length ≤ rest''.length := by
      rintro x params rest''' (none | some) read
      · rw [none] at read
        cases read
        exact le_refl _
      · rw [some] at read
        exact parameters_length _ _ _ _ _ rfl read
    dsimp only at read
    split at read
    all_goals
      obtain ⟨⟨params, rest'''⟩, readParams, read⟩ := bind_eq_ok.1 read
      obtain ⟨⟨_, rest''''⟩, closing, read⟩ := bind_eq_ok.1 read
      obtain ⟨⟨st, rest'''''⟩, readBody, done⟩ := bind_eq_ok.1 read
      dsimp only at closing readBody done
      obtain ⟨rfl, rfl⟩ := pure_eq_ok done
      have closed := expect_length closing
    · have fewer := listed _ _ _ (.inl rfl) readParams
      have inside := ((below (n - 1) (by omega)).block rest'''' (by omega) b (by omega)).2 _ _ readBody
      omega
    · have fewer := listed _ _ _ (.inr rfl) readParams
      have inside := ((below (n - 1) (by omega)).block rest'''' (by omega) b (by omega)).2 _ _ readBody
      omega

theorem component_settles (start : Token) : Settles 2 n (fun b => Parse.component b start) := by
  intro ts short b enough
  obtain ⟨b, rfl⟩ : ∃ b', b = b' + 1 := ⟨b - 1, by omega⟩
  dsimp only
  rw [Parse.component.eq_2 start ts (b + 1), Parse.component.eq_2 start ts b]
  refine ⟨bind_congr_ok fun _ rest named => bind_congr_ok fun _ rest' opening => ?_,
    fun x out read => ?_⟩
  · have after := name_length named
    have after' := expect_length opening
    have inside := members_settles (below (n - 1) (by omega)).method
      (below (n - 1) (by omega)).field [] [] rest' (by omega) b (by omega)
    dsimp only at inside ⊢
    rw [inside.1]
  · obtain ⟨⟨_, rest⟩, named, read⟩ := bind_eq_ok.1 read
    obtain ⟨⟨_, rest'⟩, opening, read⟩ := bind_eq_ok.1 read
    have after := name_length named
    have after' := expect_length opening
    have inside := members_settles (below (n - 1) (by omega)).method
      (below (n - 1) (by omega)).field [] [] rest' (by omega) b (by omega)
    obtain ⟨⟨_, rest''⟩, readMembers, read⟩ := bind_eq_ok.1 read
    obtain ⟨⟨_, rest'''⟩, closing, done⟩ := bind_eq_ok.1 read
    dsimp only at inside readMembers closing done
    obtain ⟨rfl, rfl⟩ := pure_eq_ok done
    have listed := inside.2 _ _ readMembers
    have closed := expect_length closing
    omega

end Rules

section SameLength

variable {n : Nat}

/-- An assignment reads its value after the name and the operator, at most as many tokens on. -/
theorem assignment_settles (expression : Settles 7 n Parse.expression) : Settles 8 n Parse.assignment := by
  intro ts short b enough
  obtain ⟨b, rfl⟩ : ∃ b', b = b' + 1 := ⟨b - 1, by omega⟩
  rw [Parse.assignment.eq_2 ts (b + 1), Parse.assignment.eq_2 ts b]
  have after : (advance (advance ts)).length ≤ ts.length :=
    le_trans (advance_length_le _) (advance_length_le ts)
  have value := expression (advance (advance ts)) (by omega) b (by omega)
  dsimp only
  rw [value.1]
  refine ⟨rfl, fun x out read => ?_⟩
  obtain ⟨⟨e, rest⟩, readValue, read⟩ := bind_eq_ok.1 read
  have shorter := value.2 _ _ readValue
  obtain ⟨⟨_, rest'⟩, readEnd, done⟩ := bind_eq_ok.1 read
  dsimp only at readEnd done
  obtain ⟨rfl, rfl⟩ := pure_eq_ok done
  have ended := expect_length readEnd
  omega

theorem callStatement_settles (arguments : Settles 1 n Parse.arguments) :
    Settles 2 n Parse.callStatement := by
  intro ts short b enough
  obtain ⟨b, rfl⟩ : ∃ b', b = b' + 1 := ⟨b - 1, by omega⟩
  rw [Parse.callStatement.eq_2 ts (b + 1), Parse.callStatement.eq_2 ts b]
  have after := advance_length_le ts
  have args := arguments (advance ts) (by omega) b (by omega)
  dsimp only
  rw [args.1]
  refine ⟨rfl, fun x out read => ?_⟩
  obtain ⟨⟨es, rest⟩, readArgs, read⟩ := bind_eq_ok.1 read
  have shorter := args.2 _ _ readArgs
  obtain ⟨⟨_, rest'⟩, readEnd, done⟩ := bind_eq_ok.1 read
  dsimp only at readEnd done
  obtain ⟨rfl, rfl⟩ := pure_eq_ok done
  have ended := expect_length readEnd
  omega

theorem statement_settles (ifStatement : Settles 1 n Parse.ifStatement)
    (assignment : Settles 8 n Parse.assignment) (callStatement : Settles 2 n Parse.callStatement) :
    Settles 9 n Parse.statement := by
  intro ts short b enough
  obtain ⟨b, rfl⟩ : ∃ b', b = b' + 1 := ⟨b - 1, by omega⟩
  rw [Parse.statement.eq_2 ts (b + 1), Parse.statement.eq_2 ts b]
  by_cases conditional : check .keywordIf ts = true
  · rw [if_pos conditional, if_pos conditional]
    exact ifStatement ts short b (by omega)
  rw [if_neg conditional, if_neg conditional]
  by_cases assigns : (check .identifier ts && (assignOp? (peekNext ts).kind).isSome) = true
  · rw [if_pos assigns, if_pos assigns]
    exact assignment ts short b (by omega)
  rw [if_neg assigns, if_neg assigns]
  by_cases calls : (check .identifier ts && (peekNext ts).kind == .leftParen) = true
  · rw [if_pos calls, if_pos calls]
    exact callStatement ts short b (by omega)
  rw [if_neg calls, if_neg calls]
  exact ⟨rfl, fun x rest read => by cases read; exact advance_length_le ts⟩

end SameLength

/-! ## Every rule, every list -/

/-- Every rule settles on lists of every length: the rules on a list of `n` tokens settle from
the shorter lists' rules, the tighter levels first. -/
theorem readsSettle (n : Nat) : ReadsSettle n := by
  induction n using Nat.strong_induction_on with
  | _ n below =>
    have primary := primary_settles below
    have unary := unary_settles below primary
    have product := binary_settles below .product unary
    have sum := binary_settles below .sum product
    have comparison := binary_settles below .comparison sum
    have expression := expression_settles comparison
    have arguments := arguments_settles below
    have ifStatement := ifStatement_settles below
    have assignment := assignment_settles expression
    have callStatement := callStatement_settles arguments
    refine ⟨expression, fun level => ?_, unary, primary, arguments,
      statement_settles ifStatement assignment callStatement, ifStatement, assignment,
      callStatement, block_settles below, field_settles below, method_settles below,
      component_settles below⟩
    cases level with
    | comparison => exact comparison
    | sum => exact sum
    | product => exact product

/--
The declarations of a list of `n` tokens settle from `7 * n + 2` frames. A
component reads from the tokens after its keyword, and the rest is read on.
-/
theorem declarations_settle (n : Nat) : ∀ ts (found : List Declaration), ts.length = n →
    ∀ b, 7 * n + 2 ≤ b → declarations (b + 1) found ts = declarations b found ts := by
  induction n using Nat.strong_induction_on with
  | _ n more =>
    intro ts found length b enough
    rw [Parse.declarations.eq_1 (b + 1) found ts, Parse.declarations.eq_1 b found ts]
    split
    · rfl
    split
    · have after := advance_length_le ts
      have first := (readsSettle n).component (peek ts) (advance ts) (by omega) b enough
      dsimp only at first
      rw [first.1]
      split
      · rfl
      · next d rest readFirst =>
        split
        · next fewer =>
          exact more _ (length ▸ fewer) rest _ rfl b (by omega)
        · rfl
    · split
      · next fewer => exact more _ (length ▸ fewer) (advance ts) found rfl b (by omega)
      · rfl

/-- Reading a token list's declarations needs only finitely many frames: from some count on,
more frames read the same. -/
theorem declarations_eventually_settle (ts : List Token) (found : List Declaration) :
    ∃ N, ∀ b ≥ N, declarations b found ts = declarations N found ts := by
  refine ⟨7 * ts.length + 2, fun b enough => ?_⟩
  induction b, enough using Nat.le_induction with
  | base => rfl
  | succ b enough same => rw [declarations_settle _ ts found rfl b enough, same]

end GameScript.Grammar

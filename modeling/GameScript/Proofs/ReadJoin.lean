import GameScript.Proofs.Reading
import GameScript.Proofs.ScanJoin

/-!
# Reading a text after another one

A successful reading of a token list looks at no token past the phrases it
reads, except the one right after a phrase, and a component looks at nothing
after its closing brace.  So whatever the reader reads from a clean list
followed by the end, it reads alike from the list followed by any tokens at
all, as long as what it left unread is not empty; and since the reader copies
positions from tokens but never decides by them, it reads alike from the list
moved down by any number of lines, its syntax moved down the same way.

`Grammar.Carries` states both at once for one rule.  The rules are walked in
the order of `GameScript.Proofs.Reading`: induction on the frames for the
expression rules (`expressionsCarry`) and the statement rules
(`statementsCarry`), recursion on the length for the repetitions, and the
declaration rules from those.  The soundness results of that module supply
what each rule leaves unread, a suffix of its input, which is what keeps the
reading away from the end.  `component_carries` needs no token left unread,
and `declarations_carries` gives the top level: a text's declarations, and
the reading goes on after them.

The main theorem, `Declaration.ofSource_append_feed`, reads two texts joined
by a line feed, from `Token.scan_append_feed`: the declarations of the first,
then those of the second moved down by the lines of the first and the line
feed.
-/

namespace GameScript

/-! ## Syntax moved down -/

mutual

/-- The expression with every position `k` lines further down. -/
def Expr.shiftLines (k : Nat) : Expr → Expr
  | .literal value p => .literal value (p.shiftLines k)
  | .identifier name p => .identifier name (p.shiftLines k)
  | .unary op operand p => .unary op (operand.shiftLines k) (p.shiftLines k)
  | .binary op left right p => .binary op (left.shiftLines k) (right.shiftLines k) (p.shiftLines k)
  | .call name args p => .call name (Expr.shiftLinesList k args) (p.shiftLines k)

/-- Each expression of a list moved down `k` lines. -/
def Expr.shiftLinesList (k : Nat) : List Expr → List Expr
  | [] => []
  | e :: rest => e.shiftLines k :: Expr.shiftLinesList k rest

end

@[simp]
theorem Expr.shiftLinesList_eq_map (k : Nat) (es : List Expr) :
    Expr.shiftLinesList k es = es.map (Expr.shiftLines k) := by
  induction es with
  | nil => rfl
  | cons e rest more => simp [Expr.shiftLinesList, more]

mutual

/-- The statement with every line and position `k` lines further down. -/
def Stmt.shiftLines (k : Nat) : Stmt → Stmt
  | .assign target op value line => .assign target op (value.shiftLines k) (line + k)
  | .ifThen condition body line => .ifThen (condition.shiftLines k) (Stmt.shiftLinesList k body) (line + k)
  | .call function args line => .call function (args.map (Expr.shiftLines k)) (line + k)
  | .unknown token line => .unknown token (line + k)

/-- Each statement of a list moved down `k` lines. -/
def Stmt.shiftLinesList (k : Nat) : List Stmt → List Stmt
  | [] => []
  | st :: rest => st.shiftLines k :: Stmt.shiftLinesList k rest

end

@[simp]
theorem Stmt.shiftLinesList_eq_map (k : Nat) (sts : List Stmt) :
    Stmt.shiftLinesList k sts = sts.map (Stmt.shiftLines k) := by
  induction sts with
  | nil => rfl
  | cons st rest more => simp [Stmt.shiftLinesList, more]

/-- A field declaration `k` lines further down. -/
def FieldDecl.shiftLines (k : Nat) (fd : FieldDecl) : FieldDecl :=
  { fd with init := fd.init.map (Expr.shiftLines k), line := fd.line + k }

/-- A method declaration `k` lines further down. -/
def MethodDecl.shiftLines (k : Nat) (m : MethodDecl) : MethodDecl :=
  { m with body := m.body.map (Stmt.shiftLines k), line := m.line + k }

/-- A component declaration `k` lines further down. -/
def Declaration.shiftLines (k : Nat) (d : Declaration) : Declaration :=
  { d with
    fields := d.fields.map (FieldDecl.shiftLines k)
    methods := d.methods.map (MethodDecl.shiftLines k)
    line := d.line + k }

theorem Position.shiftLines_zero (p : Position) : p.shiftLines 0 = p := rfl

theorem Token.shiftLines_zero : Token.shiftLines 0 = id := rfl

mutual

theorem Expr.shiftLines_zero : ∀ e : Expr, e.shiftLines 0 = e
  | .literal .. | .identifier .. => rfl
  | .unary _ operand _ => by rw [Expr.shiftLines, Expr.shiftLines_zero operand]; rfl
  | .binary _ left right _ => by
    rw [Expr.shiftLines, Expr.shiftLines_zero left, Expr.shiftLines_zero right]; rfl
  | .call _ args _ => by rw [Expr.shiftLines, Expr.shiftLinesList_zero args]; rfl

theorem Expr.shiftLinesList_zero : ∀ es : List Expr, Expr.shiftLinesList 0 es = es
  | [] => rfl
  | e :: rest => by rw [Expr.shiftLinesList, Expr.shiftLines_zero e, Expr.shiftLinesList_zero rest]

end

mutual

theorem Stmt.shiftLines_zero : ∀ st : Stmt, st.shiftLines 0 = st
  | .assign _ _ value _ => by rw [Stmt.shiftLines, Expr.shiftLines_zero value]; rfl
  | .ifThen condition body _ => by
    rw [Stmt.shiftLines, Expr.shiftLines_zero condition, Stmt.shiftLinesList_zero body]; rfl
  | .call _ args _ => by
    rw [Stmt.shiftLines, ← Expr.shiftLinesList_eq_map, Expr.shiftLinesList_zero args]; rfl
  | .unknown .. => rfl

theorem Stmt.shiftLinesList_zero : ∀ sts : List Stmt, Stmt.shiftLinesList 0 sts = sts
  | [] => rfl
  | st :: rest => by rw [Stmt.shiftLinesList, Stmt.shiftLines_zero st, Stmt.shiftLinesList_zero rest]

end

theorem Declaration.shiftLines_zero : Declaration.shiftLines 0 = id := by
  have statements : Stmt.shiftLines 0 = id := funext Stmt.shiftLines_zero
  have fields : FieldDecl.shiftLines 0 = id := funext fun fd => by
    cases fd with
    | mk dataType name init line =>
      cases init <;> simp [FieldDecl.shiftLines, Expr.shiftLines_zero]
  have methods : MethodDecl.shiftLines 0 = id := funext fun m => by
    cases m
    simp [MethodDecl.shiftLines, statements]
  funext d
  cases d
  simp [Declaration.shiftLines, fields, methods]

@[simp] theorem Position.shiftLines_line (k : Nat) (p : Position) : (p.shiftLines k).line = p.line + k := rfl
@[simp] theorem Token.shiftLines_kind (k : Nat) (t : Token) : (t.shiftLines k).kind = t.kind := rfl
@[simp] theorem Token.shiftLines_text (k : Nat) (t : Token) : (t.shiftLines k).text = t.text := rfl
@[simp] theorem Token.shiftLines_position (k : Nat) (t : Token) :
    (t.shiftLines k).position = t.position.shiftLines k := rfl

namespace Grammar

open Parse

variable {α : Type} {e t : Token} {k : Nat} {W : List Token}

/-! ## Reading moved down, with anything after -/

/--
`run'` reads a list moved down `k` lines, followed by any tokens `W`, as
`run` reads the list followed by the end: wherever `run` leaves something of
the list unread, `run'` answers the answer moved by `f` and leaves the same
tokens moved, followed by `W`.
-/
def Carries (e : Token) (k : Nat) (W : List Token)
    (run run' : List Token → Except SyntaxError (α × List Token)) (f : α → α) : Prop :=
  ∀ ts x rest, Clean ts → run (ts ++ [e]) = .ok (x, rest ++ [e]) → rest ≠ [] →
    run' (ts.map (Token.shiftLines k) ++ W) = .ok (f x, rest.map (Token.shiftLines k) ++ W)

/-- A rule that reads nothing carries over. -/
theorem Carries.of_fails {run run' : List Token → Except SyntaxError (α × List Token)} {f : α → α}
    (fails : ∀ ts, ∃ error, run ts = .error error) : Carries e k W run run' f := by
  intro ts x rest _ read
  obtain ⟨error, failed⟩ := fails (ts ++ [e])
  rw [failed] at read
  cases read

theorem atEnd_moved (ht : t.kind ≠ .endOfInput) (rest : List Token) :
    atEnd (t.shiftLines k :: rest) = false :=
  atEnd_cons ht

theorem check_moved (ht : t.kind ≠ .endOfInput) (kind : TokenKind) (rest : List Token) :
    check kind (t.shiftLines k :: rest) = (t.kind == kind) :=
  check_cons ht

theorem advance_moved (ht : t.kind ≠ .endOfInput) (rest : List Token) :
    advance (t.shiftLines k :: rest) = rest :=
  advance_cons ht

theorem expect_moved {kind : TokenKind} {what : String} (ht : t.kind = kind)
    (hk : kind ≠ .endOfInput) (rest : List Token) :
    expect kind what (t.shiftLines k :: rest) = .ok (t.shiftLines k, rest) :=
  expect_cons ht hk

/-- Taking a token of a kind takes the next token of the list. -/
theorem expect_reads (he : e.kind = .endOfInput) {ts out : List Token} {kind : TokenKind}
    {what : String} {token : Token} (clean : Clean ts)
    (run : expect kind what (ts ++ [e]) = .ok (token, out)) :
    ∃ ts', ts = token :: ts' ∧ token.kind = kind ∧ out = ts' ++ [e] := by
  obtain ⟨t, ts', rfl, isKind, rfl⟩ := expect_ok he clean run
  rw [List.cons_append, expect_cons isKind (isKind ▸ clean.head)] at run
  cases run
  exact ⟨ts', rfl, isKind, rfl⟩

/-- Taking a name takes the next token of the list. -/
theorem name_reads (he : e.kind = .endOfInput) {ts out : List Token} {message : String}
    {token : Token} (clean : Clean ts) (run : name message (ts ++ [e]) = .ok (token, out)) :
    ∃ ts', ts = token :: ts' ∧ token.kind = .identifier ∧ out = ts' ++ [e] := by
  obtain ⟨t, ts', rfl, isName, rfl⟩ := name_ok he clean run
  rw [List.cons_append, name_cons isName] at run
  cases run
  exact ⟨ts', rfl, isName, rfl⟩

theorem name_moved {message : String} (ht : t.kind = .identifier) (rest : List Token) :
    name message (t.shiftLines k :: rest) = .ok (t.shiftLines k, rest) :=
  name_cons ht

/-- What a rule leaves of a clean list followed by the end is a suffix of the list. -/
theorem Sound.suffix {R : List Token → List Token → Prop}
    {run : List Token → Except SyntaxError (α × List Token)} (sound : Sound e run R)
    (leaves : ∀ {ts rest}, R ts rest → rest <:+ ts) {ts rest : List Token} {x : α}
    (clean : Clean ts) (read : run (ts ++ [e]) = .ok (x, rest ++ [e])) : rest <:+ ts := by
  obtain ⟨rest', same, derivation⟩ := sound ts x _ clean read
  rw [List.append_cancel_right same]
  exact leaves derivation

theorem ne_nil_of_suffix {rest ts : List Token} (suffix : rest <:+ ts) (unread : rest ≠ []) :
    ts ≠ [] := by
  rintro rfl
  exact unread (List.suffix_nil.1 suffix)

/-- A read that took something leaves a shorter stream, and a shorter moved stream. -/
theorem streams_shorter {ts mid : List Token} (shorter : mid.length < (t :: ts).length) :
    (mid ++ [e]).length < (t :: (ts ++ [e])).length ∧
      (mid.map (Token.shiftLines k) ++ W).length <
        (t.shiftLines k :: (ts.map (Token.shiftLines k) ++ W)).length := by
  simp only [List.length_append, List.length_map, List.length_cons, List.length_nil] at shorter ⊢
  omega

section Expressions

variable (he : e.kind = .endOfInput)
include he

/--
A chain of operations carries over once its operands do. At the end the chain
stops, and leaves nothing of the list.
-/
theorem chain_carries {level : Level} {b : Nat}
    (operand : Carries e k W (level.operandReader b) (level.operandReader b) (Expr.shiftLines k))
    (operandSound : Sound e (level.operandReader b) (Operand level)) :
    ∀ (left : Expr) ts x rest, Clean ts → level.tail b left (ts ++ [e]) = .ok (x, rest ++ [e]) →
      rest ≠ [] → level.tail b (left.shiftLines k) (ts.map (Token.shiftLines k) ++ W) =
        .ok (x.shiftLines k, rest.map (Token.shiftLines k) ++ W)
  | left, [], x, rest, _, read, unread => by
      rw [Level.tail_eq] at read
      simp only [List.nil_append, atEnd_single he, if_true, Except.ok.injEq, Prod.mk.injEq] at read
      exact absurd (by simpa using read.2.symm) unread
  | left, t :: ts, x, rest, clean, read, unread => by
      rw [Level.tail_eq] at read ⊢
      simp only [List.cons_append, List.map_cons, atEnd_cons clean.head, atEnd_moved clean.head,
        peek_cons, Token.shiftLines_kind, Token.shiftLines_position, Bool.false_eq_true, if_false,
        advance_cons clean.head, advance_moved clean.head] at read ⊢
      cases joins : level.operator? t.kind with
      | none =>
          simp only [joins, Except.ok.injEq, Prod.mk.injEq] at read ⊢
          obtain ⟨rfl, same⟩ := read
          rw [← List.cons_append] at same
          obtain rfl := List.append_cancel_right same
          exact ⟨rfl, rfl⟩
      | some op =>
          simp only [joins] at read ⊢
          obtain ⟨⟨right, after⟩, readRight, readMore⟩ := bind_eq_ok.1 read
          obtain ⟨mid, rfl, derivation⟩ := operandSound ts right after clean.tail readRight
          have shorter : mid.length < (t :: ts).length := Nat.lt_succ_of_le derivation.suffix.length_le
          obtain ⟨streamShorter, movedShorter⟩ := streams_shorter (e := e) (k := k) (W := W) shorter
          simp only [streamShorter, dif_pos] at readMore
          have leftover : rest <:+ mid := Sound.suffix (chain_sound he operandSound _) Chain.suffix
            (clean.tail.of_suffix derivation.suffix) readMore
          rw [operand ts right mid clean.tail readRight (ne_nil_of_suffix leftover unread)]
          simp only [bind, Except.bind, movedShorter, dif_pos]
          exact chain_carries operand operandSound _ mid x rest
            (clean.tail.of_suffix derivation.suffix) readMore unread
termination_by _ ts => ts.length
decreasing_by exact shorter

/-- The arguments after commas carry over once expressions do. -/
theorem moreArguments_carries {b : Nat}
    (expression : Carries e k W (Parse.expression b) (Parse.expression b) (Expr.shiftLines k)) :
    ∀ (args : List Expr) ts x rest, Clean ts →
      Parse.argumentsTail b args (ts ++ [e]) = .ok (x, rest ++ [e]) → rest ≠ [] →
        Parse.argumentsTail b (args.map (Expr.shiftLines k)) (ts.map (Token.shiftLines k) ++ W) =
          .ok (x.map (Expr.shiftLines k), rest.map (Token.shiftLines k) ++ W)
  | args, [], x, rest, _, read, unread => by
      rw [Parse.argumentsTail] at read
      simp only [List.nil_append, check_single he, Bool.false_eq_true, if_false,
        Except.ok.injEq, Prod.mk.injEq] at read
      exact absurd (by simpa using read.2.symm) unread
  | args, t :: ts, x, rest, clean, read, unread => by
      rw [Parse.argumentsTail] at read
      rw [Parse.argumentsTail]
      simp only [List.cons_append, List.map_cons, check_cons clean.head, check_moved clean.head,
        beq_iff_eq, advance_cons clean.head, advance_moved clean.head] at read ⊢
      by_cases comma : t.kind = .comma
      · simp only [comma, if_true] at read ⊢
        obtain ⟨⟨next, after⟩, readNext, readMore⟩ := bind_eq_ok.1 read
        obtain ⟨mid, rfl, derivation⟩ := (expressionsSound he b).expression ts next after clean.tail readNext
        have shorter : mid.length < (t :: ts).length := Nat.lt_succ_of_le derivation.suffix.length_le
        obtain ⟨streamShorter, movedShorter⟩ := streams_shorter (e := e) (k := k) (W := W) shorter
        simp only [streamShorter, dif_pos] at readMore
        have leftover : rest <:+ mid :=
          Sound.suffix (moreArguments_sound he (expressionsSound he b).expression _)
            MoreArguments.suffix (clean.tail.of_suffix derivation.suffix) readMore
        rw [expression ts next mid clean.tail readNext (ne_nil_of_suffix leftover unread)]
        simp only [bind, Except.bind, movedShorter, dif_pos]
        rw [show args.map (Expr.shiftLines k) ++ [next.shiftLines k] =
          (args ++ [next]).map (Expr.shiftLines k) by simp]
        exact moreArguments_carries expression _ mid x rest
          (clean.tail.of_suffix derivation.suffix) readMore unread
      · simp only [comma, if_false, Except.ok.injEq, Prod.mk.injEq] at read ⊢
        obtain ⟨rfl, same⟩ := read
        rw [← List.cons_append] at same
        obtain rfl := List.append_cancel_right same
        exact ⟨rfl, rfl⟩
termination_by _ ts => ts.length
decreasing_by exact shorter

end Expressions

/-- The expression rules with a number of frames carry over. -/
structure ExpressionsCarry (e : Token) (k : Nat) (W : List Token) (b : Nat) : Prop where
  expression : Carries e k W (Parse.expression b) (Parse.expression b) (Expr.shiftLines k)
  binary : ∀ level : Level, Carries e k W (level.reader b) (level.reader b) (Expr.shiftLines k)
  unary : Carries e k W (Parse.unary b) (Parse.unary b) (Expr.shiftLines k)
  primary : Carries e k W (Parse.primary b) (Parse.primary b) (Expr.shiftLines k)
  arguments : Carries e k W (Parse.arguments b) (Parse.arguments b) (List.map (Expr.shiftLines k))

theorem ExpressionsCarry.operand {b : Nat} (carry : ExpressionsCarry e k W b) (level : Level) :
    Carries e k W (level.operandReader b) (level.operandReader b) (Expr.shiftLines k) := by
  cases level with
  | comparison => exact carry.binary .sum
  | sum => exact carry.binary .product
  | product => exact carry.unary

section Expressions

variable (he : e.kind = .endOfInput) {b : Nat} (ih : ExpressionsCarry e k W b)
include he ih

theorem binary_carries_succ (level : Level) :
    Carries e k W (level.reader (b + 1)) (level.reader (b + 1)) (Expr.shiftLines k) := by
  intro ts x rest clean read unread
  rw [Level.reader_succ] at read ⊢
  obtain ⟨⟨left, after⟩, readLeft, readChain⟩ := bind_eq_ok.1 read
  have operandSound := operand_sound (expressionsSound he b).binary (expressionsSound he b).unary level
  obtain ⟨mid, rfl, operand⟩ := operandSound ts left after clean readLeft
  have leftover : rest <:+ mid := Sound.suffix (chain_sound he operandSound _) Chain.suffix
    (clean.of_suffix operand.suffix) readChain
  rw [ih.operand level ts left mid clean readLeft (ne_nil_of_suffix leftover unread)]
  exact chain_carries he (ih.operand level) operandSound left mid x rest
    (clean.of_suffix operand.suffix) readChain unread

omit he ih in
/-- A rule that leaves something unread read something. -/
theorem unread_of_sound {run : List Token → Except SyntaxError (α × List Token)}
    {R : List Token → List Token → Prop} (sound : Sound e run R)
    (leaves : ∀ {ts rest}, R ts rest → rest <:+ ts) {x : α} {rest : List Token}
    (read : run ([] ++ [e]) = .ok (x, rest ++ [e])) (unread : rest ≠ []) : False :=
  unread (List.suffix_nil.1 (sound.suffix leaves (fun _ none => nomatch none) read))

theorem unary_carries_succ : Carries e k W (Parse.unary (b + 1)) (Parse.unary (b + 1)) (Expr.shiftLines k) := by
  intro ts x rest clean read unread
  cases ts with
  | nil => exact (unread_of_sound (expressionsSound he (b + 1)).unary Unary.suffix read unread).elim
  | cons t ts =>
      rw [Parse.unary.eq_2] at read ⊢
      simp only [List.cons_append, List.map_cons, atEnd_cons clean.head, atEnd_moved clean.head,
        peek_cons, Token.shiftLines_kind, Token.shiftLines_position, Bool.false_eq_true, if_false,
        advance_cons clean.head, advance_moved clean.head] at read ⊢
      cases operator : prefixOp? t.kind with
      | none =>
          simp only [operator] at read ⊢
          exact ih.primary (t :: ts) x rest clean read unread
      | some op =>
          simp only [operator] at read ⊢
          obtain ⟨⟨operand, after⟩, readOperand, done⟩ := bind_eq_ok.1 read
          simp only [pure, Except.pure, Except.ok.injEq, Prod.mk.injEq] at done
          obtain ⟨rfl, rfl⟩ := done
          rw [ih.unary ts operand rest clean.tail readOperand unread]
          rfl

/-- Arguments carry over; no expression starts at the end. -/
theorem arguments_carries_succ :
    Carries e k W (Parse.arguments (b + 1)) (Parse.arguments (b + 1)) (List.map (Expr.shiftLines k)) := by
  intro ts x rest clean read unread
  rw [Parse.arguments.eq_2] at read ⊢
  obtain ⟨⟨_, afterOpening⟩, readOpening, read⟩ := bind_eq_ok.1 read
  obtain ⟨opening, ts, rfl, isOpening, rfl⟩ := expect_ok he clean readOpening
  have clean' := clean.tail
  rw [List.map_cons, List.cons_append, expect_moved isOpening (by simp), ok_bind]
  cases ts with
  | nil =>
      simp only [List.nil_append, check_single he, Bool.false_eq_true, if_false] at read
      obtain ⟨⟨first, afterFirst⟩, readFirst, _⟩ := bind_eq_ok.1 read
      obtain ⟨mid, _, firstDerivation⟩ := (expressionsSound he b).expression [] first afterFirst clean' readFirst
      obtain ⟨_, _, split, _⟩ := firstDerivation.starts
      cases split
  | cons t ts =>
      simp only [List.cons_append, List.map_cons, check_cons clean'.head, check_moved clean'.head,
        beq_iff_eq] at read ⊢
      by_cases close : t.kind = .rightParen
      · simp only [close, if_true] at read ⊢
        rw [expect_cons close (by simp)] at read
        rw [expect_moved close (by simp)]
        simp only [ok_bind, pure, Except.pure, Except.ok.injEq, Prod.mk.injEq] at read ⊢
        obtain ⟨rfl, same⟩ := read
        obtain rfl := List.append_cancel_right same
        exact ⟨rfl, rfl⟩
      · simp only [close, if_false] at read ⊢
        obtain ⟨⟨first, afterFirst⟩, readFirst, read⟩ := bind_eq_ok.1 read
        obtain ⟨mid, rfl, firstDerivation⟩ :=
          (expressionsSound he b).expression (t :: ts) first afterFirst clean' readFirst
        obtain ⟨⟨args, afterArgs⟩, readArgs, read⟩ := bind_eq_ok.1 read
        obtain ⟨mid', rfl, more⟩ := moreArguments_sound he (expressionsSound he b).expression [first]
          mid args afterArgs (clean'.of_suffix firstDerivation.suffix) readArgs
        obtain ⟨⟨_, afterClose⟩, readClose, done⟩ := bind_eq_ok.1 read
        obtain ⟨closing, rest', rfl, isClose, rfl⟩ := expect_ok he
          ((clean'.of_suffix firstDerivation.suffix).of_suffix more.suffix) readClose
        simp only [pure, Except.pure, Except.ok.injEq, Prod.mk.injEq] at done
        obtain ⟨rfl, same⟩ := done
        obtain rfl := List.append_cancel_right same
        have nonempty : mid ≠ [] := ne_nil_of_suffix more.suffix (List.cons_ne_nil _ _)
        have firstMoved := ih.expression (t :: ts) first mid clean' readFirst nonempty
        have argsMoved := moreArguments_carries he ih.expression [first] mid args (closing :: rest')
          (clean'.of_suffix firstDerivation.suffix) readArgs (List.cons_ne_nil _ _)
        simp only [List.map_cons, List.map_nil, List.cons_append] at firstMoved argsMoved
        rw [firstMoved, ok_bind]
        dsimp only
        rw [argsMoved, ok_bind]
        dsimp only
        rw [expect_moved isClose (by simp), ok_bind]
        rfl

theorem primary_carries_succ :
    Carries e k W (Parse.primary (b + 1)) (Parse.primary (b + 1)) (Expr.shiftLines k) := by
  intro ts x rest clean read unread
  cases ts with
  | nil => exact (unread_of_sound (expressionsSound he (b + 1)).primary Primary.suffix read unread).elim
  | cons t ts =>
      rw [Parse.primary.eq_2] at read ⊢
      simp only [List.cons_append, List.map_cons, atEnd_cons clean.head, atEnd_moved clean.head,
        peek_cons, Bool.false_eq_true, if_false, check_cons clean.head, check_moved clean.head,
        beq_iff_eq, advance_cons clean.head, advance_moved clean.head] at read ⊢
      have sameLiteral : literal? (t.shiftLines k) = literal? t := rfl
      rw [sameLiteral]
      cases literal : literal? t with
      | some lit =>
          simp only [literal, Except.ok.injEq, Prod.mk.injEq] at read ⊢
          obtain ⟨rfl, same⟩ := read
          obtain rfl := List.append_cancel_right same
          exact ⟨rfl, rfl⟩
      | none =>
          simp only [literal] at read ⊢
          by_cases isName : t.kind = .identifier
          · simp only [isName, if_true] at read ⊢
            cases ts with
            | nil =>
                simp only [List.nil_append, check_single he, Bool.false_eq_true, if_false,
                  Except.ok.injEq, Prod.mk.injEq] at read
                exact absurd (by simpa using read.2.symm) unread
            | cons u ts =>
                simp only [List.cons_append, List.map_cons, check_cons clean.tail.head,
                  check_moved clean.tail.head, beq_iff_eq] at read ⊢
                by_cases opening : u.kind = .leftParen
                · simp only [opening, if_true] at read ⊢
                  obtain ⟨⟨args, after⟩, readArgs, done⟩ := bind_eq_ok.1 read
                  simp only [pure, Except.pure, Except.ok.injEq, Prod.mk.injEq] at done
                  obtain ⟨rfl, rfl⟩ := done
                  have moved := ih.arguments (u :: ts) args rest clean.tail readArgs unread
                  simp only [List.map_cons, List.cons_append] at moved
                  rw [moved, ok_bind]
                  simp [Expr.shiftLines, pure, Except.pure]
                · simp only [opening, if_false, Except.ok.injEq, Prod.mk.injEq] at read ⊢
                  obtain ⟨rfl, same⟩ := read
                  rw [← List.cons_append] at same
                  obtain rfl := List.append_cancel_right same
                  exact ⟨rfl, rfl⟩
          · simp only [isName, if_false] at read ⊢
            by_cases opening : t.kind = .leftParen
            · simp only [opening, if_true] at read ⊢
              obtain ⟨⟨inner, after⟩, readInner, read⟩ := bind_eq_ok.1 read
              obtain ⟨mid, rfl, innerDerivation⟩ :=
                (expressionsSound he b).expression ts inner after clean.tail readInner
              obtain ⟨⟨_, afterClose⟩, readClose, done⟩ := bind_eq_ok.1 read
              obtain ⟨close, rest', rfl, isClose, rfl⟩ :=
                expect_ok he (clean.tail.of_suffix innerDerivation.suffix) readClose
              simp only [pure, Except.pure, Except.ok.injEq, Prod.mk.injEq] at done
              obtain ⟨rfl, same⟩ := done
              obtain rfl := List.append_cancel_right same
              rw [ih.expression ts _ _ clean.tail readInner (List.cons_ne_nil _ _),
                ok_bind, List.map_cons, List.cons_append, expect_moved isClose (by simp),
                ok_bind]
              rfl
            · simp [opening] at read
              by_cases number : t.kind = .number <;> simp [number] at read

end Expressions

/-- With any number of frames, the expression rules carry over. -/
theorem expressionsCarry (he : e.kind = .endOfInput) (b : Nat) : ExpressionsCarry e k W b := by
  induction b with
  | zero =>
      exact ⟨.of_fails fun ts => ⟨_, Parse.expression.eq_1 ts⟩,
        fun level => .of_fails fun ts => ⟨_, level.reader_zero ts⟩,
        .of_fails fun ts => ⟨_, Parse.unary.eq_1 ts⟩,
        .of_fails fun ts => ⟨_, Parse.primary.eq_1 ts⟩,
        .of_fails fun ts => ⟨_, Parse.arguments.eq_1 ts⟩⟩
  | succ b ih =>
      exact ⟨fun ts x rest clean read unread => by
          rw [Parse.expression.eq_2] at read ⊢
          exact ih.binary .comparison ts x rest clean read unread,
        binary_carries_succ he ih, unary_carries_succ he ih, primary_carries_succ he ih,
        arguments_carries_succ he ih⟩

/-! ## Statements -/

/-- The statement rules with a number of frames carry over. -/
structure StatementsCarry (e : Token) (k : Nat) (W : List Token) (b : Nat) : Prop where
  block : Carries e k W (Parse.block b) (Parse.block b) (List.map (Stmt.shiftLines k))
  statements : ∀ body, Carries e k W (Parse.statements b body)
    (Parse.statements b (body.map (Stmt.shiftLines k))) (List.map (Stmt.shiftLines k))
  statement : ∀ t ts x rest, Clean (t :: ts) → t.kind ≠ .rightBrace →
    Parse.statement b ((t :: ts) ++ [e]) = .ok (x, rest ++ [e]) → rest ≠ [] →
      Parse.statement b ((t :: ts).map (Token.shiftLines k) ++ W) =
        .ok (x.shiftLines k, rest.map (Token.shiftLines k) ++ W)
  ifStatement : Carries e k W (Parse.ifStatement b) (Parse.ifStatement b) (Stmt.shiftLines k)
  assignment : ∀ t u ts x rest, Clean (t :: u :: ts) →
    Parse.assignment b ((t :: u :: ts) ++ [e]) = .ok (x, rest ++ [e]) → rest ≠ [] →
      Parse.assignment b ((t :: u :: ts).map (Token.shiftLines k) ++ W) =
        .ok (x.shiftLines k, rest.map (Token.shiftLines k) ++ W)
  callStatement : ∀ t ts x rest, Clean (t :: ts) →
    Parse.callStatement b ((t :: ts) ++ [e]) = .ok (x, rest ++ [e]) → rest ≠ [] →
      Parse.callStatement b ((t :: ts).map (Token.shiftLines k) ++ W) =
        .ok (x.shiftLines k, rest.map (Token.shiftLines k) ++ W)

section Statements

variable (he : e.kind = .endOfInput)
include he

/-- Statements carry over one after another, up to a closing brace. -/
theorem statements_carries {b : Nat}
    (statement : ∀ t ts x rest, Clean (t :: ts) → t.kind ≠ .rightBrace →
      Parse.statement b ((t :: ts) ++ [e]) = .ok (x, rest ++ [e]) → rest ≠ [] →
        Parse.statement b ((t :: ts).map (Token.shiftLines k) ++ W) =
          .ok (x.shiftLines k, rest.map (Token.shiftLines k) ++ W)) :
    ∀ (body : List Stmt) ts x rest, Clean ts →
      Parse.statements b body (ts ++ [e]) = .ok (x, rest ++ [e]) → rest ≠ [] →
        Parse.statements b (body.map (Stmt.shiftLines k)) (ts.map (Token.shiftLines k) ++ W) =
          .ok (x.map (Stmt.shiftLines k), rest.map (Token.shiftLines k) ++ W)
  | body, [], x, rest, _, read, unread => by
      rw [Parse.statements] at read
      simp only [List.nil_append, check_single he, atEnd_single he, Bool.or_true, if_true,
        Except.ok.injEq, Prod.mk.injEq] at read
      exact absurd (by simpa using read.2.symm) unread
  | body, t :: ts, x, rest, clean, read, unread => by
      rw [Parse.statements] at read ⊢
      simp only [List.cons_append, List.map_cons, check_cons clean.head, check_moved clean.head,
        atEnd_cons clean.head, atEnd_moved clean.head, Bool.or_false, beq_iff_eq] at read ⊢
      by_cases close : t.kind = .rightBrace
      · simp only [close, if_true, Except.ok.injEq, Prod.mk.injEq] at read ⊢
        obtain ⟨rfl, same⟩ := read
        rw [← List.cons_append] at same
        obtain rfl := List.append_cancel_right same
        exact ⟨rfl, rfl⟩
      · simp only [close, if_false] at read ⊢
        obtain ⟨⟨stmt, after⟩, readStatement, readMore⟩ := bind_eq_ok.1 read
        obtain ⟨mid, rfl, first⟩ :=
          (statementsSound he b).statement t ts stmt after clean close readStatement
        have shorter : mid.length < (t :: ts).length := by
          obtain ⟨_, _, split, _, read⟩ := first.starts
          cases split
          exact Nat.lt_succ_of_le read.length_le
        obtain ⟨streamShorter, movedShorter⟩ := streams_shorter (e := e) (k := k) (W := W) shorter
        simp only [streamShorter, dif_pos] at readMore
        have leftover : rest <:+ mid := Sound.suffix ((statementsSound he b).statements _)
          Statements.suffix (clean.of_suffix first.suffix) readMore
        have moved := statement t ts stmt mid clean close readStatement
          (ne_nil_of_suffix leftover unread)
        simp only [List.map_cons, List.cons_append] at moved
        rw [moved]
        simp only [bind, Except.bind, movedShorter, dif_pos]
        rw [show body.map (Stmt.shiftLines k) ++ [stmt.shiftLines k] =
          (body ++ [stmt]).map (Stmt.shiftLines k) by simp]
        exact statements_carries statement _ mid x rest (clean.of_suffix first.suffix) readMore unread
termination_by _ ts => ts.length
decreasing_by exact shorter

variable {b : Nat} (expressions : ExpressionsCarry e k W b) (ih : StatementsCarry e k W b)
include expressions

omit ih in
theorem assignment_carries_succ (t u : Token) (ts : List Token) (x : Stmt) (rest : List Token)
    (clean : Clean (t :: u :: ts))
    (read : Parse.assignment (b + 1) ((t :: u :: ts) ++ [e]) = .ok (x, rest ++ [e]))
    (unread : rest ≠ []) :
    Parse.assignment (b + 1) ((t :: u :: ts).map (Token.shiftLines k) ++ W) =
      .ok (x.shiftLines k, rest.map (Token.shiftLines k) ++ W) := by
  rw [Parse.assignment] at read ⊢
  simp only [List.cons_append, List.map_cons, advance_cons clean.head,
    advance_cons clean.tail.head, advance_moved clean.head, advance_moved clean.tail.head,
    peek_cons, peekNext_cons_cons, Token.shiftLines_kind] at read ⊢
  obtain ⟨⟨value, after⟩, readValue, read⟩ := bind_eq_ok.1 read
  obtain ⟨mid, rfl, valueDerivation⟩ :=
    (expressionsSound he b).expression ts value after clean.tail.tail readValue
  obtain ⟨⟨_, afterSemicolon⟩, readSemicolon, done⟩ := bind_eq_ok.1 read
  obtain ⟨semicolon, rest', rfl, isSemicolon, rfl⟩ :=
    expect_ok he (clean.tail.tail.of_suffix valueDerivation.suffix) readSemicolon
  simp only [pure, Except.pure, Except.ok.injEq, Prod.mk.injEq] at done
  obtain ⟨rfl, same⟩ := done
  obtain rfl := List.append_cancel_right same
  rw [expressions.expression ts _ _ clean.tail.tail readValue (List.cons_ne_nil _ _), ok_bind]
  dsimp only
  rw [List.map_cons, List.cons_append, expect_moved isSemicolon (by simp), ok_bind]
  rfl

omit ih in
theorem callStatement_carries_succ (t : Token) (ts : List Token) (x : Stmt) (rest : List Token)
    (clean : Clean (t :: ts)) (read : Parse.callStatement (b + 1) ((t :: ts) ++ [e]) = .ok (x, rest ++ [e]))
    (unread : rest ≠ []) :
    Parse.callStatement (b + 1) ((t :: ts).map (Token.shiftLines k) ++ W) =
      .ok (x.shiftLines k, rest.map (Token.shiftLines k) ++ W) := by
  rw [Parse.callStatement] at read ⊢
  simp only [List.cons_append, List.map_cons, advance_cons clean.head, advance_moved clean.head,
    peek_cons] at read ⊢
  obtain ⟨⟨args, after⟩, readArgs, read⟩ := bind_eq_ok.1 read
  obtain ⟨mid, rfl, arguments⟩ := (expressionsSound he b).arguments ts args after clean.tail readArgs
  obtain ⟨⟨_, afterSemicolon⟩, readSemicolon, done⟩ := bind_eq_ok.1 read
  obtain ⟨semicolon, rest', rfl, isSemicolon, rfl⟩ :=
    expect_ok he (clean.tail.of_suffix arguments.suffix) readSemicolon
  simp only [pure, Except.pure, Except.ok.injEq, Prod.mk.injEq] at done
  obtain ⟨rfl, same⟩ := done
  obtain rfl := List.append_cancel_right same
  rw [expressions.arguments ts _ _ clean.tail readArgs (List.cons_ne_nil _ _), ok_bind]
  dsimp only
  rw [List.map_cons, List.cons_append, expect_moved isSemicolon (by simp), ok_bind]
  rfl

include ih

/--
A conditional carries over; its block starts with an opening brace, so the
condition leaves something unread.
-/
theorem ifStatement_carries_succ :
    Carries e k W (Parse.ifStatement (b + 1)) (Parse.ifStatement (b + 1)) (Stmt.shiftLines k) := by
  intro ts x rest clean read unread
  rw [Parse.ifStatement] at read ⊢
  obtain ⟨⟨ifToken, afterKeyword⟩, readKeyword, read⟩ := bind_eq_ok.1 read
  obtain ⟨keyword, ts, rfl, isKeyword, rfl⟩ := expect_ok he clean readKeyword
  have sameToken : ifToken = keyword := by
    rw [List.cons_append, expect_cons isKeyword (by simp)] at readKeyword
    cases readKeyword
    rfl
  obtain ⟨⟨condition, after⟩, readCondition, read⟩ := bind_eq_ok.1 read
  obtain ⟨mid, rfl, conditionDerivation⟩ :=
    (expressionsSound he b).expression ts condition after clean.tail readCondition
  obtain ⟨⟨body, afterBody⟩, readBody, done⟩ := bind_eq_ok.1 read
  obtain ⟨rest', rfl, block⟩ := (statementsSound he b).block mid body afterBody
    (clean.tail.of_suffix conditionDerivation.suffix) readBody
  simp only [pure, Except.pure, Except.ok.injEq, Prod.mk.injEq] at done
  obtain ⟨rfl, same⟩ := done
  obtain rfl := List.append_cancel_right same
  have opened : mid ≠ [] := by
    cases block
    exact List.cons_ne_nil _ _
  rw [List.map_cons, List.cons_append, expect_moved isKeyword (by simp), ok_bind]
  dsimp only
  rw [expressions.expression ts condition mid clean.tail readCondition opened, ok_bind]
  dsimp only
  rw [ih.block mid body rest' (clean.tail.of_suffix conditionDerivation.suffix) readBody unread, ok_bind]
  simp [Stmt.shiftLines, pure, Except.pure, sameToken]

omit expressions in
theorem block_carries_succ :
    Carries e k W (Parse.block (b + 1)) (Parse.block (b + 1)) (List.map (Stmt.shiftLines k)) := by
  intro ts x rest clean read unread
  rw [Parse.block] at read ⊢
  obtain ⟨⟨_, afterOpening⟩, readOpening, read⟩ := bind_eq_ok.1 read
  obtain ⟨opening, ts, rfl, isOpening, rfl⟩ := expect_ok he clean readOpening
  obtain ⟨⟨body, after⟩, readBody, read⟩ := bind_eq_ok.1 read
  obtain ⟨mid, rfl, statements⟩ :=
    (statementsSound he b).statements [] ts body after clean.tail readBody
  obtain ⟨⟨_, afterClose⟩, readClose, done⟩ := bind_eq_ok.1 read
  obtain ⟨close, rest', rfl, isClose, rfl⟩ :=
    expect_ok he (clean.tail.of_suffix statements.suffix) readClose
  simp only [pure, Except.pure, Except.ok.injEq, Prod.mk.injEq] at done
  obtain ⟨rfl, same⟩ := done
  obtain rfl := List.append_cancel_right same
  have moved := ih.statements [] ts body (close :: rest') clean.tail readBody (List.cons_ne_nil _ _)
  simp only [List.map_nil] at moved
  rw [List.map_cons, List.cons_append, expect_moved isOpening (by simp), ok_bind]
  dsimp only
  rw [moved, ok_bind]
  dsimp only
  rw [List.map_cons, List.cons_append, expect_moved isClose (by simp), ok_bind]
  rfl

omit expressions in
/--
A statement is chosen by its first two tokens, which a moved stream shows
alike. A statement takes its first token, so a single token leaves nothing.
-/
theorem statement_carries_succ (t : Token) (ts : List Token) (x : Stmt) (rest : List Token)
    (clean : Clean (t :: ts)) (close : t.kind ≠ .rightBrace)
    (read : Parse.statement (b + 1) ((t :: ts) ++ [e]) = .ok (x, rest ++ [e])) (unread : rest ≠ []) :
    Parse.statement (b + 1) ((t :: ts).map (Token.shiftLines k) ++ W) =
      .ok (x.shiftLines k, rest.map (Token.shiftLines k) ++ W) := by
  obtain ⟨rest', same, derivation⟩ :=
    (statementsSound he (b + 1)).statement t ts x _ clean close read
  obtain rfl := List.append_cancel_right same
  rw [Parse.statement] at read ⊢
  simp only [List.cons_append, List.map_cons, check_cons clean.head, check_moved clean.head,
    beq_iff_eq] at read ⊢
  by_cases keyword : t.kind = .keywordIf
  · simp only [keyword, if_true] at read ⊢
    have moved := ih.ifStatement (t :: ts) x rest clean read unread
    simpa only [List.map_cons, List.cons_append] using moved
  simp only [keyword, if_false] at read ⊢
  cases ts with
  | nil =>
      obtain ⟨_, _, split, _, leftover⟩ := derivation.starts
      cases split
      exact absurd (List.suffix_nil.1 leftover) unread
  | cons u ts =>
      simp only [List.cons_append, List.map_cons, peekNext_cons_cons, Token.shiftLines_kind] at read ⊢
      by_cases assignment : t.kind = .identifier ∧ IsAssignment u.kind
      · have chosen : ((t.kind == .identifier) && (assignOp? u.kind).isSome) = true := by
          simp [assignment.1, (assignOp?_isSome u.kind).2 assignment.2]
        simp only [chosen, if_true] at read ⊢
        have moved := ih.assignment t u ts x rest clean read unread
        simpa only [List.map_cons, List.cons_append] using moved
      have skipped : ((t.kind == .identifier) && (assignOp? u.kind).isSome) = false := by
        rw [Bool.and_eq_false_iff, beq_eq_false_iff_ne, ne_eq, Bool.eq_false_iff, ne_eq,
          assignOp?_isSome]
        tauto
      simp only [skipped, Bool.false_eq_true, if_false] at read ⊢
      by_cases call : t.kind = .identifier ∧ u.kind = .leftParen
      · have chosen : ((t.kind == .identifier) && (u.kind == .leftParen)) = true := by
          simp [call.1, call.2]
        simp only [chosen, if_true] at read ⊢
        have moved := ih.callStatement t (u :: ts) x rest clean read unread
        simpa only [List.map_cons, List.cons_append] using moved
      have skippedCall : ((t.kind == .identifier) && (u.kind == .leftParen)) = false := by
        simpa using call
      simp only [skippedCall, Bool.false_eq_true, if_false, advance_cons clean.head,
        advance_moved clean.head, peek_cons, Except.ok.injEq, Prod.mk.injEq] at read ⊢
      obtain ⟨rfl, same⟩ := read
      rw [← List.cons_append] at same
      obtain rfl := List.append_cancel_right same
      simp [Stmt.shiftLines]

end Statements

/-- With any number of frames, the statement rules carry over. -/
theorem statementsCarry (he : e.kind = .endOfInput) (b : Nat) : StatementsCarry e k W b := by
  induction b with
  | zero =>
      have statement : ∀ t ts x rest, Clean (t :: ts) → t.kind ≠ .rightBrace →
          Parse.statement 0 ((t :: ts) ++ [e]) = .ok (x, rest ++ [e]) → rest ≠ [] →
            Parse.statement 0 ((t :: ts).map (Token.shiftLines k) ++ W) =
              .ok (x.shiftLines k, rest.map (Token.shiftLines k) ++ W) := by
        intro _ _ _ _ _ _ read
        rw [Parse.statement.eq_1] at read
        cases read
      exact {
        block := .of_fails fun ts => ⟨_, Parse.block.eq_1 ts⟩
        statements := statements_carries he statement
        statement := statement
        ifStatement := .of_fails fun ts => ⟨_, Parse.ifStatement.eq_1 ts⟩
        assignment := by
          intro _ _ _ _ _ _ read
          rw [Parse.assignment.eq_1] at read
          cases read
        callStatement := by
          intro _ _ _ _ _ read
          rw [Parse.callStatement.eq_1] at read
          cases read }
  | succ b ih =>
      have expressions := expressionsCarry (k := k) (W := W) he b
      have statement := statement_carries_succ he ih
      exact {
        block := block_carries_succ he ih
        statements := statements_carries he statement
        statement := statement
        ifStatement := ifStatement_carries_succ he expressions ih
        assignment := assignment_carries_succ he expressions
        callStatement := callStatement_carries_succ he expressions }

/-! ## Declarations -/

section Declarations

variable (he : e.kind = .endOfInput)
include he

/-- Parameters carry over while a comma follows each pair of names. -/
theorem parameters_carries : ∀ (params : List Param) ts x rest, Clean ts →
    Parse.parameters params (ts ++ [e]) = .ok (x, rest ++ [e]) → rest ≠ [] →
      Parse.parameters params (ts.map (Token.shiftLines k) ++ W) =
        .ok (x, rest.map (Token.shiftLines k) ++ W)
  | params, ts, x, rest, clean, read, unread => by
      rw [Parse.parameters] at read ⊢
      obtain ⟨⟨type, afterType⟩, readType, read⟩ := bind_eq_ok.1 read
      obtain ⟨ts, rfl, isType, rfl⟩ := name_reads he clean readType
      obtain ⟨⟨paramName, afterName⟩, readName, read⟩ := bind_eq_ok.1 read
      obtain ⟨ts, rfl, isName, rfl⟩ := name_reads he clean.tail readName
      simp only [List.map_cons, List.cons_append, name_moved isType, name_moved isName, ok_bind,
        Token.shiftLines_text] at read ⊢
      cases ts with
      | nil =>
          simp only [List.nil_append, check_single he, Bool.false_eq_true, if_false,
            Except.ok.injEq, Prod.mk.injEq] at read
          exact absurd (by simpa using read.2.symm) unread
      | cons separator ts =>
          have clean' := clean.tail.tail
          simp only [List.cons_append, List.map_cons, check_cons clean'.head,
            check_moved clean'.head, beq_iff_eq, advance_cons clean'.head,
            advance_moved clean'.head] at read ⊢
          by_cases comma : separator.kind = .comma
          · have shorter :
                (ts ++ [e]).length < (type :: paramName :: separator :: (ts ++ [e])).length := by
              simp
            have movedShorter : (ts.map (Token.shiftLines k) ++ W).length <
                (type.shiftLines k :: paramName.shiftLines k :: separator.shiftLines k ::
                  (ts.map (Token.shiftLines k) ++ W)).length := by
              simp only [List.length_append, List.length_map, List.length_cons]
              omega
            simp only [comma, if_true, shorter, movedShorter, dif_pos] at read ⊢
            exact parameters_carries _ ts x rest clean'.tail read unread
          · simp only [comma, if_false, Except.ok.injEq, Prod.mk.injEq] at read ⊢
            obtain ⟨rfl, same⟩ := read
            rw [← List.cons_append] at same
            obtain rfl := List.append_cancel_right same
            exact ⟨rfl, rfl⟩
termination_by _ ts => ts.length

/-- A field carries over; an initial value follows exactly when the next token is `=`. -/
theorem field_carries (b : Nat) :
    Carries e k W (Parse.field b) (Parse.field b) (FieldDecl.shiftLines k) := by
  cases b with
  | zero => exact .of_fails fun ts => ⟨_, Parse.field.eq_1 ts⟩
  | succ b =>
      intro ts x rest clean read unread
      rw [Parse.field] at read ⊢
      obtain ⟨⟨type, afterType⟩, readType, read⟩ := bind_eq_ok.1 read
      obtain ⟨ts, rfl, isType, rfl⟩ := name_reads he clean readType
      obtain ⟨⟨fieldName, afterName⟩, readName, read⟩ := bind_eq_ok.1 read
      obtain ⟨ts, rfl, isName, rfl⟩ := name_reads he clean.tail readName
      have clean' := clean.tail.tail
      simp only [List.map_cons, List.cons_append, name_moved isType, name_moved isName, ok_bind]
      cases ts with
      | nil =>
          simp only [List.nil_append, check_single he, Bool.false_eq_true, if_false,
            pure_bind] at read
          obtain ⟨⟨_, afterSemicolon⟩, readSemicolon, _⟩ := bind_eq_ok.1 read
          obtain ⟨_, _, split, _⟩ := expect_ok he clean' readSemicolon
          cases split
      | cons assign ts =>
          simp only [List.cons_append, List.map_cons, check_cons clean'.head,
            check_moved clean'.head, beq_iff_eq] at read ⊢
          by_cases isAssign : assign.kind = .assign
          · simp only [isAssign, if_true, advance_cons clean'.head, advance_moved clean'.head,
              pure_bind] at read ⊢
            obtain ⟨⟨value, afterValue⟩, readValue, read⟩ := bind_eq_ok.1 read
            obtain ⟨mid, rfl, valueDerivation⟩ :=
              (expressionsSound he b).expression ts value afterValue clean'.tail readValue
            obtain ⟨⟨_, afterSemicolon⟩, readSemicolon, done⟩ := bind_eq_ok.1 read
            obtain ⟨semicolon, rest', rfl, isSemicolon, rfl⟩ :=
              expect_ok he (clean'.tail.of_suffix valueDerivation.suffix) readSemicolon
            simp only [pure, Except.pure, Except.ok.injEq, Prod.mk.injEq] at done
            obtain ⟨rfl, same⟩ := done
            obtain rfl := List.append_cancel_right same
            rw [(expressionsCarry he b).expression ts _ _ clean'.tail readValue (List.cons_ne_nil _ _),
              ok_bind]
            dsimp only
            rw [List.map_cons, List.cons_append, expect_moved isSemicolon (by simp), ok_bind]
            simp [FieldDecl.shiftLines, pure, Except.pure]
          · simp only [isAssign, if_false, pure_bind] at read ⊢
            obtain ⟨⟨_, afterSemicolon⟩, readSemicolon, done⟩ := bind_eq_ok.1 read
            rw [← List.cons_append] at readSemicolon
            obtain ⟨semicolon, rest', split, isSemicolon, rfl⟩ := expect_ok he clean' readSemicolon
            obtain ⟨rfl, rfl⟩ := List.cons.inj split
            simp only [pure, Except.pure, Except.ok.injEq, Prod.mk.injEq] at done
            obtain ⟨rfl, same⟩ := done
            obtain rfl := List.append_cancel_right same
            rw [expect_moved isSemicolon (by simp), ok_bind]
            simp [FieldDecl.shiftLines, pure, Except.pure]

/-- A method carries over; it has no parameters exactly when `)` follows at once. -/
theorem method_carries (b : Nat) :
    Carries e k W (Parse.method b) (Parse.method b) (MethodDecl.shiftLines k) := by
  cases b with
  | zero => exact .of_fails fun ts => ⟨_, Parse.method.eq_1 ts⟩
  | succ b =>
      intro ts x rest clean read unread
      rw [Parse.method] at read ⊢
      obtain ⟨⟨fnToken, afterKeyword⟩, readKeyword, read⟩ := bind_eq_ok.1 read
      obtain ⟨ts, rfl, isKeyword, rfl⟩ := expect_reads he clean readKeyword
      obtain ⟨⟨methodName, afterName⟩, readName, read⟩ := bind_eq_ok.1 read
      obtain ⟨ts, rfl, isName, rfl⟩ := name_reads he clean.tail readName
      obtain ⟨⟨opening, afterOpening⟩, readOpening, read⟩ := bind_eq_ok.1 read
      obtain ⟨ts, rfl, isOpening, rfl⟩ := expect_reads he clean.tail.tail readOpening
      have clean' := clean.tail.tail.tail
      simp only [List.map_cons, List.cons_append, expect_moved isKeyword (by simp),
        name_moved isName, expect_moved isOpening (by simp), ok_bind]
      cases ts with
      | nil =>
          simp only [List.nil_append, check_single he, Bool.false_eq_true, if_false] at read
          obtain ⟨⟨params, afterParams⟩, readParams, _⟩ := bind_eq_ok.1 read
          obtain ⟨_, _, parameters⟩ := parameters_sound he [] [] params afterParams clean' readParams
          obtain ⟨_, _, split, _⟩ := parameters.starts
          cases split
      | cons t ts =>
          simp only [List.cons_append, List.map_cons, check_cons clean'.head,
            check_moved clean'.head, beq_iff_eq] at read ⊢
          by_cases bare : t.kind = .rightParen
          · simp only [bare, if_true, pure_bind] at read ⊢
            obtain ⟨⟨_, afterClose⟩, readClose, read⟩ := bind_eq_ok.1 read
            rw [← List.cons_append] at readClose
            obtain ⟨_, split, isClose, rfl⟩ := expect_reads he clean' readClose
            obtain ⟨rfl, rfl⟩ := List.cons.inj split
            obtain ⟨⟨body, afterBody⟩, readBody, done⟩ := bind_eq_ok.1 read
            obtain ⟨rest', rfl, block⟩ :=
              (statementsSound he b).block ts body afterBody clean'.tail readBody
            simp only [pure, Except.pure, Except.ok.injEq, Prod.mk.injEq] at done
            obtain ⟨rfl, same⟩ := done
            obtain rfl := List.append_cancel_right same
            rw [expect_moved isClose (by simp), ok_bind]
            dsimp only
            rw [(statementsCarry he b).block ts body rest' clean'.tail readBody unread, ok_bind]
            simp [MethodDecl.shiftLines, pure, Except.pure]
          · simp only [bare, if_false] at read ⊢
            obtain ⟨⟨params, afterParams⟩, readParams, read⟩ := bind_eq_ok.1 read
            obtain ⟨mid, rfl, parameters⟩ :=
              parameters_sound he [] (t :: ts) params afterParams clean' readParams
            obtain ⟨⟨_, afterClose⟩, readClose, read⟩ := bind_eq_ok.1 read
            obtain ⟨close, mid', rfl, isClose, rfl⟩ :=
              expect_ok he (clean'.of_suffix parameters.suffix) readClose
            obtain ⟨⟨body, afterBody⟩, readBody, done⟩ := bind_eq_ok.1 read
            obtain ⟨rest', rfl, block⟩ := (statementsSound he b).block mid' body afterBody
              ((clean'.of_suffix parameters.suffix).tail) readBody
            simp only [pure, Except.pure, Except.ok.injEq, Prod.mk.injEq] at done
            obtain ⟨rfl, same⟩ := done
            obtain rfl := List.append_cancel_right same
            have paramsMoved := parameters_carries (k := k) (W := W) he [] (t :: ts) params
              (close :: mid') clean' readParams (List.cons_ne_nil _ _)
            simp only [List.map_cons, List.cons_append] at paramsMoved
            rw [paramsMoved, ok_bind]
            dsimp only
            rw [expect_moved isClose (by simp), ok_bind]
            dsimp only
            rw [(statementsCarry he b).block mid' body rest'
              ((clean'.of_suffix parameters.suffix).tail) readBody unread, ok_bind]
            simp [MethodDecl.shiftLines, pure, Except.pure]

/-- Members carry over one after another, up to a closing brace. -/
theorem members_carries (b : Nat) :
    ∀ (fields : List FieldDecl) (methods : List MethodDecl) ts x rest, Clean ts →
      Parse.members b fields methods (ts ++ [e]) = .ok (x, rest ++ [e]) → rest ≠ [] →
        Parse.members b (fields.map (FieldDecl.shiftLines k)) (methods.map (MethodDecl.shiftLines k))
            (ts.map (Token.shiftLines k) ++ W) =
          .ok ((x.1.map (FieldDecl.shiftLines k), x.2.map (MethodDecl.shiftLines k)),
            rest.map (Token.shiftLines k) ++ W)
  | fields, methods, [], x, rest, _, read, unread => by
      rw [Parse.members] at read
      simp only [List.nil_append, check_single he, atEnd_single he, Bool.or_true, if_true,
        Except.ok.injEq, Prod.mk.injEq] at read
      exact absurd (by simpa using read.2.symm) unread
  | fields, methods, t :: ts, x, rest, clean, read, unread => by
      rw [Parse.members] at read ⊢
      simp only [List.cons_append, List.map_cons, check_cons clean.head, check_moved clean.head,
        atEnd_cons clean.head, atEnd_moved clean.head, Bool.or_false, beq_iff_eq] at read ⊢
      by_cases close : t.kind = .rightBrace
      · simp only [close, if_true, Except.ok.injEq, Prod.mk.injEq] at read ⊢
        obtain ⟨rfl, same⟩ := read
        rw [← List.cons_append] at same
        obtain rfl := List.append_cancel_right same
        exact ⟨⟨rfl, rfl⟩, rfl⟩
      simp only [close, if_false] at read ⊢
      by_cases isMethod : t.kind = .keywordFn
      · simp only [isMethod, if_true] at read ⊢
        cases readMethod : Parse.method b (t :: (ts ++ [e])) with
        | error => simp [readMethod] at read
        | ok result =>
            obtain ⟨m, after⟩ := result
            simp only [readMethod] at read
            obtain ⟨mid, rfl, method⟩ := method_sound he b (t :: ts) m after clean readMethod
            have shorter : mid.length < (t :: ts).length := by
              obtain ⟨_, _, split, _, read⟩ := method.starts
              cases split
              exact Nat.lt_succ_of_le read.length_le
            obtain ⟨streamShorter, movedShorter⟩ := streams_shorter (e := e) (k := k) (W := W) shorter
            simp only [streamShorter, dif_pos] at read
            have leftover : rest <:+ mid := Sound.suffix (members_sound he b _ _) Members.suffix
              (clean.of_suffix method.suffix) read
            have moved := method_carries (k := k) (W := W) he b (t :: ts) m mid clean readMethod
              (ne_nil_of_suffix leftover unread)
            simp only [List.map_cons, List.cons_append] at moved
            simp only [moved, movedShorter, dif_pos]
            rw [show methods.map (MethodDecl.shiftLines k) ++ [m.shiftLines k] =
              (methods ++ [m]).map (MethodDecl.shiftLines k) by simp]
            exact members_carries b _ _ mid x rest (clean.of_suffix method.suffix) read unread
      · simp only [isMethod, if_false] at read ⊢
        cases readField : Parse.field b (t :: (ts ++ [e])) with
        | error => simp [readField] at read
        | ok result =>
            obtain ⟨f, after⟩ := result
            simp only [readField] at read
            obtain ⟨mid, rfl, field⟩ := field_sound he b (t :: ts) f after clean readField
            have shorter : mid.length < (t :: ts).length := by
              obtain ⟨_, _, split, _, read⟩ := field.starts
              cases split
              exact Nat.lt_succ_of_le read.length_le
            obtain ⟨streamShorter, movedShorter⟩ := streams_shorter (e := e) (k := k) (W := W) shorter
            simp only [streamShorter, dif_pos] at read
            have leftover : rest <:+ mid := Sound.suffix (members_sound he b _ _) Members.suffix
              (clean.of_suffix field.suffix) read
            have moved := field_carries (k := k) (W := W) he b (t :: ts) f mid clean readField
              (ne_nil_of_suffix leftover unread)
            simp only [List.map_cons, List.cons_append] at moved
            simp only [moved, movedShorter, dif_pos]
            rw [show fields.map (FieldDecl.shiftLines k) ++ [f.shiftLines k] =
              (fields ++ [f]).map (FieldDecl.shiftLines k) by simp]
            exact members_carries b _ _ mid x rest (clean.of_suffix field.suffix) read unread
termination_by _ _ ts => ts.length
decreasing_by all_goals exact shorter

/--
A component carries over even when it is the last thing before the end: it
ends by taking its closing brace, and looks at nothing after it.
-/
theorem component_carries : ∀ b start ts d rest, Clean ts →
    Parse.component b start (ts ++ [e]) = .ok (d, rest ++ [e]) →
      Parse.component b (start.shiftLines k) (ts.map (Token.shiftLines k) ++ W) =
        .ok (d.shiftLines k, rest.map (Token.shiftLines k) ++ W)
  | 0, _, _, _, _, _, read => by
      rw [Parse.component.eq_1] at read
      cases read
  | b + 1, start, ts, d, rest, clean, read => by
      rw [Parse.component] at read ⊢
      obtain ⟨⟨componentName, afterName⟩, readName, read⟩ := bind_eq_ok.1 read
      obtain ⟨ts, rfl, isName, rfl⟩ := name_reads he clean readName
      obtain ⟨⟨_, afterOpening⟩, readOpening, read⟩ := bind_eq_ok.1 read
      obtain ⟨opening, ts, rfl, isOpening, rfl⟩ := expect_ok he clean.tail readOpening
      obtain ⟨⟨⟨fields, methods⟩, afterMembers⟩, readMembers, read⟩ := bind_eq_ok.1 read
      obtain ⟨mid, rfl, members⟩ :=
        members_sound he b [] [] ts _ afterMembers clean.tail.tail readMembers
      obtain ⟨⟨_, afterClose⟩, readClose, done⟩ := bind_eq_ok.1 read
      obtain ⟨close, rest', rfl, isClose, rfl⟩ :=
        expect_ok he (clean.tail.tail.of_suffix members.suffix) readClose
      simp only [pure, Except.pure, Except.ok.injEq, Prod.mk.injEq] at done
      obtain ⟨rfl, same⟩ := done
      obtain rfl := List.append_cancel_right same
      have moved := members_carries (k := k) (W := W) he b [] [] ts _ (close :: rest')
        clean.tail.tail readMembers (List.cons_ne_nil _ _)
      simp only [List.map_nil] at moved
      simp only [List.map_cons, List.cons_append, name_moved isName,
        expect_moved isOpening (by simp), ok_bind]
      rw [moved, ok_bind]
      dsimp only
      rw [List.map_cons, List.cons_append, expect_moved isClose (by simp), ok_bind]
      simp [Declaration.shiftLines, pure, Except.pure]

omit he in
/-- The declarations found before are kept in front of those read after. -/
theorem declarations_found (b : Nat) : ∀ (found : List Declaration) ts,
    Parse.declarations b found ts = (found ++ ·) <$> Parse.declarations b [] ts
  | found, ts => by
      conv_lhs => rw [Parse.declarations]
      conv_rhs => rw [Parse.declarations]
      by_cases ending : atEnd ts = true
      · simp [ending, Functor.map, Except.map]
      simp only [ending, Bool.false_eq_true, if_false]
      by_cases keyword : check .keywordComponent ts = true
      · simp only [keyword, if_true]
        cases readComponent : Parse.component b (peek ts) (advance ts) with
        | error => rfl
        | ok result =>
            obtain ⟨d, rest⟩ := result
            dsimp only
            by_cases shorter : rest.length < ts.length
            · simp only [shorter, dif_pos]
              rw [declarations_found b (found ++ [d]) rest, List.nil_append,
                declarations_found b [d] rest]
              cases Parse.declarations b [] rest <;> simp [Functor.map, Except.map]
            · simp [shorter, Functor.map, Except.map]
      · simp only [keyword, Bool.false_eq_true, if_false]
        by_cases shorter : (advance ts).length < ts.length
        · simp only [shorter, dif_pos]
          exact declarations_found b found (advance ts)
        · simp [shorter, Functor.map, Except.map]
termination_by _ ts => ts.length
decreasing_by all_goals assumption

/--
The declarations of a clean list, read again after it is moved down and
followed by any tokens: the same declarations moved down, and the reading goes
on after them. The component found first is read, then the declarations after
it.
-/
theorem declarations_carries (b : Nat) : ∀ ts ds, Clean ts →
    Parse.declarations b [] (ts ++ [e]) = .ok ds → ∀ found,
      Parse.declarations b found (ts.map (Token.shiftLines k) ++ W) =
        Parse.declarations b (found ++ ds.map (Declaration.shiftLines k)) W
  | [], ds, _, read, found => by
      rw [Parse.declarations] at read
      simp only [List.nil_append, atEnd_single he, if_true, Except.ok.injEq] at read
      subst read
      simp
  | t :: ts, ds, clean, read, found => by
      rw [Parse.declarations] at read ⊢
      simp only [List.cons_append, List.map_cons, atEnd_cons clean.head, atEnd_moved clean.head,
        Bool.false_eq_true, if_false, check_cons clean.head, check_moved clean.head, beq_iff_eq,
        peek_cons, advance_cons clean.head, advance_moved clean.head] at read ⊢
      by_cases keyword : t.kind = .keywordComponent
      · simp only [keyword, if_true] at read ⊢
        cases readComponent : Parse.component b t (ts ++ [e]) with
        | error => simp [readComponent] at read
        | ok result =>
            obtain ⟨d, after⟩ := result
            simp only [readComponent] at read
            obtain ⟨mid, rfl, component⟩ :=
              component_sound he b t ts d after clean.tail readComponent
            have shorter : mid.length < (t :: ts).length := Nat.lt_succ_of_le component.suffix.length_le
            obtain ⟨streamShorter, movedShorter⟩ := streams_shorter (e := e) (k := k) (W := W) shorter
            simp only [streamShorter, dif_pos] at read
            rw [declarations_found] at read
            cases readMore : Parse.declarations b [] (mid ++ [e]) with
            | error => simp [readMore, Functor.map, Except.map] at read
            | ok more =>
                simp only [readMore, Functor.map, Except.map, Except.ok.injEq] at read
                subst read
                rw [component_carries he b t ts d mid clean.tail readComponent]
                simp only [movedShorter, dif_pos]
                rw [declarations_carries b mid more (clean.tail.of_suffix component.suffix) readMore]
                simp
      · have streamShorter : (ts ++ [e]).length < (t :: (ts ++ [e])).length := by simp
        have movedShorter : (ts.map (Token.shiftLines k) ++ W).length <
            (t.shiftLines k :: (ts.map (Token.shiftLines k) ++ W)).length := by simp
        simp only [keyword, if_false, streamShorter, movedShorter, dif_pos] at read ⊢
        exact declarations_carries b ts ds clean.tail read found
termination_by ts => ts.length
decreasing_by all_goals first | exact shorter | simp

end Declarations

theorem stream_of_clean {zs : List Token} (clean : Clean zs) (he : e.kind = .endOfInput) :
    stream (zs ++ [e]) = zs ++ [e] := by
  have found : (zs ++ [e]).findIdx? (·.kind == .endOfInput) = some zs.length := by
    rw [List.findIdx?_append, List.findIdx?_eq_none_iff.2 fun t member => by simpa using clean t member]
    simp [he]
  unfold stream
  rw [found]
  simp

end Grammar

open Grammar

/-- The tokens of a scan: a clean list, then the end of input. -/
theorem Token.scan_ends (s : String) :
    ∃ zs e, (Token.scan s).1 = zs ++ [e] ∧ Clean zs ∧ e.kind = .endOfInput := by
  obtain ⟨pieces, -, scanned, clean⟩ := Token.scan_cut s
  exact ⟨_, _, by rw [scanned], clean, rfl⟩

theorem Declaration.ofSource_lenient (source : String) :
    Declaration.ofSource false source = (Declaration.ofTokens (Token.scan source).1).mapError .parse :=
  rfl

/--
Two texts that each read as declarations, joined by a line feed, read as the
declarations of the first followed by those of the second, moved down by the
lines of the first and the line feed. The joined tokens are those of the first
text, then those of the second moved down.
-/
theorem Declaration.ofSource_append_feed {first second : String} {ds₁ ds₂ : List Declaration}
    (readFirst : Declaration.ofSource false first = .ok ds₁)
    (readSecond : Declaration.ofSource false second = .ok ds₂) :
    Declaration.ofSource false (first ++ "\n" ++ second) =
      .ok (ds₁ ++ ds₂.map (Declaration.shiftLines (1 + first.toList.count '\n'))) := by
  obtain ⟨zs₁, e₁, scanned₁, clean₁, end₁⟩ := Token.scan_ends first
  obtain ⟨zs₂, e₂, scanned₂, clean₂, end₂⟩ := Token.scan_ends second
  have tokens : ∀ {source ds}, Declaration.ofSource false source = .ok ds →
      Declaration.ofTokens (Token.scan source).1 = .ok ds := by
    intro source ds read
    rw [Declaration.ofSource_lenient] at read
    cases found : Declaration.ofTokens (Token.scan source).1 <;>
      simp_all [Except.mapError]
  have tokens₁ := tokens readFirst
  have tokens₂ := tokens readSecond
  unfold Declaration.ofTokens at tokens₁ tokens₂
  rw [scanned₁, stream_of_clean clean₁ end₁] at tokens₁
  rw [scanned₂, stream_of_clean clean₂ end₂] at tokens₂
  rw [Declaration.ofSource_lenient, Token.scan_append_feed, scanned₁, scanned₂]
  have joinedClean : Clean (zs₁ ++ zs₂.map (Token.shiftLines (1 + first.toList.count '\n'))) := by
    intro t member
    rcases List.mem_append.1 member with inFirst | inSecond
    · exact clean₁ t inFirst
    · obtain ⟨u, inZs, rfl⟩ := List.mem_map.1 inSecond
      exact clean₂ u inZs
  have joinedEnd : (e₂.shiftLines (1 + first.toList.count '\n')).kind = .endOfInput := end₂
  simp only [List.dropLast_concat, List.map_append, List.map_cons, List.map_nil]
  unfold Declaration.ofTokens
  rw [← List.append_assoc, stream_of_clean joinedClean joinedEnd, List.append_assoc]
  have readsFirst := declarations_carries (k := 0)
    (W := zs₂.map (Token.shiftLines (1 + first.toList.count '\n')) ++
      [e₂.shiftLines (1 + first.toList.count '\n')]) end₁ _ zs₁ ds₁ clean₁ tokens₁ []
  rw [Token.shiftLines_zero, List.map_id, Declaration.shiftLines_zero, List.map_id,
    List.nil_append] at readsFirst
  rw [readsFirst, declarations_carries end₂ _ zs₂ ds₂ clean₂ tokens₂ ds₁, Parse.declarations]
  simp [atEnd_single joinedEnd, Except.mapError]

end GameScript

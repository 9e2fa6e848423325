import GameScript.Proofs.Scanning

/-!
# Scanning two texts joined by a line feed

No lexeme reaches across a line feed: a `//` comment and a string (closed,
left open, or ending in a backslash) stop before it, a number or a word ends
at it, and no two-character operator has it second.  So scanning
`first ++ "\n" ++ second` reads the lexemes of `first`, the line feed as a
blank, and the lexemes of `second`, each where it stands in its own text
moved down by the lines of `first` and the line feed (`Token.scan_append_feed`).

`Lexeme.read_append_feed` is the lexeme-level fact; `Token.scanFrom_append_feed`
lifts it to the scan by recursion on the text, as `scanFrom` recurses, and
`Token.scanFrom_shiftLines` says that scanning from a position further down
moves every token and error down alike.
-/

namespace GameScript

namespace Position

/-- The same column, `k` lines further down. -/
def shiftLines (k : Nat) (p : Position) : Position :=
  ⟨p.line + k, p.column⟩

theorem step_shiftLines (k : Nat) (p : Position) (c : Char) :
    (p.shiftLines k).step c = (p.step c).shiftLines k := by
  unfold step shiftLines
  split
  · simp only [Position.mk.injEq, and_true]
    omega
  · rfl

theorem walk_shiftLines (k : Nat) (cs : List Char) :
    ∀ p : Position, (p.shiftLines k).walk cs = (p.walk cs).shiftLines k := by
  induction cs with
  | nil => intro p; rfl
  | cons c rest more =>
    intro p
    rw [walk_cons, walk_cons, step_shiftLines, more]

end Position

/-- A token `k` lines further down. -/
def Token.shiftLines (k : Nat) (t : Token) : Token :=
  { t with position := t.position.shiftLines k }

/-- A scan error `k` lines further down. -/
def ScanError.shiftLines (k : Nat) (e : ScanError) : ScanError :=
  { e with position := e.position.shiftLines k }

namespace Lexeme

/-! ## Lexemes stop at a line feed -/

variable {p : Char → Bool} {ys : List Char}

theorem takeWhile_append_feed (stops : p '\n' = false) (xs : List Char) :
    (xs ++ '\n' :: ys).takeWhile p = xs.takeWhile p := by
  induction xs with
  | nil => simp [stops]
  | cons x rest more =>
    by_cases keep : p x = true
    · simp [keep, more]
    · simp [keep]

theorem dropWhile_append_feed (stops : p '\n' = false) (xs : List Char) :
    (xs ++ '\n' :: ys).dropWhile p = xs.dropWhile p ++ '\n' :: ys := by
  induction xs with
  | nil => simp [stops]
  | cons x rest more =>
    by_cases keep : p x = true
    · simp [keep, more]
    · simp [keep]

theorem fractionTail_append_feed (xs : List Char) :
    fractionTail (xs ++ '\n' :: ys) = ((fractionTail xs).1, (fractionTail xs).2 ++ '\n' :: ys) := by
  rcases xs with _ | ⟨c, _ | ⟨d, rest⟩⟩
  · rfl
  · by_cases point : c = '.'
    · subst point
      rfl
    · simp [fractionTail, point]
  · by_cases point : c = '.'
    · subst point
      simp only [List.cons_append, fractionTail]
      split
      · simp [takeWhile_append_feed (p := Char.isDigit) (by decide),
          dropWhile_append_feed (p := Char.isDigit) (by decide)]
      · rfl
    · simp [fractionTail, point]

theorem numberTail_append_feed (more : List Char) :
    numberTail (more ++ '\n' :: ys) = ((numberTail more).1, (numberTail more).2 ++ '\n' :: ys) := by
  simp only [numberTail, takeWhile_append_feed (p := Char.isDigit) (by decide),
    dropWhile_append_feed (p := Char.isDigit) (by decide), fractionTail_append_feed]

/--
A string body read before a line feed reads as it does alone and leaves the
line feed; a backslash last before it escapes nothing and stays.
-/
theorem stringBody_append_feed (cs : List Char) :
    stringBody (cs ++ '\n' :: ys) = ((stringBody cs).1, (stringBody cs).2.1, (stringBody cs).2.2 ++ '\n' :: ys) := by
  fun_induction stringBody cs with
  | case1 => simp [stringBody]
  | case2 e after escaping body more => 
    rw [List.cons_append, List.cons_append, stringBody, if_pos escaping, more]
  | case3 e after notEscaping body more =>
    rw [List.cons_append, List.cons_append, stringBody, if_neg (by simpa using notEscaping), ← List.cons_append, more]
  | case4 c rest notPair stops =>
    have notBackslash : c ≠ '\\' := by
      rintro rfl
      simp at stops
    rw [List.cons_append, stringBody.eq_3 _ _ fun _ _ backslash => absurd backslash notBackslash,
      if_pos stops]
  | case5 c rest notPair goesOn body more =>
    by_cases backslash : c = '\\'
    · subst backslash
      cases rest with
      | nil =>
        rw [List.singleton_append, stringBody.eq_2, if_neg (by decide), ← List.nil_append ('\n' :: ys),
          more]
        rfl
      | cons e after => exact (notPair e after rfl rfl).elim
    · rw [List.cons_append, stringBody.eq_3 _ _ fun _ _ same => absurd same backslash, if_neg goesOn, more]

/-- No two-character operator ends with a line feed. -/
theorem pairOperator?_append_feed (c : Char) (more : List Char) :
    pairOperator? c (more ++ '\n' :: ys) = pairOperator? c more := by
  cases more with
  | nil => simp [pairOperator?, TokenKind.pairs]
  | cons d rest => rfl

theorem startsComment_append_feed (c : Char) (more : List Char) :
    (c == '/' && (more ++ '\n' :: ys).head? == some '/') = (c == '/' && more.head? == some '/') := by
  cases more <;> simp

/--
The lexeme at the head of a text is the same when a line feed and more text
follow. A string ends where it ends alone, or at the line feed when it runs to
the end.
-/
theorem read_append_feed (c : Char) (more : List Char) :
    read c (more ++ '\n' :: ys) =
      ((read c more).1, (read c more).2.1, (read c more).2.2 ++ '\n' :: ys) := by
  unfold read
  simp only [startsComment_append_feed, pairOperator?_append_feed,
    takeWhile_append_feed (p := (· != '\n')) (by decide),
    dropWhile_append_feed (p := (· != '\n')) (by decide), numberTail_append_feed,
    takeWhile_append_feed (p := continuesWord) (by decide +kernel),
    dropWhile_append_feed (p := continuesWord) (by decide +kernel), stringBody_append_feed]
  split
  · rfl
  split
  · rfl
  split
  · rfl
  split
  · rfl
  split
  · generalize stringBody more = read
    obtain ⟨value, body, rest⟩ := read
    cases rest with
    | nil => rfl
    | cons x after =>
      by_cases quote : x = '"'
      · subst quote
        rfl
      · split
        · rename_i same
          simp only [List.cons_append, Prod.mk.injEq, List.cons.injEq] at same
          exact absurd same.2.2.1 quote
        · split
          · rename_i same
            simp only [Prod.mk.injEq, List.cons.injEq] at same
            exact absurd same.2.2.1 quote
          · next _ _ _ _ _ joined _ _ _ _ _ alone =>
            simp only [Prod.mk.injEq] at joined alone
            obtain ⟨rfl, rfl, rfl⟩ := joined
            obtain ⟨rfl, rfl, rfl⟩ := alone
            rfl
  split
  · rename_i kind found
    obtain ⟨d, rest, rfl, -⟩ := pairOperator?_some found
    rfl
  · split <;> rfl

end Lexeme

namespace Token

/-! ## Scans of joined texts -/

/-- A scan ends with its end-of-input token, so it has at least one token. -/
theorem scanFrom_ne_nil (p : Position) (xs : List Char) : (scanFrom p xs).1 ≠ [] := by
  match xs with
  | [] => simp [scanFrom]
  | c :: more =>
    have shorter := Lexeme.read_rest_length c more
    have rest := scanFrom_ne_nil ((p.step c).walk (Lexeme.read c more).2.1) (Lexeme.read c more).2.2
    rw [scanFrom]
    generalize scanFrom _ _ = scanned at rest
    generalize (Lexeme.read c more).1 = piece
    cases piece <;> simp [rest]
termination_by xs.length
decreasing_by simp only [List.length_cons]; omega

/--
Scanning past a line feed: the first part without its end token, then the
second from the next line. The line feed is a blank.
-/
theorem scanFrom_append_feed (p : Position) (xs ys : List Char) :
    scanFrom p (xs ++ '\n' :: ys) =
      ((scanFrom p xs).1.dropLast ++ (scanFrom ((p.walk xs).step '\n') ys).1,
        (scanFrom p xs).2 ++ (scanFrom ((p.walk xs).step '\n') ys).2) := by
  match xs with
  | [] =>
    rw [List.nil_append, scanFrom]
    simp [Lexeme.read, Lexeme.isBlank, scanFrom]
  | c :: more =>
    have shorter := Lexeme.read_rest_length c more
    have whole := Lexeme.read_span_append c more
    have after := scanFrom_append_feed ((p.step c).walk (Lexeme.read c more).2.1)
      (Lexeme.read c more).2.2 ys
    have ends : ((p.step c).walk (Lexeme.read c more).2.1).walk (Lexeme.read c more).2.2 =
        p.walk (c :: more) := by
      rw [← Position.walk_append, whole]
      rfl
    have nonempty := scanFrom_ne_nil ((p.step c).walk (Lexeme.read c more).2.1) (Lexeme.read c more).2.2
    rw [List.cons_append, scanFrom, scanFrom, Lexeme.read_append_feed]
    simp only [after, ends]
    generalize scanFrom _ (Lexeme.read c more).2.2 = scanned at nonempty ⊢
    generalize (Lexeme.read c more).1 = piece
    cases piece with
    | string value closed => cases closed <;> simp [List.dropLast_cons_of_ne_nil nonempty]
    | _ => simp [List.dropLast_cons_of_ne_nil nonempty]
termination_by xs.length
decreasing_by simp only [List.length_cons]; omega

/-- Scanning from a position further down finds the same tokens and errors, further down. -/
theorem scanFrom_shiftLines (k : Nat) (p : Position) (xs : List Char) :
    scanFrom (p.shiftLines k) xs =
      ((scanFrom p xs).1.map (Token.shiftLines k), (scanFrom p xs).2.map (ScanError.shiftLines k)) := by
  match xs with
  | [] =>
    rw [scanFrom, scanFrom]
    rfl
  | c :: more =>
    have shorter := Lexeme.read_rest_length c more
    have after := scanFrom_shiftLines k ((p.step c).walk (Lexeme.read c more).2.1) (Lexeme.read c more).2.2
    rw [scanFrom, scanFrom, Position.step_shiftLines, Position.walk_shiftLines, after]
    generalize scanFrom _ (Lexeme.read c more).2.2 = scanned
    generalize (Lexeme.read c more).1 = piece
    cases piece with
    | string value closed => cases closed <;> rfl
    | _ => rfl
termination_by xs.length
decreasing_by simp only [List.length_cons]; omega

/--
Two texts joined by a line feed scan as the first without its end-of-input
token, then the second moved down by the lines of the first and the line
feed; the scan errors are those of the first, then those of the second moved
down the same way.  No lexeme of the first text reaches past the line feed: a
comment, a string (closed or not, escapes included), a number and a word all
stop at it, and no operator ends with it.
-/
theorem scan_append_feed (first second : String) :
    scan (first ++ "\n" ++ second) =
      ((scan first).1.dropLast ++
          (scan second).1.map (Token.shiftLines (1 + first.toList.count '\n')),
        (scan first).2 ++ (scan second).2.map (ScanError.shiftLines (1 + first.toList.count '\n'))) := by
  have joined : (first ++ "\n" ++ second).toList = first.toList ++ '\n' :: second.toList := by
    simp
  have start : (({} : Position).walk first.toList).step '\n' =
      ({} : Position).shiftLines (1 + first.toList.count '\n') := by
    rw [Position.walk_start]
    simp only [Position.after, Position.step, Position.shiftLines, beq_self_eq_true, if_true,
      Position.mk.injEq, and_true]
    omega
  rw [scan, joined, scanFrom_append_feed, start, scanFrom_shiftLines]
  rfl

end Token

end GameScript

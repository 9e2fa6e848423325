import Mathlib
import GameScript.Builtin.Table

/-!
# Registering built-in functions

A table of built-in functions is built by registrations and a seal.  Each
registration runs its checks in order (open table, shape of the name,
reserved word, name taken, category text) and changes the table only when
all pass, by listing the name last.  So every table a sequence of steps
builds lists each name once, the lists of two categories share no name, and
together they hold the registered names (`registration_follows_its_checks`).

The shape check is a pattern anchored at both ends, and its end anchor also
matches before a final line feed: it accepts an ASCII word, and an ASCII
word followed by one line feed (`isIdentifier_iff`).
-/

namespace GameScript.Builtin

theorem not_isDigit_of_isAlpha {c : Char} (alpha : c.isAlpha = true) : c.isDigit = false := by
  simp only [Char.isAlpha, Char.isUpper, Char.isLower, Char.isDigit, Bool.or_eq_true,
    Bool.and_eq_true, decide_eq_true_eq] at alpha ⊢
  have upper : 'A'.val.toNat = 65 := rfl
  have lower : 'a'.val.toNat = 97 := rfl
  have zUpper : 'Z'.val.toNat = 90 := rfl
  have zLower : 'z'.val.toNat = 122 := rfl
  have zero : '0'.val.toNat = 48 := rfl
  have nine : '9'.val.toNat = 57 := rfl
  simp only [ge_iff_le, UInt32.le_iff_toNat_le, upper, lower, zUpper, zLower, zero, nine] at alpha ⊢
  simp only [Bool.and_eq_false_iff, decide_eq_false_iff_not, Nat.not_le]
  omega


/-- A name of ASCII letters, digits and underscores, not empty and not starting with a digit. -/
def AsciiWord (cs : List Char) : Prop :=
  cs ≠ [] ∧ (∀ c ∈ cs, c.isAlphanum = true ∨ c = '_') ∧ ∀ c ∈ cs.head?, c.isDigit = false

theorem startsName_iff (c : Char) :
    startsName c = true ↔ (c.isAlphanum = true ∨ c = '_') ∧ c.isDigit = false := by
  unfold startsName Char.isAlphanum
  by_cases alpha : c.isAlpha = true
  · simp [alpha, not_isDigit_of_isAlpha alpha]
  · by_cases underscore : c = '_'
    · subst underscore
      decide
    · simp [alpha, underscore]

theorem continuesName_iff (c : Char) : continuesName c = true ↔ c.isAlphanum = true ∨ c = '_' := by
  simp [continuesName]

theorem not_asciiWord_nil : ¬ AsciiWord [] := fun word => word.1 rfl

theorem asciiWord_cons (c : Char) (rest : List Char) :
    AsciiWord (c :: rest) ↔ (startsName c && rest.all continuesName) = true := by
  simp only [AsciiWord, startsName_iff, continuesName_iff, Bool.and_eq_true, List.all_eq_true,
    List.mem_cons, List.head?_cons, Option.mem_def, Option.some.injEq, forall_eq_or_imp,
    forall_eq', ne_eq, reduceCtorEq, not_false_eq_true, true_and]
  tauto

/-- A line feed is no part of an ASCII word. -/
theorem not_asciiWord_of_mem_newline {cs : List Char} (member : '\n' ∈ cs) : ¬ AsciiWord cs :=
  fun word => by simpa using word.2.1 _ member

/--
What the name check accepts: an ASCII word, or an ASCII word followed by one
line feed, since the pattern's end anchor also matches before a final line
feed.
-/
theorem isIdentifier_iff (name : String) :
    isIdentifier name = true ↔
      AsciiWord name.toList ∨ ∃ body, AsciiWord body ∧ name.toList = body ++ ['\n'] := by
  unfold isIdentifier
  generalize name.toList = cs
  by_cases last : cs.getLast? = some '\n'
  · have whole : cs = cs.dropLast ++ ['\n'] := by
      rw [← List.dropLast_append_getLast? '\n' last]
      simp
    simp only [last, beq_self_eq_true, if_true]
    trans AsciiWord cs.dropLast
    · cases cs.dropLast with
      | nil => exact iff_of_false (by simp) not_asciiWord_nil
      | cons c rest => exact (asciiWord_cons c rest).symm
    · constructor
      · exact fun word => Or.inr ⟨_, word, whole⟩
      · rintro (word | ⟨body, word, rfl⟩)
        · exact absurd word (not_asciiWord_of_mem_newline (whole ▸ by simp))
        · simpa using word
  · simp only [show (cs.getLast? == some '\n') = false by simpa using last, Bool.false_eq_true,
      if_false]
    trans AsciiWord cs
    · cases cs with
      | nil => exact iff_of_false (by simp) not_asciiWord_nil
      | cons c rest => exact (asciiWord_cons c rest).symm
    · constructor
      · exact Or.inl
      · rintro (word | ⟨body, -, rfl⟩)
        · exact word
        · simp at last


namespace Category

theorem ofTag?_tag (c : Category) : ofTag? c.tag = some c := by
  cases c <;> rfl

theorem tag_injective : Function.Injective tag := fun a b same =>
  Option.some.inj ((ofTag?_tag a).symm.trans (same ▸ ofTag?_tag b))

theorem ofTag?_eq_some {s : String} {c : Category} : ofTag? s = some c ↔ c.tag = s := by
  constructor
  · intro found
    simpa using List.find?_some found
  · rintro rfl
    exact ofTag?_tag c

end Category

namespace Table

variable {t t' : Table} {name category : String}

/--
A registration goes ahead exactly when the table is open, the name has the
shape of an identifier, is not reserved and not taken, and the text names a
category; it adds the name last. Once every check passes, the category text
decides.
-/
theorem register_eq_ok {c : Category} :
    t.register name category = .ok (c, t') ↔
      t.sealed = false ∧ isIdentifier name = true ∧ name ∉ reservedWords ∧ t.contains name = false ∧
        c.tag = category ∧ t' = { t with entries := t.entries ++ [(name, c)] } := by
  unfold register
  split_ifs with sealed misshaped reserved taken
  · simp [sealed]
  · simp_all
  · simp_all
  · simp [taken]
  · simp only [Bool.not_eq_true] at sealed taken
    have shaped : isIdentifier name = true := by simpa using misshaped
    have free : name ∉ reservedWords := by simpa using reserved
    cases named : Category.ofTag? category with
    | none =>
      simp only [reduceCtorEq, false_iff]
      rintro ⟨-, -, -, -, rfl, -⟩
      simp [Category.ofTag?_eq_some.2 rfl] at named
    | some found =>
      rw [Category.ofTag?_eq_some] at named
      simp only [Except.ok.injEq, Prod.mk.injEq]
      constructor
      · rintro ⟨rfl, rfl⟩
        exact ⟨sealed, shaped, free, taken, named, rfl⟩
      · rintro ⟨-, -, -, -, tagged, rfl⟩
        obtain rfl : found = c := Category.tag_injective (named.trans tagged.symm)
        exact ⟨rfl, rfl⟩

/-- The names of one category, after a name joined another or the same. -/
theorem byCategory_append (c c' : Category) :
    ({ t with entries := t.entries ++ [(name, c)] } : Table).byCategory c' =
      t.byCategory c' ++ (if c' = c then [name] else []) := by
  unfold byCategory
  by_cases same : c' = c
  · subst same
    simp
  · simp [same, Ne.symm same]

/-- Every name is registered once. -/
def WellFormed (t : Table) : Prop := (t.entries.map (·.1)).Nodup

theorem contains_iff {n : String} : t.contains n = true ↔ n ∈ t.entries.map (·.1) := by
  simp only [contains, List.any_eq_true, beq_iff_eq, List.mem_map]

theorem step_wellFormed (formed : t.WellFormed) (s : Step) : (t.step s).WellFormed := by
  cases s with
  | freeze => exact formed
  | register name category =>
    simp only [step]
    split
    · rename_i c t' registered
      obtain ⟨-, -, -, free, -, rfl⟩ := register_eq_ok.1 registered
      have fresh : name ∉ t.entries.map (·.1) := fun member => by
        simp [contains_iff.2 member] at free
      rw [WellFormed, List.map_append, List.nodup_append]
      refine ⟨formed, by simp, ?_⟩
      rintro x held y added same
      simp only [List.map_cons, List.map_nil, List.mem_singleton] at added
      exact fresh (added ▸ same ▸ held)
    · exact formed

/--
The table built from steps is well formed: the fold from any well-formed table
stays well formed, step by step.
-/
theorem build_wellFormed (steps : List Step) : (build steps).WellFormed := by
  suffices ∀ t : Table, t.WellFormed → (steps.foldl step t).WellFormed from this {} List.nodup_nil
  induction steps with
  | nil => exact fun _ formed => formed
  | cons s rest more => exact fun t formed => more _ (step_wellFormed formed s)

theorem mem_byCategory {n : String} {c : Category} : n ∈ t.byCategory c ↔ (n, c) ∈ t.entries := by
  simp [byCategory]

/-- In a well-formed table the categories list disjoint names. -/
theorem byCategory_disjoint (formed : t.WellFormed) {c c' : Category} (different : c ≠ c') :
    (t.byCategory c).Disjoint (t.byCategory c') := by
  intro n first second
  rw [mem_byCategory] at first second
  have same := (List.nodup_map_iff_inj_on formed.of_map).1 formed _ first _ second rfl
  exact different (Prod.mk.inj same).2

/-- The registered names are the names listed under some category. -/
theorem contains_iff_byCategory {n : String} : t.contains n = true ↔ ∃ c, n ∈ t.byCategory c := by
  simp only [contains_iff, mem_byCategory, List.mem_map]
  constructor
  · rintro ⟨⟨n', c⟩, member, rfl⟩
    exact ⟨c, member⟩
  · rintro ⟨c, member⟩
    exact ⟨(n, c), member, rfl⟩

/--
A table built step by step follows its checks after every step.  A
registration goes ahead exactly when the table is open, the name is an ASCII
word (or an ASCII word and one line feed, which the check lets through), it
is not reserved and not taken, and the text names a category; it then lists
the name last under that category and leaves the other lists.  A refused
registration leaves the table as it was, and sealing leaves the lists.  The
lists of two categories share no name, and together they hold exactly the
registered names.
-/
theorem registration_follows_its_checks (steps : List Step) (name category : String) :
    let t := build steps
    ((∃ c t', t.register name category = .ok (c, t')) ↔
      t.sealed = false ∧
        (AsciiWord name.toList ∨ ∃ body, AsciiWord body ∧ name.toList = body ++ ['\n']) ∧
        name ∉ reservedWords ∧ t.contains name = false ∧ ∃ c : Category, c.tag = category) ∧
    (∀ c t', t.register name category = .ok (c, t') →
      c.tag = category ∧ t'.sealed = t.sealed ∧
        ∀ c', t'.byCategory c' = t.byCategory c' ++ (if c' = c then [name] else [])) ∧
    (∀ e, t.register name category = .error e → t.step (.register name category) = t) ∧
    (t.step .freeze).sealed = true ∧ (∀ c, (t.step .freeze).byCategory c = t.byCategory c) ∧
    (∀ c c', c ≠ c' → (t.byCategory c).Disjoint (t.byCategory c')) ∧
    (∀ n, t.contains n = true ↔ ∃ c, n ∈ t.byCategory c) := by
  intro t
  refine ⟨⟨?_, ?_⟩, ?_, ?_, rfl, fun _ => rfl,
    fun _ _ => byCategory_disjoint (build_wellFormed steps), fun _ => contains_iff_byCategory⟩
  · rintro ⟨c, t', registered⟩
    obtain ⟨sealed, shaped, free, fresh, tagged, -⟩ := register_eq_ok.1 registered
    exact ⟨sealed, (isIdentifier_iff name).1 shaped, free, fresh, c, tagged⟩
  · rintro ⟨sealed, shaped, free, fresh, c, tagged⟩
    exact ⟨c, _, register_eq_ok.2 ⟨sealed, (isIdentifier_iff name).2 shaped, free, fresh, tagged, rfl⟩⟩
  · intro c t' registered
    obtain ⟨-, -, -, -, tagged, rfl⟩ := register_eq_ok.1 registered
    exact ⟨tagged, rfl, fun c' => byCategory_append c c'⟩
  · intro e refused
    simp [step, refused]

end Table

end GameScript.Builtin

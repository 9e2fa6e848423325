import GameScript.Value.Operator

/-!
# What the operators answer

Integers and doubles are kept apart by the operators.  `+`, `-` and `*` on
two integers give their exact integer, of any size, and no other operator or
operand gives an integer (`integer_operands_stay_exact`); a comparison
always gives a boolean, and `-` and `+` in front of an integer negate it or
leave it.

The operators answer every pair of values except where host arithmetic
fails, and there the fault says why (`operators_fail_only_by_host_arithmetic`).
An integer that no double stands for (`Value.isWideInt`) fails as soon as it
must become a double, which is when it meets an operand that is not an
integer (`Value.mixesWide`); a quotient of two integers fails when it rounds
past the largest double; and joining a string fails when one side cannot be
written.  Comparisons never fail, and a symbol that names no operator
answers 0.0.
-/

namespace GameScript

namespace Number

@[simp]
theorem toValue_eq_int {k : Number} {n : Int} : k.toValue = .int n ↔ k = .int n := by
  cases k <;> simp [toValue]

/-- A double made from the doubles of two numbers is a double or a failure, never an integer. -/
theorem doubles_ne_int (a b : Number) (g : Float → Float → Float) (n : Int) :
    (do let x ← a.toFloat; let y ← b.toFloat; return Number.float (g x y)) ≠
      (Except.ok (Number.int n) : Except Fault Number) := by
  cases a.toFloat <;> cases b.toFloat <;> simp [bind, Except.bind, pure, Except.pure]

theorem combine_eq_int {onInt : Int → Int → Int} {onFloat : Float → Float → Float}
    {a b : Number} {n : Int} :
    combine onInt onFloat a b = .ok (.int n) ↔ ∃ x y, a = .int x ∧ b = .int y ∧ n = onInt x y := by
  unfold combine
  split
  · simp [eq_comm]
  · rename_i notBoth
    refine ⟨fun made => absurd made (doubles_ne_int _ _ _ _), ?_⟩
    rintro ⟨x, y, rfl, rfl, -⟩
    exact (notBoth x y rfl rfl).elim

/--
Division never gives an integer: two integers give the rounded quotient, or a
failure past the largest double.
-/
theorem div_ne_int (a b : Number) (n : Int) : div a b ≠ .ok (.int n) := by
  unfold div
  split
  · intro made
    dsimp only at made
    split at made <;> cases made
  · exact doubles_ne_int _ _ _ _


/-- An integer that no double stands for: it rounds past the largest double. -/
def isWide : Number → Bool
  | .int n => (Binary64.ofInt? n).isNone
  | .float _ => false

/-- Whether a number is an integer. -/
def isInt : Number → Bool
  | .int _ => true
  | .float _ => false

@[simp] theorem isWide_float (x : Float) : (Number.float x).isWide = false := rfl
@[simp] theorem isInt_int (n : Int) : (Number.int n).isInt = true := rfl
@[simp] theorem isInt_float (x : Float) : (Number.float x).isInt = false := rfl

/-- Converting a number to a double fails exactly for a wide integer. -/
theorem toFloat_cases (k : Number) :
    k.isWide = true ∧ k.toFloat = .error .intTooLarge ∨ k.isWide = false ∧ ∃ x, k.toFloat = .ok x := by
  cases k with
  | int n =>
    simp only [toFloat, isWide]
    cases Binary64.ofInt? n <;> simp
  | float x => simp [toFloat]

/-- The doubles of two numbers combined fail exactly when one of them is wide. -/
theorem doubles_eq_error (a b : Number) (g : Float → Float → Float) (f : Fault) :
    (do let x ← a.toFloat; let y ← b.toFloat; return Number.float (g x y)) =
      (Except.error f : Except Fault Number) ↔ (a.isWide || b.isWide) ∧ f = .intTooLarge := by
  rcases toFloat_cases a with ⟨wideA, convertA⟩ | ⟨narrowA, x, convertA⟩ <;>
    rcases toFloat_cases b with ⟨wideB, convertB⟩ | ⟨narrowB, y, convertB⟩ <;>
    simp [*, bind, Except.bind, pure, Except.pure, eq_comm]

/-- Unless both numbers are integers, one is wide exactly when a wide one meets a double. -/
theorem isWide_or_eq_mixed {a b : Number} (notBoth : ∀ x y, a = .int x → b = .int y → False) :
    (a.isWide || b.isWide) = (a.isWide && !b.isInt || b.isWide && !a.isInt) := by
  cases a with
  | float x => cases b <;> simp
  | int x =>
    cases b with
    | int y => exact (notBoth x y rfl rfl).elim
    | float y => simp

theorem combine_eq_error {onInt : Int → Int → Int} {onFloat : Float → Float → Float}
    {a b : Number} {f : Fault} :
    combine onInt onFloat a b = .error f ↔
      (a.isWide && !b.isInt || b.isWide && !a.isInt) ∧ f = .intTooLarge := by
  unfold combine
  split
  · simp
  · rename_i notBoth
    rw [doubles_eq_error, isWide_or_eq_mixed notBoth]

/--
Division fails exactly past the largest double: a wide integer against an
operand that is no integer, or two integers whose rounded quotient is
infinite.
-/
theorem div_eq_error {a b : Number} {f : Fault} :
    div a b = .error f ↔
      (a.isWide && !b.isInt || b.isWide && !a.isInt) ∧ f = .intTooLarge ∨
        ∃ x y, a = .int x ∧ b = .int y ∧
          (Binary64.ofRatio ((x < 0) != (y < 0)) x.natAbs y.natAbs).isInf ∧ f = .quotientTooLarge := by
  unfold div
  split
  · dsimp only
    split
    · rename_i infinite
      simpa [infinite] using eq_comm
    · rename_i finite
      simp [finite]
  · rename_i notBoth
    rw [doubles_eq_error, isWide_or_eq_mixed notBoth]
    simp only [iff_self_or]
    rintro ⟨x, y, rfl, rfl, -⟩
    exact (notBoth x y rfl rfl).elim

/-- A quotient that answers is a double. -/
theorem isWide_of_div_eq_ok {a b k : Number} (divided : div a b = .ok k) : k.isWide = false := by
  unfold div at divided
  split at divided
  · dsimp only at divided
    split at divided <;> cases divided
    rfl
  · rcases toFloat_cases a with ⟨-, convertA⟩ | ⟨-, x, convertA⟩ <;>
      rcases toFloat_cases b with ⟨-, convertB⟩ | ⟨-, y, convertB⟩ <;>
      simp [convertA, convertB, bind, Except.bind, pure, Except.pure] at divided
    rw [← divided]
    rfl

end Number

namespace BinOp

theorem ofSymbol?_eq_some {s : String} {op : BinOp} : ofSymbol? s = some op ↔ op.symbol = s := by
  constructor
  · intro found
    simpa using List.find?_some found
  · rintro rfl
    cases op <;> rfl

end BinOp

namespace Value

variable {t : EntityText} {l r : Value} {n : Int}

@[simp]
theorem toNumber_eq_int {v : Value} : v.toNumber = .int n ↔ v = .int n := by
  cases v <;> simp [toNumber]

theorem map_toValue_eq_int {x : Except Fault Number} :
    Number.toValue <$> x = .ok (.int n) ↔ x = .ok (.int n) := by
  cases x <;> simp [Functor.map, Except.map]

/-- Two texts joined are a string or a failure, never an integer. -/
theorem joined_ne_int (x y : Except Fault String) :
    (x >>= fun a => (fun b => Value.str (a ++ b)) <$> y) ≠ (Except.ok (Value.int n) : Except Fault Value) := by
  cases x <;> cases y <;> simp [bind, Except.bind, Functor.map, Except.map]

theorem scaleVec_ne_int (v : Vec2) (k : Number) : scaleVec v k ≠ .ok (.int n) := by
  unfold scaleVec
  cases k.toFloat <;> simp [bind, Except.bind, pure, Except.pure]

/-- The arithmetic of two numbers through their `Number`s gives an integer exactly when both are integers. -/
theorem combine_values_eq_int {onInt : Int → Int → Int} {onFloat : Float → Float → Float} :
    Number.toValue <$> Number.combine onInt onFloat l.toNumber r.toNumber = .ok (.int n) ↔
      ∃ a b, l = .int a ∧ r = .int b ∧ n = onInt a b := by
  simp [map_toValue_eq_int, Number.combine_eq_int]

theorem binary_add_eq_int : binary t .add l r = .ok (.int n) ↔ ∃ a b, l = .int a ∧ r = .int b ∧ n = a + b := by
  simp only [binary]
  split
  · simpa using joined_ne_int _ _
  · simpa using joined_ne_int _ _
  · simp
  · exact combine_values_eq_int

theorem binary_sub_eq_int : binary t .sub l r = .ok (.int n) ↔ ∃ a b, l = .int a ∧ r = .int b ∧ n = a - b := by
  simp only [binary]
  split
  · simp
  · exact combine_values_eq_int

theorem binary_mul_eq_int : binary t .mul l r = .ok (.int n) ↔ ∃ a b, l = .int a ∧ r = .int b ∧ n = a * b := by
  simp only [binary]
  split
  · exact combine_values_eq_int
  · simp [scaleVec_ne_int]
  · simp [scaleVec_ne_int]
  · exact combine_values_eq_int

theorem binary_div_ne_int : binary t .div l r ≠ .ok (.int n) := by
  simp only [binary]
  split
  · split
    · simp
    · cases Number.div (.float 1.0) r.toNumber <;>
        simp [bind, Except.bind, scaleVec_ne_int]
  · split
    · simp
    · simp [map_toValue_eq_int, Number.div_ne_int]

/-- Only `+`, `-` and `*` give an integer, and only of two integers, the exact result. -/
theorem binary_eq_int (op : BinOp) :
    binary t op l r = .ok (.int n) ↔ ∃ a b, l = .int a ∧ r = .int b ∧
      (op = .add ∧ n = a + b ∨ op = .sub ∧ n = a - b ∨ op = .mul ∧ n = a * b) := by
  cases op with
  | add => simpa using binary_add_eq_int
  | sub => simpa using binary_sub_eq_int
  | mul => simpa using binary_mul_eq_int
  | div => simpa using binary_div_ne_int
  | _ => simp [binary]


/-! ## Where the operators fail -/

/-- An integer that no double stands for. -/
def isWideInt : Value → Bool
  | .int n => (Binary64.ofInt? n).isNone
  | _ => false

/-- Whether a value is an integer. -/
def isInt : Value → Bool
  | .int _ => true
  | _ => false

/-- Whether a value is a string. -/
def isStr : Value → Bool
  | .str _ => true
  | _ => false

/-- A wide integer meets an operand that is not an integer, so it has to become a double. -/
def mixesWide (l r : Value) : Bool :=
  l.isWideInt && !r.isInt || r.isWideInt && !l.isInt

@[simp]
theorem isWide_toNumber (v : Value) : v.toNumber.isWide = v.isWideInt := by
  cases v <;> rfl

@[simp]
theorem isInt_toNumber (v : Value) : v.toNumber.isInt = v.isInt := by
  cases v <;> rfl

variable {f : Fault}

theorem map_eq_error {α β : Type} (g : α → β) {x : Except Fault α} : g <$> x = .error f ↔ x = .error f := by
  cases x <;> simp [Functor.map, Except.map]

theorem bind_eq_error {α β : Type} {x : Except Fault α} {g : α → Except Fault β} :
    x >>= g = .error f ↔ x = .error f ∨ ∃ a, x = .ok a ∧ g a = .error f := by
  cases x <;> simp [bind, Except.bind]

theorem scaleVec_eq_error (v : Vec2) (k : Number) :
    scaleVec v k = .error f ↔ k.isWide ∧ f = .intTooLarge := by
  unfold scaleVec
  rcases Number.toFloat_cases k with ⟨wide, converted⟩ | ⟨narrow, x, converted⟩ <;>
    simp [*, bind, Except.bind, pure, Except.pure, eq_comm]

theorem combine_values_eq_error {onInt : Int → Int → Int} {onFloat : Float → Float → Float} :
    Number.toValue <$> Number.combine onInt onFloat l.toNumber r.toNumber = .error f ↔
      l.mixesWide r ∧ f = .intTooLarge := by
  simp [map_eq_error, Number.combine_eq_error, mixesWide]

theorem binary_sub_eq_error : binary t .sub l r = .error f ↔ l.mixesWide r ∧ f = .intTooLarge := by
  simp only [binary]
  split
  · simp [mixesWide, isWideInt]
  · exact combine_values_eq_error

theorem binary_mul_eq_error : binary t .mul l r = .error f ↔ l.mixesWide r ∧ f = .intTooLarge := by
  simp only [binary]
  split
  · exact combine_values_eq_error
  · simp [scaleVec_eq_error, mixesWide, isWideInt, isInt]
  · simp [scaleVec_eq_error, mixesWide, isWideInt, isInt]
  · exact combine_values_eq_error

theorem binary_add_eq_error_of_number (noText : (l.isStr || r.isStr) = false) :
    binary t .add l r = .error f ↔ l.mixesWide r ∧ f = .intTooLarge := by
  simp only [binary]
  split
  · simp [isStr] at noText
  · simp [isStr] at noText
  · simp [mixesWide, isWideInt]
  · exact combine_values_eq_error

theorem binary_add_eq_error_of_text (text : (l.isStr || r.isStr) = true) :
    binary t .add l r = .error f ↔
      l.format t = .error f ∨ (∃ x, l.format t = .ok x) ∧ r.format t = .error f := by
  simp only [binary]
  split
  all_goals try (simp [isStr] at text)
  all_goals simp [bind_eq_error, pure, Except.pure]

/--
The operator `/` fails, for a divisor that is not zero, exactly where division
does; a vector is divided by the reciprocal of the divisor, a double.
-/
theorem binary_div_eq_error : binary t .div l r = .error f ↔ r.toNumber.isZero = false ∧
    (l.mixesWide r ∧ f = .intTooLarge ∨
      ∃ a b, l = .int a ∧ r = .int b ∧
        (Binary64.ofRatio ((a < 0) != (b < 0)) a.natAbs b.natAbs).isInf ∧ f = .quotientTooLarge) := by
  simp only [binary]
  split
  · rename_i v
    split
    · simp_all
    · rename_i nonzero
      rw [bind_eq_error, Number.div_eq_error]
      have scaled : ¬ ∃ k, Number.div (.float 1.0) r.toNumber = .ok k ∧ scaleVec v k = .error f := by
        rintro ⟨k, divided, failed⟩
        simp [scaleVec_eq_error, Number.isWide_of_div_eq_ok divided] at failed
      simp [scaled, nonzero, mixesWide, isWideInt, isInt]
  · split
    · simp_all
    · rename_i nonzero
      simp [map_eq_error, Number.div_eq_error, mixesWide, nonzero]

/-! ## Operators named by their symbols -/

/-- The symbols of the comparisons. -/
def comparisonSymbols : List String := ["<", ">", "<=", ">=", "==", "!="]

/-- A comparison, named by its symbol, answers a boolean whatever it compares. -/
theorem binarySymbol_comparison {op : String} (comparison : op ∈ comparisonSymbols) (l r : Value) :
    ∃ b, binarySymbol t op l r = .ok (.bool b) := by
  simp only [comparisonSymbols, List.mem_cons, List.not_mem_nil, or_false] at comparison
  rcases comparison with rfl | rfl | rfl | rfl | rfl | rfl <;> exact ⟨_, rfl⟩

/-- A symbol that names no operator answers 0.0. -/
theorem binarySymbol_of_unnamed {symbol : String} (unnamed : BinOp.ofSymbol? symbol = none) (l r : Value) :
    binarySymbol t symbol l r = .ok (.float 0.0 0) := by
  simp [binarySymbol, unnamed]

/--
Integers stay exact: an operator gives an integer exactly when it is `+`, `-`
or `*` and both operands are integers, and it then gives the exact sum,
difference or product, of any size; so `/` and a symbol that names no operator
never give one. A comparison gives a boolean, and `-` and `+` in front of an
integer negate it or leave it. A symbol that names no operator answers 0.0.
-/
theorem integer_operands_stay_exact (t : EntityText) :
    (∀ (op : String) (l r : Value) (n : Int),
      binarySymbol t op l r = .ok (.int n) ↔
        ∃ a b, l = .int a ∧ r = .int b ∧
          (op = "+" ∧ n = a + b ∨ op = "-" ∧ n = a - b ∨ op = "*" ∧ n = a * b)) ∧
    (∀ op ∈ comparisonSymbols, ∀ l r : Value, ∃ b, binarySymbol t op l r = .ok (.bool b)) ∧
    ∀ n : Int, unary (UnaryOp.ofSymbol "-") (.int n) = .int (-n) ∧
      unary (UnaryOp.ofSymbol "+") (.int n) = .int n := by
  refine ⟨fun op l r n => ?_, fun op comparison l r => binarySymbol_comparison comparison l r,
    fun n => ⟨rfl, rfl⟩⟩
  unfold binarySymbol
  cases named : BinOp.ofSymbol? op with
  | none =>
    refine iff_of_false (by simp) ?_
    rintro ⟨a, b, -, -, ⟨rfl, -⟩ | ⟨rfl, -⟩ | ⟨rfl, -⟩⟩ <;> cases named
  | some o =>
    rw [BinOp.ofSymbol?_eq_some] at named
    subst named
    rw [binary_eq_int]
    cases o <;> simp [BinOp.symbol]

/--
The operators answer every pair of values but where host arithmetic fails,
and then with the fault of that arithmetic.  Comparisons always answer, and a
symbol that names no operator answers 0.0.  `+` with a string on either side
joins the texts and fails only where writing one fails; otherwise `+`, `-`
and `*` fail, with `Fault.intTooLarge`, exactly when a wide integer meets an
operand that is not an integer.  `/` by a divisor whose number is zero
answers; by any other it fails in that same case, and when two integers have
a quotient past the largest double, with `Fault.quotientTooLarge`.
-/
theorem operators_fail_only_by_host_arithmetic (t : EntityText) (l r : Value) (f : Fault) :
    (∀ op ∈ comparisonSymbols, ∃ b, binarySymbol t op l r = .ok (.bool b)) ∧
    (∀ symbol, BinOp.ofSymbol? symbol = none → binarySymbol t symbol l r = .ok (.float 0.0 0)) ∧
    ((l.isStr || r.isStr) = true → (binarySymbol t "+" l r = .error f ↔
      l.format t = .error f ∨ (∃ x, l.format t = .ok x) ∧ r.format t = .error f)) ∧
    ((l.isStr || r.isStr) = false →
      (binarySymbol t "+" l r = .error f ↔ l.mixesWide r ∧ f = .intTooLarge)) ∧
    (binarySymbol t "-" l r = .error f ↔ l.mixesWide r ∧ f = .intTooLarge) ∧
    (binarySymbol t "*" l r = .error f ↔ l.mixesWide r ∧ f = .intTooLarge) ∧
    (binarySymbol t "/" l r = .error f ↔ r.toNumber.isZero = false ∧
      (l.mixesWide r ∧ f = .intTooLarge ∨
        ∃ a b, l = .int a ∧ r = .int b ∧
          (Binary64.ofRatio ((a < 0) != (b < 0)) a.natAbs b.natAbs).isInf ∧ f = .quotientTooLarge)) :=
  ⟨fun _ comparison => binarySymbol_comparison comparison l r,
    fun _ unnamed => binarySymbol_of_unnamed unnamed l r,
    binary_add_eq_error_of_text, binary_add_eq_error_of_number, @binary_sub_eq_error t l r f,
    @binary_mul_eq_error t l r f, @binary_div_eq_error t l r f⟩

end Value

end GameScript

import GameScript.Number.Text

/-!
# Host failures

The failures that a computation of the interpreter can raise, one constructor
per cause. Script-level problems (an unknown name, a mismatched operand) are
not failures: they evaluate to a value or become a log entry. What remains are
arithmetic that leaves the range of doubles, built-in functions given
arguments they cannot use, nesting deeper than the call limit or the host
stack, and a clash of component names.

`Fault.message` holds the wording of each.
-/

namespace GameScript

/--
The positional parameters of a host function, as a call checks them: the
function's qualified name, its parameters' names in order (the object first
for a bound method), how many of the last have defaults, and whether further
arguments are gathered by a rest parameter.
-/
structure Signature where
  qualname : String
  params : List String
  defaults : Nat
  rest : Bool
  bound : Bool
  deriving Repr, DecidableEq, Inhabited

namespace Signature

/-- How many positional arguments a call must give, the bound object included. -/
def required (sig : Signature) : Nat := sig.params.length - sig.defaults

/-- The positional arguments a call with `count` arguments gives, the bound object included. -/
def given (sig : Signature) (count : Nat) : Nat := if sig.bound then count + 1 else count

/-- Whether a call with `count` arguments fits the parameters. -/
def accepts (sig : Signature) (count : Nat) : Bool :=
  sig.required ≤ sig.given count && (sig.rest || sig.given count ≤ sig.params.length)

/-- Names between quotes as a list in prose: `'a'`, `'a' and 'b'`, `'a', 'b', and 'c'`. -/
def namesText (names : List String) : String :=
  match names.map (fun n => "'" ++ n ++ "'") with
  | [a] => a
  | [a, b] => a ++ " and " ++ b
  | quoted => String.intercalate ", " quoted.dropLast ++ ", and " ++ quoted.getLastD ""

/--
Why a call that gives `given` positional arguments, the bound object
included, does not fit: too many for the parameters without a rest, or the
names of the required parameters left without an argument.
-/
def arityText (sig : Signature) (given : Nat) : String :=
  if given < sig.required then
    let missing := (sig.params.take sig.required).drop given
    sig.qualname ++ "() missing " ++ digitText missing.length ++ " required positional argument" ++
      (if missing.length == 1 then "" else "s") ++ ": " ++ namesText missing
  else
    let count := if sig.defaults == 0 then digitText sig.params.length
      else "from " ++ digitText sig.required ++ " to " ++ digitText sig.params.length
    sig.qualname ++ "() takes " ++ count ++ " positional argument" ++
      (if sig.defaults == 0 && sig.params.length == 1 then "" else "s") ++ " but " ++
      digitText given ++ (if given == 1 then " was" else " were") ++ " given"

end Signature

/-- A failure raised by an operation of the interpreter. -/
inductive Fault where
  /-- An integer too large for a double was used as one. -/
  | intTooLarge
  /-- A quotient of two integers lies beyond the largest double. -/
  | quotientTooLarge
  /-- An infinity was converted to an integer. -/
  | infinityToInt
  /-- A not-a-number was converted to an integer. -/
  | nanToInt
  /-- A mathematical function was applied outside its domain. -/
  | mathDomain
  /-- A value that has no vector view was used as a vector; `shown` is its text. -/
  | notAVector (shown : String)
  /-- A vector was asked of an empty argument list. -/
  | noVectorArguments
  /-- A built-in function was called with a number of positional arguments, the bound object included, that its signature does not take. -/
  | wrongArity (sig : Signature) (given : Nat)
  /-- Method calls nested past the configured limit. -/
  | callDepth (limit : Nat) (method : String)
  /-- Nesting ran out of host stack. -/
  | hostStack
  /-- A component instance of this name is already registered. -/
  | componentExists (name : String)
  /-- A position past the end of a list was asked for. -/
  | indexOutOfRange
  /-- An integer of more decimal digits than `intTextLimit` was written as text. -/
  | intTextTooLong
  /--
  A vector or colour was built from numbers some of which are not doubles;
  `message` is the validation library's wording of the refusal.
  -/
  | invalidFields (message : String)
  deriving Repr, DecidableEq, Inhabited

/-- The most decimal digits an integer may have to be written as text. -/
def intTextLimit : Nat := 4300

/--
How the validation library words a refusal of fields: from the model's name
and, for each refused field in order, its name and the integer it was given.
-/
abbrev RefusalWording := String → List (String × Int) → String

/-- The text of a failure. -/
def Fault.message : Fault → String
  | .intTooLarge => "int too large to convert to float"
  | .quotientTooLarge => "integer division result too large for a float"
  | .infinityToInt => "cannot convert float infinity to integer"
  | .nanToInt => "cannot convert float NaN to integer"
  | .mathDomain => "math domain error"
  | .notAVector shown => "expected a vector, got " ++ shown
  | .noVectorArguments => "expected a vector or x, y"
  | .wrongArity sig given => sig.arityText given
  | .callDepth limit method =>
    "Maximum call depth " ++ digitText limit ++ " exceeded calling '" ++ method ++ "'"
  | .hostStack => "maximum recursion depth exceeded"
  | .componentExists name => "Component '" ++ name ++ "' already exists"
  | .indexOutOfRange => "list index out of range"
  | .intTextTooLong =>
    "Exceeds the limit (" ++ digitText intTextLimit ++
      " digits) for integer string conversion; use sys.set_int_max_str_digits() to increase the limit"
  | .invalidFields message => message

/--
Whether a failure is one a built-in function reports as a log entry instead
of passing on: arithmetic, conversion, domain, argument and lookup failures.
Nesting limits and name clashes pass on.
-/
def Fault.isBuiltinFailure : Fault → Bool
  | .callDepth _ _ | .hostStack | .componentExists _ => false
  | _ => true

end GameScript

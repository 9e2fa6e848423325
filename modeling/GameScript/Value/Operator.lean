import GameScript.Value.Arithmetic
import GameScript.Value.Text
import GameScript.Number.Reading

/-!
# Operators on values

Every operator of the language is defined on every pair of values:

* a comparison always gives a boolean. Equality is structural across kinds
  (`1 == 1.0`, `true == 1`, vectors and colours component-wise, entities by id,
  maps regardless of order), and a not-a-number equals nothing, except that
  members of containers (list items, map values, the components of a vector
  or colour) that are one object are equal even then. An order compares two
  strings by code point and anything else by its number;
* `+` joins the texts when one side is a string and adds two vectors, `-`
  subtracts two vectors, `*` scales a vector by the other side's number, and
  `/` divides a vector by one, giving the zero vector for a zero divisor;
  otherwise these work on the operands' numbers, and a zero divisor gives 0.0;
* a number is read from any value: booleans are 1.0 and 0.0, strings are read
  as decimals (0.0 if unreadable), and all else is 0.0.

The only failures are those of `Number` arithmetic on integers beyond the
range of doubles, and of writing an integer too long for text when a string
is joined.
-/

namespace GameScript

/-- The binary operators of the language. -/
inductive BinOp where
  | add | sub | mul | div
  | less | greater | lessEq | greaterEq | equal | notEqual
  deriving Repr, DecidableEq, Inhabited

/-- The prefix operators of the language. -/
inductive UnaryOp where
  | neg | pos | not
  deriving Repr, DecidableEq, Inhabited

namespace BinOp

/-- How the operator is written. -/
def symbol : BinOp → String
  | .add => "+" | .sub => "-" | .mul => "*" | .div => "/"
  | .less => "<" | .greater => ">" | .lessEq => "<=" | .greaterEq => ">="
  | .equal => "==" | .notEqual => "!="

/-- The operator written as `s`, if any. -/
def ofSymbol? (s : String) : Option BinOp :=
  [BinOp.add, .sub, .mul, .div, .less, .greater, .lessEq, .greaterEq, .equal, .notEqual].find?
    (·.symbol == s)

/-- Whether the operator compares its operands. -/
def isComparison : BinOp → Bool
  | .add | .sub | .mul | .div => false
  | _ => true

end BinOp

namespace UnaryOp

/-- How the operator is written. -/
def symbol : UnaryOp → String
  | .neg => "-" | .pos => "+" | .not => "!"

/-- The operator a symbol stands for: `!` negates truth, `-` negates, and any other leaves the number as is. -/
def ofSymbol (s : String) : UnaryOp :=
  if s == "!" then .not else if s == "-" then .neg else .pos

end UnaryOp

namespace Value

/-- The number a value stands for in arithmetic. -/
def toNumber : Value → Number
  | .bool b => .float (if b then 1.0 else 0.0)
  | .int n => .int n
  | .float x _ => .float x
  | .str s => .float ((Reading.readFloat? s).getD 0.0)
  | _ => .float 0.0

/-- A value as a number object: a number is itself (the same object), anything else its double. -/
def numeric (v : Value) : Value :=
  match v with
  | .int _ | .float _ _ => v
  | _ => v.toNumber.toValue

/-- The truth of a value in a condition: false, zero, the empty string and null are false. -/
def truthy : Value → Bool
  | .bool b => b
  | .int n => n != 0
  | .float x _ => x != 0.0
  | .str s => !s.isEmpty
  | .null => false
  | _ => true

/-- The value a field or parameter of a declared type starts with. -/
def zero (dataType : String) : Value :=
  if dataType == "float" then .float 0.0 0
  else if dataType == "int" then .int 0
  else if dataType == "string" then .str ""
  else if dataType == "bool" then .bool false
  else .null

/-- The number a value is when compared for equality: booleans as 0 and 1. -/
def numberView? : Value → Option Number
  | .bool b => some (.int (if b then 1 else 0))
  | .int n => some (.int n)
  | .float x _ => some (.float x)
  | _ => none

/-- The value stored under the first key accepted by `accepts`. -/
def findEntry (accepts : Value → Bool) : List (Value × Value) → Option Value
  | [] => none
  | (k, v) :: rest => if accepts k then some v else findEntry accepts rest

/-- Two doubles met as members of containers: one object, or equal doubles. -/
def sameDouble (x : Float) (i : Nat) (y : Float) (j : Nat) : Bool :=
  (i != 0 && i == j) || x == y

/-- Vectors equal field by field, each pair of fields one object or equal doubles. -/
def vec2Matches (a b : Vec2) : Bool :=
  sameDouble a.x a.xIdent b.x b.xIdent && sameDouble a.y a.yIdent b.y b.yIdent

/-- Colours equal field by field, each pair of fields one object or equal doubles. -/
def colorMatches (p q : Color) : Bool :=
  sameDouble p.r p.rIdent q.r q.rIdent && sameDouble p.g p.gIdent q.g q.gIdent &&
    sameDouble p.b p.bIdent q.b q.bIdent && sameDouble p.a p.aIdent q.a q.aIdent

/--
Whether two values are one double object. Only doubles need the test: any
other two copies of one object are equal anyway, their members being one
object each.
-/
def oneDouble : Value → Value → Bool
  | .float _ i, .float _ j => i != 0 && i == j
  | _, _ => false

mutual

/-- Equality of values. -/
def equals : Value → Value → Bool
  | .null, .null => true
  | .str a, .str b => a == b
  | .vec2 a, .vec2 b => vec2Matches a b
  | .color a, .color b => colorMatches a b
  | .entity a, .entity b => a == b
  | .list _ as, .list _ bs => itemsEqual as bs
  | .map _ as, .map _ bs => as.length == bs.length && entriesWithin as bs
  | a, b =>
    match a.numberView?, b.numberView? with
    | some x, some y => Number.compare? x y == some .eq
    | _, _ => false

/-- Member-wise equality of two lists, a member being equal to itself. -/
def itemsEqual : List Value → List Value → Bool
  | [], [] => true
  | a :: as, b :: bs => (oneDouble a b || equals a b) && itemsEqual as bs
  | _, _ => false

/-- Whether every entry of the first map is in the second with an equal value. -/
def entriesWithin : List (Value × Value) → List (Value × Value) → Bool
  | [], _ => true
  | (k, v) :: rest, other =>
    let found := match findEntry (fun key => oneDouble k key || equals k key) other with
      | some w => oneDouble v w || equals v w
      | none => false
    found && entriesWithin rest other

end

/-- Map entries with equal keys merged: the first key keeps its place and the last value wins. -/
def dedupEntries (entries : List (Value × Value)) : List (Value × Value) :=
  entries.foldl (fun kept (k, v) =>
    if kept.any (fun entry => equals entry.1 k) then
      kept.map (fun entry => if equals entry.1 k then (entry.1, v) else entry)
    else kept ++ [(k, v)]) []

/-- Order of two values: strings by code point, anything else by its number. -/
def ordered (l r : Value) : Option Ordering :=
  match l, r with
  | .str a, .str b => some (compare a b)
  | _, _ => Number.compare? l.toNumber r.toNumber

/-- A vector scaled by a number. -/
def scaleVec (v : Vec2) (k : Number) : Except Fault Value := do
  let factor ← k.toFloat
  return .vec2 (v.scale factor)

/-- Apply a binary operator. -/
def binary (t : EntityText) : BinOp → Value → Value → Except Fault Value
  | .equal, l, r => .ok (.bool (equals l r))
  | .notEqual, l, r => .ok (.bool !(equals l r))
  | .less, l, r => .ok (.bool (ordered l r == some .lt))
  | .greater, l, r => .ok (.bool (ordered l r == some .gt))
  | .lessEq, l, r => .ok (.bool (ordered l r == some .lt || ordered l r == some .eq))
  | .greaterEq, l, r => .ok (.bool (ordered l r == some .gt || ordered l r == some .eq))
  | .add, l, r =>
    match l, r with
    | .str _, _ => do return .str ((← l.format t) ++ (← r.format t))
    | _, .str _ => do return .str ((← l.format t) ++ (← r.format t))
    | .vec2 a, .vec2 b => .ok (.vec2 (a.add b))
    | _, _ => Number.toValue <$> Number.add l.toNumber r.toNumber
  | .sub, l, r =>
    match l, r with
    | .vec2 a, .vec2 b => .ok (.vec2 (a.sub b))
    | _, _ => Number.toValue <$> Number.sub l.toNumber r.toNumber
  | .mul, l, r =>
    match l, r with
    | .vec2 _, .vec2 _ => Number.toValue <$> Number.mul l.toNumber r.toNumber
    | .vec2 a, _ => scaleVec a r.toNumber
    | _, .vec2 b => scaleVec b l.toNumber
    | _, _ => Number.toValue <$> Number.mul l.toNumber r.toNumber
  | .div, l, r =>
    let divisor := r.toNumber
    match l with
    | .vec2 a =>
      if divisor.isZero then .ok (.vec2 {})
      else do
        let k ← Number.div (.float 1.0) divisor
        scaleVec a k
    | _ =>
      if divisor.isZero then .ok (.float 0.0 0)
      else Number.toValue <$> Number.div l.toNumber divisor

/-- Apply the operator written `symbol`; a symbol that names no operator gives 0.0. -/
def binarySymbol (t : EntityText) (symbol : String) (l r : Value) : Except Fault Value :=
  match BinOp.ofSymbol? symbol with
  | some op => binary t op l r
  | none => .ok (.float 0.0 0)

/-- Apply a prefix operator. -/
def unary : UnaryOp → Value → Value
  | .not, v => .bool !v.truthy
  | .neg, .vec2 a => .vec2 (a.scale (-1.0))
  | .pos, .vec2 a => .vec2 a
  | .neg, v => v.toNumber.neg.toValue
  | .pos, v => v.numeric

end Value

end GameScript

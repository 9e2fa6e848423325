/-!
# Script values

The values a script computes with form one closed type: null, booleans,
integers of any size, doubles, strings, two-dimensional vectors, colours,
handles of world entities, and the maps and lists that a host hands in (event
payloads, entity lists). Integers and doubles are kept apart: integer
arithmetic stays exact, and number literals are doubles.

An entity handle carries only the entity's id; what an entity looks like is
asked of the world it lives in.

Doubles (also the components of vectors and colours), maps and lists carry an
identity: a positive number shared by every copy of one object of the host,
or 0 for a temporary that nothing else holds yet. Two places can see one
object (a variable read twice, a vector stored in an entity and handed to a
handler), and then the copies carry the same identity. It is observable in
two ways: inside a container, an object equals itself even when it is a
not-a-number; and the debugging text of a list or map met again inside
itself reads `[...]` or `{...}`. Identities are handed out by `Value.stamp`
when a value is stored where it can be reached again.
-/

namespace GameScript

/-- A two-dimensional vector of doubles, with the identities of its component doubles. -/
structure Vec2 where
  x : Float := 0.0
  y : Float := 0.0
  xIdent : Nat := 0
  yIdent : Nat := 0
  deriving Inhabited

/-- A colour with red, green, blue and alpha components, with the identities of its component doubles. -/
structure Color where
  r : Float := 0.0
  g : Float := 0.0
  b : Float := 0.0
  a : Float := 1.0
  rIdent : Nat := 0
  gIdent : Nat := 0
  bIdent : Nat := 0
  aIdent : Nat := 0
  deriving Inhabited

/-- A value of the script language. -/
inductive Value where
  | null
  | bool (b : Bool)
  | int (n : Int)
  | float (x : Float) (ident : Nat)
  | str (s : String)
  | vec2 (v : Vec2)
  | color (c : Color)
  | entity (id : Nat)
  | map (ident : Nat) (entries : List (Value × Value))
  | list (ident : Nat) (items : List Value)

instance : Inhabited Value := ⟨.null⟩

/-- The two kinds of number arithmetic works on. -/
inductive Number where
  | int (n : Int)
  | float (x : Float)

instance : Inhabited Number := ⟨.float 0.0⟩

namespace Number

/-- A number as a value; a double is a new temporary. -/
def toValue : Number → Value
  | .int n => .int n
  | .float x => .float x 0

end Number

namespace Vec2

/-- Component-wise sum. -/
def add (a b : Vec2) : Vec2 := { x := a.x + b.x, y := a.y + b.y }

/-- Component-wise difference. -/
def sub (a b : Vec2) : Vec2 := { x := a.x - b.x, y := a.y - b.y }

/-- Both components multiplied by a double. -/
def scale (v : Vec2) (k : Float) : Vec2 := { x := v.x * k, y := v.y * k }

end Vec2

end GameScript

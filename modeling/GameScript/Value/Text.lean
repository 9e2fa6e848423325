import GameScript.Value.Basic
import GameScript.Number.Text
import GameScript.Text.Quoted
import GameScript.Fault

/-!
# Values as text

Two renderings of a value. `Value.format` is the text a script sees when it
logs a value or joins it to a string: `null`, `true`, an integer, a double as
its exact integer when it is whole and finite (else its shortest digits), a
vector as `(x, y)`, a colour as `rgb(r, g, b)`, an entity as its name.
`Value.repr` is the debugging form used for the members of lists and maps:
`None`, `True`, quoted strings, `Vec2(x=1.0, y=2.0)`, `{'k': v}`, `[a, b]`,
and for an entity its full record. A list or map formats as its `repr`.

An integer of more than `intTextLimit` decimal digits cannot be written, so
both renderings fail with `Fault.intTextTooLong` when they meet one anywhere.

A list or map met again inside its own text reads `[...]` or `{...}`. The
containers being written are kept as `Holder`s, innermost first: lists and
maps by identity (a temporary is never met again), and the two maps of the
world that are not values, an entity's properties and a component's fields.

Entities live in the world, so both renderings ask an `EntityText` for them.
-/

namespace GameScript

/-- A container whose text is being written. -/
inductive Holder where
  /-- A list or map, by identity. -/
  | object (ident : Nat)
  /-- The render properties of an entity. -/
  | properties (entity : Nat)
  /-- The fields of a component instance, by serial number. -/
  | fields (serial : Nat)
  deriving DecidableEq

/-- Whether the list or map with identity `ident` is being written. -/
def Holder.isOpen (opened : List Holder) (ident : Nat) : Bool :=
  ident != 0 && opened.contains (.object ident)

/--
How entity handles read: by name in messages, and inside lists and maps as a
full record, written within the containers `opened`.
-/
structure EntityText where
  name : Nat → String
  record : List Holder → Nat → Except Fault String

/-- Entity text for values that hold no entity: each id reads as `entity_<id>`. -/
def EntityText.plain : EntityText :=
  { name := fun id => "entity_" ++ digitText id,
    record := fun _ id => .ok ("entity_" ++ digitText id) }

/-- An integer as decimal text, refused past `intTextLimit` digits. -/
def checkedIntText (n : Int) : Except Fault String :=
  if (digitText n.natAbs).length > intTextLimit then .error .intTextTooLong else .ok (intText n)

/-- A double as a script shows it: whole finite doubles as exact integers, others by shortest digits. -/
def formatFloat (x : Float) : String :=
  (Float.integralText? x).getD (Float.reprText x)

/-- `Vec2(x=…, y=…)` with shortest digits. -/
def Vec2.repr (v : Vec2) : String :=
  "Vec2(x=" ++ Float.reprText v.x ++ ", y=" ++ Float.reprText v.y ++ ")"

/-- `Color(r=…, g=…, b=…, a=…)` with shortest digits. -/
def Color.repr (c : Color) : String :=
  "Color(r=" ++ Float.reprText c.r ++ ", g=" ++ Float.reprText c.g ++
    ", b=" ++ Float.reprText c.b ++ ", a=" ++ Float.reprText c.a ++ ")"

/-- `(x, y)` with each component formatted. -/
def Vec2.format (v : Vec2) : String :=
  "(" ++ formatFloat v.x ++ ", " ++ formatFloat v.y ++ ")"

/-- `rgb(r, g, b)` with each component formatted; alpha is not shown. -/
def Color.format (c : Color) : String :=
  "rgb(" ++ formatFloat c.r ++ ", " ++ formatFloat c.g ++ ", " ++ formatFloat c.b ++ ")"

mutual

/-- The debugging form of a value, written within the containers `opened`. -/
def Value.repr (t : EntityText) (opened : List Holder) : Value → Except Fault String
  | .null => .ok "None"
  | .bool b => .ok (if b then "True" else "False")
  | .int n => checkedIntText n
  | .float x _ => .ok (Float.reprText x)
  | .str s => .ok (Text.quote s)
  | .vec2 v => .ok v.repr
  | .color c => .ok c.repr
  | .entity id => t.record opened id
  | .map ident entries =>
    if Holder.isOpen opened ident then .ok "\x7b...\x7d"
    else do return "\x7b" ++ (← Value.reprEntries t (.object ident :: opened) entries) ++ "\x7d"
  | .list ident items =>
    if items.isEmpty then .ok "[]"
    else if Holder.isOpen opened ident then .ok "[...]"
    else do return "[" ++ (← Value.reprItems t (.object ident :: opened) items) ++ "]"

/-- List members separated by commas. -/
def Value.reprItems (t : EntityText) (opened : List Holder) : List Value → Except Fault String
  | [] => .ok ""
  | [v] => v.repr t opened
  | v :: rest => do return (← v.repr t opened) ++ ", " ++ (← Value.reprItems t opened rest)

/-- Map entries `key: value` separated by commas. -/
def Value.reprEntries (t : EntityText) (opened : List Holder) :
    List (Value × Value) → Except Fault String
  | [] => .ok ""
  | [(k, v)] => do return (← k.repr t opened) ++ ": " ++ (← v.repr t opened)
  | (k, v) :: rest => do
    return (← k.repr t opened) ++ ": " ++ (← v.repr t opened) ++ ", " ++
      (← Value.reprEntries t opened rest)

end

/-- The text of a value in messages and string joins. -/
def Value.format (t : EntityText) : Value → Except Fault String
  | .null => .ok "null"
  | .bool b => .ok (if b then "true" else "false")
  | .int n => checkedIntText n
  | .float x _ => .ok (formatFloat x)
  | .str s => .ok s
  | .vec2 v => .ok v.format
  | .color c => .ok c.format
  | .entity id => .ok (t.name id)
  | v => v.repr t []

end GameScript

import GameScript.Text.Quoted

/-!
# The table of built-in functions

Built-in functions are registered by name under a category. A name must be
an identifier of ASCII letters, digits and underscores not starting with a
digit (a single line feed may follow it), must not be one of the two words the
language reserves for statements, and must be new. Once the table is sealed no
name is added. The checks run in that order: sealed, shape, reserved, taken,
and last the category text.

`Builtin.installed` is the table every session starts with; `Table.build` is
the table a sequence of registrations and seals builds from an empty one.
-/

namespace GameScript.Builtin

/-- The groups built-in functions are listed under, in listing order. -/
inductive Category where
  | math | vector | color | entity | time | event | utility | sprite | audio | physics | custom
  deriving Repr, DecidableEq, Inhabited

namespace Category

/-- Every category in listing order. -/
def all : List Category :=
  [.math, .vector, .color, .entity, .time, .event, .utility, .sprite, .audio, .physics, .custom]

/-- The name of a category. -/
def tag : Category → String
  | .math => "math" | .vector => "vector" | .color => "color" | .entity => "entity"
  | .time => "time" | .event => "event" | .utility => "utility" | .sprite => "sprite"
  | .audio => "audio" | .physics => "physics" | .custom => "custom"

/-- The category with a given name. -/
def ofTag? (s : String) : Option Category :=
  all.find? (·.tag == s)

end Category

/-- Why a registration was refused. -/
inductive RegistrationError where
  | sealed (name : String)
  | invalidName (name : String)
  | reserved (name : String)
  | duplicate (name : String)
  | unknownCategory (text : String)
  deriving Repr, DecidableEq, Inhabited

/-- The message of a refused registration. -/
def RegistrationError.message : RegistrationError → String
  | .sealed name => "Cannot register '" ++ name ++ "': built-in table is sealed"
  | .invalidName name => "Invalid built-in name: " ++ Text.quote name
  | .reserved name => "'" ++ name ++ "' is a reserved statement name"
  | .duplicate name => "Built-in '" ++ name ++ "' already registered"
  | .unknownCategory text => Text.quote text ++ " is not a valid BuiltinCategory"

/-- The words that start statements and so cannot name a built-in. -/
def reservedWords : List String := ["destroy", "spawn"]

/-- Whether a character may start an identifier: an ASCII letter or underscore. -/
def startsName (c : Char) : Bool := c.isAlpha || c == '_'

/-- Whether a character may continue an identifier: an ASCII letter, digit or underscore. -/
def continuesName (c : Char) : Bool := c.isAlphanum || c == '_'

/-- Whether a text is an identifier, allowing one line feed at its end. -/
def isIdentifier (name : String) : Bool :=
  let cs := name.toList
  let body := if cs.getLast? == some '\n' then cs.dropLast else cs
  match body with
  | c :: rest => startsName c && rest.all continuesName
  | [] => false

/-- Registered names with their categories, in registration order, and whether the table is sealed. -/
structure Table where
  entries : List (String × Category) := []
  sealed : Bool := false
  deriving Inhabited

namespace Table

/-- Whether a name is registered. -/
def contains (t : Table) (name : String) : Bool :=
  t.entries.any (·.1 == name)

/-- Register `name` under the category named `category`. -/
def register (t : Table) (name category : String) : Except RegistrationError (Category × Table) :=
  if t.sealed then .error (.sealed name)
  else if !isIdentifier name then .error (.invalidName name)
  else if reservedWords.contains name then .error (.reserved name)
  else if t.contains name then .error (.duplicate name)
  else
    match Category.ofTag? category with
    | none => .error (.unknownCategory category)
    | some c => .ok (c, { t with entries := t.entries ++ [(name, c)] })

/-- The table closed to further names. -/
def freeze (t : Table) : Table := { t with sealed := true }

/-- The registered names in code point order. -/
def names (t : Table) : List String :=
  (t.entries.map (·.1)).mergeSort (fun a b => decide (a ≤ b))

/-- The names of one category in registration order. -/
def byCategory (t : Table) (c : Category) : List String :=
  (t.entries.filter (·.2 == c)).map (·.1)

/-- Every category with its names, in listing order. -/
def groups (t : Table) : List (Category × List String) :=
  Category.all.map fun c => (c, t.byCategory c)

/-- How many names are registered. -/
def size (t : Table) : Nat := t.entries.length

end Table

/-- One step of building a table: register a name under the category named by a text, or seal the table. -/
inductive Step where
  | register (name category : String)
  | freeze
  deriving Repr, DecidableEq

namespace Table

/-- The table after a step; a refused registration leaves it as it was. -/
def step (t : Table) : Step → Table
  | .register name category =>
    match t.register name category with
    | .ok (_, t') => t'
    | .error _ => t
  | .freeze => t.freeze

/-- The table a sequence of steps builds from the empty one. -/
def build (steps : List Step) : Table := steps.foldl step {}

end Table

/-- The functions every session offers, by category, in registration order. -/
def installedEntries : List (String × Category) :=
  (["sin", "cos", "sqrt", "abs", "min", "max", "clamp", "random", "randomInt", "lerp"].map
      (·, Category.math)) ++
  (["randomVec2", "distance", "normalize", "magnitude", "vec2", "vecX", "vecY"].map
      (·, Category.vector)) ++
  [("rgb", .color)] ++
  (["createEntity", "getEntity", "getAllEntities", "getEntityCount", "destroyEntity",
    "getEntitiesInRadius", "getPosition", "setPosition"].map (·, Category.entity)) ++
  [("getTime", .time), ("scheduleCallback", .time), ("broadcast", .event), ("subscribe", .event),
   ("log", .utility)] ++
  (["setSpriteFrame", "setFlipX", "setFlipY", "setScale", "setRotation", "setOpacity"].map
      (·, Category.sprite)) ++
  (["playSound", "playMusic", "stopMusic", "playAmbient", "stopAmbient", "setMasterVolume"].map
      (·, Category.audio)) ++
  (["applyForce", "applyImpulse", "setGravity"].map (·, Category.physics))

/-- The sealed table every session starts with. -/
def installed : Table := { entries := installedEntries, sealed := true }

end GameScript.Builtin

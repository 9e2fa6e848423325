import GameScript.Syntax
import GameScript.Number.Text

/-!
# Component instances

A component instance is a live copy of a declaration: a unique instance name,
the declaration it came from, its fields with their current values in
declaration order, its methods by name, and whether it is active. Instances
are told apart by a serial number, not by name: a removed instance keeps
existing for the entities that still point at it, and a later instance may
take its name.

Instance names are unique among the registered instances: a declaration's own
name if it is free, else the name followed by `_2`, `_3`, and so on.
-/

namespace GameScript

/-- A live component instance. -/
structure Component where
  name : String
  declaration : String
  fields : List (String × Value)
  methods : List (String × MethodDecl)
  active : Bool := true
  deriving Inhabited

namespace Component

/-- The method of a name. -/
def method? (c : Component) (name : String) : Option MethodDecl :=
  (c.methods.find? (·.1 == name)).map (·.2)

/-- Whether a method of that name exists. -/
def hasMethod (c : Component) (name : String) : Bool :=
  c.methods.any (·.1 == name)

/-- The value of a field. -/
def field? (c : Component) (name : String) : Option Value :=
  (c.fields.find? (·.1 == name)).map (·.2)

/-- Whether a field of that name exists. -/
def hasField (c : Component) (name : String) : Bool :=
  c.fields.any (·.1 == name)

/-- Write a field: an existing field keeps its place, a new one goes last. -/
def setField (c : Component) (name : String) (v : Value) : Component :=
  if c.hasField name then
    { c with fields := c.fields.map fun f => if f.1 == name then (name, v) else f }
  else { c with fields := c.fields ++ [(name, v)] }

end Component

/-- The first of `base`, `base_2`, `base_3`, … not among `taken`. -/
def uniqueName (taken : List String) (base : String) : String :=
  if !taken.contains base then base
  else
    let candidates := (List.range (taken.length + 1)).map fun i => base ++ "_" ++ digitText (i + 2)
    (candidates.find? (!taken.contains ·)).getD base

end GameScript

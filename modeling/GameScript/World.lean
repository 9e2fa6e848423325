import GameScript.Value.Basic
import GameScript.Number.Text

/-!
# Entities and the world

An entity is what a renderer draws: a kind, a position, free-form render
properties, the age it has reached and, optionally, the component instance
that drives it. Its name is its kind and id joined by `_`.

The world hands out ids from one upward, never reusing one until it is
cleared. It keeps every entity it created: those still in its table,
including inactive ones waiting to leave at the end of a tick, and those
already removed, which stay readable for whoever still holds them.
-/

namespace GameScript

/-- A world entity. -/
structure Entity where
  id : Nat
  kind : String
  position : Vec2
  properties : List (String × Value) := []
  /-- The serial number of the component instance that drives it. -/
  component : Option Nat := none
  active : Bool := true
  lifespan : Float := 0.0
  /-- Whether it is still in the world's table. -/
  listed : Bool := true
  deriving Inhabited

namespace Entity

/-- The name of an entity: its kind, `_`, its id. -/
def name (e : Entity) : String := e.kind ++ "_" ++ digitText e.id

/-- The properties with `entries` written over them: a known key keeps its place. -/
def setProperties (e : Entity) (entries : List (String × Value)) : Entity :=
  { e with properties := entries.foldl (fun props (k, v) =>
      if props.any (·.1 == k) then props.map (fun p => if p.1 == k then (k, v) else p)
      else props ++ [(k, v)]) e.properties }

end Entity

/-- Every entity created since the world was last cleared, by id, and the next id. -/
structure World where
  entities : List Entity := []
  nextId : Nat := 1
  deriving Inhabited

namespace World

/-- Create an entity of a kind at a position, driven by an optional component. -/
def create (w : World) (kind : String) (position : Vec2) (component : Option Nat) : Entity × World :=
  let e : Entity := { id := w.nextId, kind, position, component }
  (e, { entities := w.entities ++ [e], nextId := w.nextId + 1 })

/-- The entity with an id, whether or not it is still in the table. -/
def find? (w : World) (id : Nat) : Option Entity :=
  w.entities.find? (·.id == id)

/-- The entity with an id if it is in the table. -/
def get? (w : World) (id : Nat) : Option Entity :=
  w.entities.find? fun e => e.id == id && e.listed

/-- The entities in the table, by id. -/
def table (w : World) : List Entity :=
  w.entities.filter (·.listed)

/-- The active entities in the table, by id. -/
def active (w : World) : List Entity :=
  w.entities.filter fun e => e.listed && e.active

/-- The entity of the table driven by a component, the first by id. -/
def driving? (w : World) (component : Nat) : Option Entity :=
  w.entities.find? fun e => e.listed && e.component == some component

/-- Change the entity with an id. -/
def modify (w : World) (id : Nat) (f : Entity → Entity) : World :=
  { w with entities := w.entities.map fun e => if e.id == id then f e else e }

/-- Take an entity out of the table; it stays readable. -/
def remove (w : World) (id : Nat) : World :=
  w.modify id fun e => { e with listed := false }

/-- Age every active entity of the table by `dt`. -/
def age (w : World) (dt : Float) : World :=
  { w with entities := w.entities.map fun e =>
      if e.listed && e.active then { e with lifespan := e.lifespan + dt } else e }

end World

end GameScript

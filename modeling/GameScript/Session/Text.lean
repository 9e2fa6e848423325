import GameScript.Session.Basic
import GameScript.Value.Text

/-!
# Entities as text

In messages an entity reads as its name. Inside a list or a map it reads as
its full record: id, kind, name, position, properties, its component (name,
state and fields) and its age. The properties of an entity and the fields of
a component are maps of their own, so met again inside their own text they
read `{...}`, as a list or map value does. An empty map always reads `{}`.

A record nested inside another is reached through the outer one's
properties or fields, which are then being written; so every level of
nesting opens a map not yet open, and the nesting is bounded by the number of
entities and components, which is the fuel given.

Writing fails when it meets an integer too long for text.
-/

namespace GameScript

namespace Session

/-- The name of an entity with an id, or `None` if there is none. -/
def entityName (s : Session) (id : Nat) : String :=
  ((s.world.find? id).map Entity.name).getD "None"

/-- A map of the world, keyed by names, written as the container `holder`. -/
def namedMapText (t : EntityText) (opened : List Holder) (holder : Holder)
    (entries : List (String × Value)) : Except Fault String :=
  if entries.isEmpty then .ok "\x7b\x7d"
  else if opened.contains holder then .ok "\x7b...\x7d"
  else do
    let inner ← Value.reprEntries t (holder :: opened) (entries.map fun (k, v) => (.str k, v))
    return "\x7b" ++ inner ++ "\x7d"

/-- The record of entity `id`, written within the containers `opened`. -/
def entityRecord (s : Session) : Nat → List Holder → Nat → Except Fault String
  | 0, _, _ => .ok "..."
  | fuel + 1, opened, id =>
    match s.world.find? id with
    | none => .ok "None"
    | some e => do
      let text : EntityText := ⟨s.entityName, entityRecord s fuel⟩
      let properties ← namedMapText text opened (.properties e.id) e.properties
      let component ← match e.component with
        | none => pure "None"
        | some serial => do
          let c := s.component serial
          let fields ← namedMapText text opened (.fields serial) c.fields
          pure ("RuntimeComponent(" ++ Text.quote c.name ++ ", " ++
            (if c.active then "active" else "inactive") ++ ", fields=" ++ fields ++ ")")
      return "WorldEntity(id=" ++ digitText e.id ++ ", type=" ++ Text.quote e.kind ++ ", name=" ++
        Text.quote e.name ++ ", position=" ++ e.position.repr ++ ", properties=" ++ properties ++
        ", component=" ++ component ++ ", is_active=" ++ (if e.active then "True" else "False") ++
        ", lifespan=" ++ Float.reprText e.lifespan ++ ")"

/-- How entities read in this session. -/
def entityText (s : Session) : EntityText :=
  ⟨s.entityName, s.entityRecord (s.world.entities.length + s.store.size + 1)⟩

/-- The text of a value in messages and string joins; fails on an integer too long for text. -/
def format (s : Session) (v : Value) : Except Fault String :=
  v.format s.entityText

end Session

end GameScript

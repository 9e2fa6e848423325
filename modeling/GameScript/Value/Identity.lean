import GameScript.Value.Basic

/-!
# Handing out identities

A temporary (identity 0) becomes an object others can reach once it is
stored: bound to a variable or parameter, put into an entity, handed to
event handlers. `Value.stamp` gives every temporary inside a value a fresh
identity from a counter, and keeps the identities already given.

Stamping is deep, so every object inside a container with an identity has one
too, and a container with an identity needs no second look: its members were
stamped with it. Containers are never changed after they are built, so that
stays true.
-/

namespace GameScript

/-- An identity for a component: kept when it has one, else the next fresh one. -/
def stampIdent (ident next : Nat) : Nat × Nat :=
  if ident == 0 then (next, next + 1) else (ident, next)

namespace Vec2

/-- Give the component doubles of a vector identities. -/
def stamp (v : Vec2) (next : Nat) : Vec2 × Nat :=
  let (xIdent, next) := stampIdent v.xIdent next
  let (yIdent, next) := stampIdent v.yIdent next
  ({ v with xIdent, yIdent }, next)

end Vec2

namespace Color

/-- Give the component doubles of a colour identities. -/
def stamp (c : Color) (next : Nat) : Color × Nat :=
  let (rIdent, next) := stampIdent c.rIdent next
  let (gIdent, next) := stampIdent c.gIdent next
  let (bIdent, next) := stampIdent c.bIdent next
  let (aIdent, next) := stampIdent c.aIdent next
  ({ c with rIdent, gIdent, bIdent, aIdent }, next)

end Color

mutual

/-- Give every temporary inside a value a fresh identity, counting from `next`. -/
def Value.stamp : Value → Nat → Value × Nat
  | .float x ident, next =>
    let (ident, next) := stampIdent ident next
    (.float x ident, next)
  | .vec2 v, next =>
    let (v, next) := v.stamp next
    (.vec2 v, next)
  | .color c, next =>
    let (c, next) := c.stamp next
    (.color c, next)
  | .map ident entries, next =>
    if ident == 0 then
      let (entries, after) := Value.stampEntries entries (next + 1)
      (.map next entries, after)
    else (.map ident entries, next)
  | .list ident items, next =>
    if ident == 0 then
      let (items, after) := Value.stampItems items (next + 1)
      (.list next items, after)
    else (.list ident items, next)
  | v, next => (v, next)

/-- Stamp the members of a list in order. -/
def Value.stampItems : List Value → Nat → List Value × Nat
  | [], next => ([], next)
  | v :: rest, next =>
    let (v, next) := v.stamp next
    let (rest, next) := Value.stampItems rest next
    (v :: rest, next)

/-- Stamp the keys and values of a map in order. -/
def Value.stampEntries : List (Value × Value) → Nat → List (Value × Value) × Nat
  | [], next => ([], next)
  | (k, v) :: rest, next =>
    let (k, next) := k.stamp next
    let (v, next) := v.stamp next
    let (rest, next) := Value.stampEntries rest next
    ((k, v) :: rest, next)

end

end GameScript

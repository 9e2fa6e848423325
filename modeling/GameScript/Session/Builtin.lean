import GameScript.Session.Text
import GameScript.Builtin.Table
import GameScript.Value.Operator
import GameScript.Number.Root
import GameScript.Number.Text

/-!
# Built-in functions that run no script

Every built-in function takes its arguments as values and answers a value.
Most of them are computed here: arithmetic, vectors, colours, queries of the
world, the clock, subscriptions, the log, render properties, and the audio and
physics calls, which only leave a diagnostic line. The three that may run
script methods (`createEntity`, `destroyEntity`, `broadcast`) belong to the
interpreter itself.

A built-in called with a number of arguments it does not take fails with
`Fault.wrongArity` before doing anything, naming the function and the counts
as the host's own functions do (`signature`). An optional argument that is left
out takes its default; passing null is the same as leaving it out only where
the default is itself null.
-/

namespace GameScript

namespace Sim

/-- A computation that may fail, run inside a session. -/
def ofExcept {α : Type} : Except Fault α → Sim α
  | .ok a => pure a
  | .error e => throw e

end Sim

namespace Builtin

/-- The qualified name of a built-in written as an anonymous function. -/
def lambdaName : String := "install_builtins.<locals>.<lambda>"

/-- The qualified name of a built-in written as a named local function. -/
def localName (name : String) : String := "install_builtins.<locals>." ++ name

/-- A built-in's parameters: an anonymous function with `params`, the last `defaults` of them optional. -/
def lambdaOf (params : List String) (defaults : Nat) : Signature :=
  ⟨lambdaName, params, defaults, false, false⟩

/-- A built-in's parameters: a named local function with `params`, the last `defaults` of them optional. -/
def localOf (name : String) (params : List String) (defaults : Nat) : Signature :=
  ⟨localName name, params, defaults, false, false⟩

/-- The signature each built-in is called through. -/
def signature (name : String) : Signature :=
  match name with
  | "sin" | "cos" | "sqrt" | "abs" => lambdaOf ["x"] 0
  | "min" | "max" => lambdaOf ["a", "b"] 0
  | "clamp" => lambdaOf ["x", "lo", "hi"] 0
  | "random" => lambdaOf [] 0
  | "randomInt" => lambdaOf ["lo", "hi"] 0
  | "lerp" => lambdaOf ["a", "b", "t"] 0
  | "randomVec2" => localOf "random_vec2" ["min_x", "max_x", "min_y", "max_y"] 2
  | "distance" => lambdaOf ["a", "b"] 0
  | "normalize" | "magnitude" | "vecX" | "vecY" => lambdaOf ["v"] 0
  | "vec2" => lambdaOf ["x", "y"] 2
  | "rgb" => lambdaOf ["r", "g", "b", "a"] 1
  | "createEntity" => localOf "create_entity" ["entity_type", "position"] 1
  | "getEntity" => localOf "get_entity" ["entity_id"] 0
  | "getAllEntities" | "getEntityCount" => lambdaOf [] 0
  | "destroyEntity" => lambdaOf ["entity"] 0
  | "getEntitiesInRadius" => localOf "entities_in_radius" ["position", "radius"] 0
  | "getPosition" => localOf "get_position" ["entity"] 1
  | "setPosition" => ⟨localName "set_position", [], 0, true, false⟩
  | "getTime" => ⟨"SoulScriptInterpreter.get_current_time", ["self"], 0, false, true⟩
  | "scheduleCallback" => ⟨localName "schedule_callback", ["delay", "method_name"], 0, true, false⟩
  | "broadcast" => lambdaOf ["event", "payload"] 1
  | "subscribe" => lambdaOf ["event", "handler"] 0
  | "log" => ⟨localName "log", [], 0, true, false⟩
  | "setSpriteFrame" => localOf "set_sprite_frame" ["frame", "row"] 1
  | "setFlipX" | "setFlipY" => lambdaOf ["flip"] 0
  | "setScale" => localOf "set_scale" ["scale_x", "scale_y"] 1
  | "setRotation" => lambdaOf ["r"] 0
  | "setOpacity" => lambdaOf ["o"] 0
  | "playSound" => lambdaOf ["name", "volume"] 1
  | "playMusic" => lambdaOf ["name", "loop"] 1
  | "playAmbient" => lambdaOf ["name"] 0
  | "setMasterVolume" => lambdaOf ["volume"] 0
  | "stopMusic" | "stopAmbient" => lambdaOf [] 0
  | "applyForce" => ⟨localName "apply_force", [], 0, true, false⟩
  | "applyImpulse" => ⟨localName "apply_impulse", [], 0, true, false⟩
  | "setGravity" => ⟨lambdaName, [], 0, true, false⟩
  | _ => ⟨name, [], 0, true, false⟩

/-- Whether a built-in takes `count` arguments. -/
def accepts (name : String) (count : Nat) : Bool :=
  (signature name).accepts count

/-- The failure of a call of a built-in with `count` arguments it does not take. -/
def arityFault (name : String) (count : Nat) : Fault :=
  .wrongArity (signature name) ((signature name).given count)

/-- The argument at a position, if given. -/
def arg (args : List Value) (i : Nat) : Value :=
  args.getD i .null

/-- The argument at a position, unless left out or null. -/
def given? (args : List Value) (i : Nat) : Option Value :=
  match args[i]? with
  | some .null => none
  | v => v

/-- A number as diagnostics write it: an integer in decimal, a double by shortest digits. -/
def numberText : Number → String
  | .int n => intText n
  | .float x => Float.reprText x

/-- The double a value stands for, converting integers. -/
def double (v : Value) : Except Fault Float :=
  v.toNumber.toFloat

/--
A double field of a vector or colour built from a value: a double is kept as
the same object, an integer becomes a new double, and other values their
number. An integer beyond the doubles is refused.
-/
def fieldDouble (v : Value) : Except Int (Float × Nat) :=
  match v with
  | .float x ident => .ok (x, ident)
  | _ =>
    match v.toNumber with
    | .float x => .ok (x, 0)
    | .int n =>
      match (Number.int n).toFloat with
      | .ok x => .ok (x, 0)
      | .error _ => .error n

/-- The refused fields among named results, in order, each with the integer it was given. -/
def refusals {α : Type} : List (String × Except Int α) → List (String × Int)
  | [] => []
  | (name, .error n) :: rest => (name, n) :: refusals rest
  | (_, .ok _) :: rest => refusals rest

/-- A vector built from two values, refused in `wording` with every field that is not a double. -/
def makeVec2 (wording : RefusalWording) (x y : Value) : Except Fault Vec2 :=
  match fieldDouble x, fieldDouble y with
  | .ok (x, xIdent), .ok (y, yIdent) => .ok { x, y, xIdent, yIdent }
  | rx, ry => .error (.invalidFields (wording "Vec2" (refusals [("x", rx), ("y", ry)])))

/-- A colour built from four values, refused in `wording` with every field that is not a double. -/
def makeColor (wording : RefusalWording) (r g b a : Value) : Except Fault Color :=
  match fieldDouble r, fieldDouble g, fieldDouble b, fieldDouble a with
  | .ok (r, rIdent), .ok (g, gIdent), .ok (b, bIdent), .ok (a, aIdent) =>
    .ok { r, g, b, a, rIdent, gIdent, bIdent, aIdent }
  | rr, rg, rb, ra =>
    .error (.invalidFields (wording "Color" (refusals [("r", rr), ("g", rg), ("b", rb), ("a", ra)])))

/-- Whether `a < b` between numbers. -/
def lessThan (a b : Number) : Bool := Number.compare? a b == some .lt

/-- Limit a number to `[0, 1]`: above 1 gives 1.0, not above 0 gives 0.0, not-a-number gives 1.0. -/
def unitInterval (n : Number) : Number :=
  let m := if lessThan n (.float 1.0) then n else .float 1.0
  if lessThan (.float 0.0) m then m else .float 0.0

/-- The vector a value stands for: a vector, an entity's position, or a map with `x` and `y`. -/
def vectorView (s : Session) : Value → Except Fault Vec2
  | .vec2 v => .ok v
  | .entity id =>
    match s.world.find? id with
    | some e => .ok e.position
    | none => do throw (.notAVector (← s.format (.entity id)))
  | .map ident entries =>
    match Value.findEntry (Value.equals (.str "x")) entries,
        Value.findEntry (Value.equals (.str "y")) entries with
    | some x, some y => makeVec2 s.platform.refusalWording x y
    | _, _ => do throw (.notAVector (← s.format (.map ident entries)))
  | v => do throw (.notAVector (← s.format v))

/-- A vector from arguments: one vector-like value, or two numbers. -/
def vectorOfArgs (s : Session) : List Value → Except Fault Vec2
  | [] => .error .noVectorArguments
  | [v] => vectorView s v
  | x :: y :: _ => makeVec2 s.platform.refusalWording x y

/-- The length of a vector. -/
def Vec2.length (v : Vec2) : Float := Binary64.hypot v.x v.y

/-- A double from a number that is one, converting integers. -/
def toDouble (n : Number) : Sim Float := Sim.ofExcept n.toFloat

/-- The entity an argument names: an entity itself, or the active entity whose id is its integer part. -/
def entityArg (s : Session) (v : Value) : Except Fault (Option Entity) :=
  match v with
  | .entity id => .ok (s.world.find? id)
  | _ => do
    let n ← v.toNumber.truncate
    return activeEntity s n
where
  activeEntity (s : Session) (n : Int) : Option Entity :=
    if n < 0 then none
    else (s.world.get? n.toNat).filter (·.active)

/-- Write render properties of the current entity, if there is one. -/
def setProperties (entries : List (String × Value)) : Sim Unit :=
  modify fun s =>
    match s.currentEntity? with
    | some e => { s with world := s.world.modify e.id (·.setProperties entries) }
    | none => s

/-- Leave a diagnostic line of the audio or physics collaborator. -/
def collaborator (message : String) : Sim Unit :=
  Sim.note .debug "soulscript.collaborators" message

/-- The mathematical functions. -/
def math (name : String) (args : List Value) : Sim Value := do
  let a := arg args 0
  let b := arg args 1
  let c := arg args 2
  match name with
  | "sin" | "cos" =>
    let x ← Sim.ofExcept (double a)
    if x.isInf then throw .mathDomain
    return .float (if name == "sin" then x.sin else x.cos) 0
  | "sqrt" =>
    let x ← Sim.ofExcept (double a)
    if x < 0.0 then throw .mathDomain
    return .float x.sqrt 0
  | "abs" =>
    match a.toNumber with
    | .int n => return .int n.natAbs
    | .float x => return .float x.abs 0
  | "min" =>
    let (x, y) := (a.numeric, b.numeric)
    return (if lessThan y.toNumber x.toNumber then y else x)
  | "max" =>
    let (x, y) := (a.numeric, b.numeric)
    return (if lessThan x.toNumber y.toNumber then y else x)
  | "clamp" =>
    let (x, low, high) := (a.numeric, b.numeric, c.numeric)
    let m := if lessThan x.toNumber high.toNumber then x else high
    return (if lessThan low.toNumber m.toNumber then m else low)
  | "random" => return .float (← Sim.uniform) 0
  | "randomInt" =>
    let r ← Sim.uniform
    let span ← Sim.ofExcept (Number.sub b.toNumber a.toNumber)
    let scaled ← Sim.ofExcept (Number.mul (.float r) span)
    let low ← Sim.ofExcept (Number.floorFloat (← toDouble scaled))
    let base ← Sim.ofExcept a.toNumber.truncate
    return .int (low + base)
  | "lerp" =>
    let span ← Sim.ofExcept (Number.sub b.toNumber a.toNumber)
    let step ← Sim.ofExcept (Number.mul span c.toNumber)
    return (← Sim.ofExcept (Number.add a.toNumber step)).toValue
  | _ => return .null

/-- A uniform draw between two bounds: `random() * (high - low) + low`. -/
def between (low high : Number) : Sim Float := do
  let r ← Sim.uniform
  let span ← Sim.ofExcept (Number.sub high low)
  let scaled ← Sim.ofExcept (Number.mul (.float r) span)
  toDouble (← Sim.ofExcept (Number.add scaled low))

/-- The vector and colour functions. -/
def geometry (name : String) (args : List Value) : Sim Value := do
  let s ← get
  let a := arg args 0
  let b := arg args 1
  match name with
  | "randomVec2" =>
    let (lowX, highX) := (a.toNumber, b.toNumber)
    let lowY := ((given? args 2).map Value.toNumber).getD lowX
    let highY := ((given? args 3).map Value.toNumber).getD highX
    let x ← between lowX highX
    let y ← between lowY highY
    return .vec2 { x, y }
  | "distance" =>
    let p ← Sim.ofExcept (vectorView s a)
    let q ← Sim.ofExcept (vectorView s b)
    return .float (Vec2.length (p.sub q)) 0
  | "normalize" =>
    let v ← Sim.ofExcept (vectorView s a)
    let length := Vec2.length v
    return .vec2 (if length <= 0.0 then {} else { x := v.x / length, y := v.y / length })
  | "magnitude" => return .float (Vec2.length (← Sim.ofExcept (vectorView s a))) 0
  | "vec2" =>
    return .vec2 (← Sim.ofExcept
      (makeVec2 s.platform.refusalWording (args.getD 0 (.int 0)) (args.getD 1 (.int 0))))
  | "vecX" =>
    let v ← Sim.ofExcept (vectorView s a)
    return .float v.x v.xIdent
  | "vecY" =>
    let v ← Sim.ofExcept (vectorView s a)
    return .float v.y v.yIdent
  | "rgb" =>
    return .color (← Sim.ofExcept
      (makeColor s.platform.refusalWording a b (arg args 2) (args.getD 3 (.float 1.0 0))))
  | _ => return .null

/-- Queries and moves of world entities. -/
def entities (name : String) (args : List Value) : Sim Value := do
  let s ← get
  let a := arg args 0
  match name with
  | "getEntity" =>
    let n ← Sim.ofExcept a.toNumber.truncate
    return ((entityArg.activeEntity s n).map (Value.entity ·.id)).getD .null
  | "getAllEntities" => return .list 0 (s.world.active.map (Value.entity ·.id))
  | "getEntityCount" => return .int s.world.active.length
  | "getEntitiesInRadius" =>
    let center ← Sim.ofExcept (vectorView s a)
    let radius := (arg args 1).toNumber
    let near := s.world.active.filter fun e =>
      match Number.compare? (Number.float (Vec2.length (e.position.sub center))) radius with
      | some .lt | some .eq => true
      | _ => false
    return .list 0 (near.map (Value.entity ·.id))
  | "getPosition" =>
    let target ← match given? args 0 with
      | none => pure s.currentEntity?
      | some v => Sim.ofExcept (entityArg s v)
    return (target.map (Value.vec2 ·.position)).getD .null
  | "setPosition" =>
    match s.currentEntity? with
    | some e =>
      let v ← Sim.shareVec2 (← Sim.ofExcept (vectorOfArgs s args))
      modify fun s => { s with world := s.world.modify e.id fun e => { e with position := v } }
      return .null
    | none => return .null
  | _ => return .null

/-- The clock, scheduling, subscriptions and the log. -/
def timing (name : String) (args : List Value) : Sim Value := do
  let s ← get
  match name with
  | "getTime" => return .float s.time 0
  | "scheduleCallback" =>
    let delay := (arg args 0).toNumber
    let method ← Sim.ofExcept (s.format (arg args 1))
    match s.callStack.head? with
    | none =>
      Sim.log .warning ("scheduleCallback(" ++ method ++ ") called outside of a component")
      return .int 0
    | some serial =>
      let component := (s.component serial).name
      let (result, scheduler) := s.scheduler.schedule delay component method (args.drop 2)
      set { s with scheduler }
      let c ← Sim.ofExcept result
      Sim.note .debug "soulscript.scheduler"
        ("Scheduled " ++ component ++ "." ++ method ++ " at t=" ++ Float.fixedText 3 c.time)
      return .int c.id
  | "subscribe" =>
    let event ← Sim.ofExcept (s.format (arg args 0))
    let handler ← Sim.ofExcept (s.format (arg args 1))
    set { s with events := s.events.subscribe event handler }
    Sim.note .debug "soulscript.events" ("Subscribed " ++ event ++ " -> " ++ handler)
    return .null
  | "log" =>
    let parts ← args.mapM fun v => Sim.ofExcept (s.format v)
    Sim.log .info (" ".intercalate parts)
    return .null
  | _ => return .null

/-- Render properties, audio and physics. -/
def effects (name : String) (args : List Value) : Sim Value := do
  let s ← get
  let a := arg args 0
  match name with
  | "setSpriteFrame" =>
    let row := args.getD 1 (.int 0)
    setProperties [("spriteFrame", a.numeric), ("spriteRow", row.numeric)]
    let frameText ← Sim.ofExcept (s.format a)
    let rowText ← Sim.ofExcept (s.format row)
    Sim.log .debug ("Sprite frame set to " ++ frameText ++ ", row " ++ rowText)
  | "setFlipX" => setProperties [("flipX", .bool a.truthy)]
  | "setFlipY" => setProperties [("flipY", .bool a.truthy)]
  | "setScale" =>
    let y := (given? args 1).getD a
    setProperties [("scaleX", a.numeric), ("scaleY", y.numeric)]
  | "setRotation" => setProperties [("rotation", a.numeric)]
  | "setOpacity" => setProperties [("opacity", (unitInterval a.toNumber).toValue)]
  | "playSound" =>
    let sound ← Sim.ofExcept (s.format a)
    let volume := ((args[1]?).map Value.toNumber).getD (.float 1.0)
    collaborator ("play_sound " ++ sound ++ " volume=" ++ numberText volume)
  | "playMusic" =>
    let music ← Sim.ofExcept (s.format a)
    let loop := ((args[1]?).map Value.truthy).getD true
    collaborator ("play_music " ++ music ++ " loop=" ++ (if loop then "True" else "False"))
  | "stopMusic" => collaborator "stop_music"
  | "playAmbient" => collaborator ("play_ambient " ++ (← Sim.ofExcept (s.format a)))
  | "stopAmbient" => collaborator "stop_ambient"
  | "setMasterVolume" =>
    collaborator ("set_master_volume " ++ numberText (unitInterval a.toNumber))
  | "applyForce" | "applyImpulse" =>
    match s.currentEntity? with
    | some e =>
      let v ← Sim.ofExcept (vectorOfArgs s args)
      let verb := if name == "applyForce" then "apply_force" else "apply_impulse"
      collaborator (verb ++ " entity=" ++ digitText e.id ++ " " ++ v.format)
    | none => pure ()
  | "setGravity" =>
    let v ← Sim.ofExcept (vectorOfArgs s args)
    collaborator ("set_gravity " ++ v.format)
  | _ => pure ()
  return .null

/-- Run a built-in that runs no script; the name is known and the argument count accepted. -/
def leaf (name : String) (args : List Value) : Sim Value :=
  match ((installedEntries.find? (·.1 == name)).map (·.2) : Option Category) with
  | some .math => math name args
  | some .vector | some .color => geometry name args
  | some .entity => entities name args
  | some .time | some .event | some .utility => timing name args
  | _ => effects name args

end Builtin

end GameScript

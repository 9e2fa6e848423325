import GameScript.Session.Builtin

/-!
# Running scripts

Expressions are evaluated and statements executed against a component's
fields and a local scope. A name is looked up in the scope, then among the
fields, and is the integer 0 if neither has it. An assignment reads and
writes a field when the component has one of that name, else the scope. A
call statement is, in order of precedence, `destroy()` (the component
deactivates itself), `spawn(kind)` (only logged), a built-in function, a
method of the component, or an unknown function (a warning). A call inside an
expression reaches built-in functions only.

Built-in functions report their failures as log entries and answer 0. A
method run by the host, a tick, an event or a callback reports a call nested
past the configured depth, or past the host stack, as a log entry and ends;
every other failure passes on to the host.

The host stack is counted in frames. Every function here takes the frames
left; entering one uses a frame, and a call with none left fails with
`Fault.hostStack`. The frames a step uses follow the calls the host makes, so
expressions nested a few hundred deep evaluate and those nested a couple of
thousand deep do not. This count is also what makes every run finish: each
call either uses a frame or walks a shorter list.
-/

namespace GameScript

/-- Local variables of a running method, in binding order. -/
abbrev Scope := List (String × Value)

namespace Scope

/-- The value of a local variable. -/
def get? (scope : Scope) (name : String) : Option Value :=
  (scope.find? (·.1 == name)).map (·.2)

/-- Bind a local variable: a bound name keeps its place. -/
def bind (scope : Scope) (name : String) (v : Value) : Scope :=
  if scope.any (·.1 == name) then scope.map fun b => if b.1 == name then (name, v) else b
  else scope ++ [(name, v)]

/-- The scope of a method call: each parameter bound to its argument, or else to its type's zero. -/
def ofCall (params : List Param) (args : List Value) : Scope :=
  (params.zipIdx).foldl (fun scope (p, i) => scope.bind p.name (args.getD i (Value.zero p.dataType))) []

end Scope

namespace Sim

/-- A spawn position inside the margins of the world, x drawn first. -/
def spawnPosition : Sim Vec2 := do
  let settings := (← get).settings
  let margin := settings.spawnMargin
  let span (extent : Float) : Float :=
    let free := extent - 2.0 * margin
    if free > 0.0 then free else 0.0
  let x ← uniform
  let x := margin + x * span settings.worldWidth
  let y ← uniform
  let y := margin + y * span settings.worldHeight
  return { x, y }

/-- Count one evaluation of a whole expression. -/
def countEvaluation : Sim Unit :=
  modify fun s => { s with stats := { s.stats with evaluations := s.stats.evaluations + 1 } }

/-- Count one executed statement. -/
def countStatement : Sim Unit :=
  modify fun s => { s with stats := { s.stats with statements := s.stats.statements + 1 } }

/-- Whether a name is a built-in function. -/
def isBuiltin (name : String) : Bool :=
  Builtin.installedEntries.any (·.1 == name)

/-- Apply a binary operator with this session's entity text. -/
def binary (op : BinOp) (l r : Value) : Sim Value := do
  Sim.ofExcept (Value.binary (← get).entityText op l r)

mutual

/-- The value of an expression; names resolve in `scope`, then in the fields of `self`. -/
def evaluate : Nat → Scope → Option Nat → Expr → Sim Value
  | 0, _, _, _ => throw .hostStack
  | f + 1, scope, self, e =>
    match e with
    | .literal lit _ => return lit.value
    | .identifier name _ => do
      if f = 0 then throw .hostStack
      match scope.get? name with
      | some v => return v
      | none =>
        match self with
        | some serial => return (((← component serial).field? name).getD (.int 0))
        | none => return .int 0
    | .unary op operand _ => do
      let v ← evaluate f scope self operand
      if f < 2 then throw .hostStack
      return Value.unary op v
    | .binary op left right _ => do
      let l ← evaluate f scope self left
      let r ← evaluate f scope self right
      if f < 2 then throw .hostStack
      binary op l r
    | .call name args _ => do
      let values ← evaluateArgs (f - 1) scope self args
      callBuiltin (f - 1) name values
termination_by frames _ _ _ => (frames, 0)

/-- The values of call arguments, left to right. -/
def evaluateArgs : Nat → Scope → Option Nat → List Expr → Sim (List Value)
  | _, _, _, [] => return []
  | f, scope, self, e :: rest => do
    let v ← evaluate f scope self e
    let vs ← evaluateArgs f scope self rest
    return v :: vs
termination_by f _ _ es => (f, es.length)

/-- The value of a whole expression, counted as one evaluation whether or not it fails. -/
def evaluateTop : Nat → Scope → Option Nat → Expr → Sim Value
  | 0, _, _, _ => throw .hostStack
  | f + 1, scope, self, e => tryFinally (evaluate f scope self e) countEvaluation
termination_by frames _ _ _ => (frames, 0)

/-- The values of whole expressions, left to right. -/
def evaluateTops : Nat → Scope → Option Nat → List Expr → Sim (List Value)
  | _, _, _, [] => return []
  | f, scope, self, e :: rest => do
    let v ← evaluateTop f scope self e
    let vs ← evaluateTops f scope self rest
    return v :: vs
termination_by f _ _ es => (f, es.length)

/--
Call a built-in function. An unknown name is a warning and answers 0; a
failure of the function is an error entry and answers 0.
-/
def callBuiltin : Nat → String → List Value → Sim Value
  | 0, _, _ => throw .hostStack
  | f + 1, name, args => do
    if !isBuiltin name then
      log .warning ("Unknown function: " ++ name)
      return .int 0
    countUse name
    tryCatch
      (do
        if !Builtin.accepts name args.length then throw (Builtin.arityFault name args.length)
        match name with
        | "createEntity" =>
          let position ← match Builtin.given? args 1 with
            | none => pure none
            | some v => some <$> Sim.ofExcept (Builtin.vectorView (← get) v)
          let kind ← Sim.ofExcept ((← get).format (Builtin.arg args 0))
          let id ← createEntity (f - 2) kind position none
          return .entity id
        | "destroyEntity" => return .bool (← destroyEntity (f - 2) (Builtin.arg args 0))
        | "broadcast" =>
          let event ← Sim.ofExcept ((← get).format (Builtin.arg args 0))
          return .int (← broadcast (f - 2) event (Builtin.arg args 1))
        | _ => Builtin.leaf name args)
      (fun fault => do
        if fault.isBuiltinFailure then
          log .error ("Error in " ++ name ++ ": " ++ fault.message)
          return .int 0
        else throw fault)
termination_by frames _ _ => (frames, 0)

/--
Broadcast an event: for each handler name subscribed to it, in order, call
the method of that name on every component that was active when the
broadcast began and still is. Every handler gets the one payload object.
Answers the number of calls.
-/
def broadcast : Nat → String → Value → Sim Nat
  | 0, _, _ => throw .hostStack
  | f + 1, event, payload => do
    let payload ← share payload
    let s ← get
    let targets := s.activeSerials
    set { s with events := s.events.count }
    let handlers := s.events.handlersFor event
    dispatch (f - 2) (handlers.flatMap fun h => targets.map (h, ·)) payload
termination_by frames _ _ => (frames, 0)

/-- Deliver a payload to each handler and component pair in turn; answers the number of calls. -/
def dispatch : Nat → List (String × Nat) → Value → Sim Nat
  | _, [], _ => return 0
  | f, (handler, serial) :: rest, payload => do
    let c ← component serial
    let here ← match c.active, c.method? handler with
      | true, some m => do
        runMethod f serial m [payload] ("Event handler error in " ++ c.name ++ "." ++ handler)
        pure 1
      | _, _ => pure 0
    let more ← dispatch f rest payload
    return here + more
termination_by f pairs _ => (f, pairs.length)

/--
Create an entity, at a spawn position when none is given, announce it with
`entityCreated` and log it at the position it has after the announcement.
The entity and the announcement hold the one position object. Answers the
entity's id.
-/
def createEntity : Nat → String → Option Vec2 → Option Nat → Sim Nat
  | 0, _, _, _ => throw .hostStack
  | f + 1, kind, position, driver => do
    let position ← match position with
      | some p => pure p
      | none => spawnPosition
    let position ← shareVec2 position
    let s ← get
    let (e, world) := s.world.create kind position driver
    set { s with world }
    let _ ← broadcast f "entityCreated"
      (.map 0 [(.str "id", .int e.id), (.str "type", .str kind), (.str "position", .vec2 position)])
    let now := (((← get).world.find? e.id).map (·.position)).getD position
    log .info ("Entity created: " ++ e.name ++ " at " ++ now.format) (some e.id)
    return e.id
termination_by frames _ _ _ => (frames, 0)

/--
Destroy an entity named by a value (an entity, or a number giving its id):
run its component's `onDestroy`, announce `entityDestroyed`, deactivate the
entity and its component, and take the entity out of the table (at the end
of the running tick, if one runs). False when the entity is not in the table,
already inactive, or being destroyed already.
-/
def destroyEntity : Nat → Value → Sim Bool
  | 0, _ => throw .hostStack
  | f + 1, target => do
    let id ← match target with
      | .entity id => pure (id : Int)
      | v => Sim.ofExcept v.toNumber.truncate
    let s ← get
    match (if id < 0 then none else s.world.get? id.toNat) with
    | none => return false
    | some e =>
      if !e.active || s.destroying.contains e.id then return false
      match e.component with
      | some serial =>
        match (s.component serial).method? "onDestroy" with
        | some m =>
          modify fun s => { s with destroying := e.id :: s.destroying }
          tryFinally (runMethod f serial m [] ("Error in onDestroy for " ++ e.name))
            (modify fun s => { s with destroying := s.destroying.filter (· != e.id) })
        | none => pure ()
      | none => pure ()
      let now := ((← get).world.find? e.id).getD e
      let _ ← broadcast f "entityDestroyed"
        (.map 0 [(.str "id", .int now.id), (.str "type", .str now.kind),
          (.str "position", .vec2 now.position), (.str "lifespan", .float now.lifespan 0)])
      modify fun s =>
        let s := { s with world := s.world.modify e.id fun e => { e with active := false } }
        let s := match e.component with
          | some serial => s.modifyComponent serial fun c => { c with active := false }
          | none => s
        if s.inTick then { s with pendingEntities := s.pendingEntities ++ [e.id] }
        else { s with world := s.world.remove e.id }
      log .info ("Entity destroyed: " ++ e.name) (some e.id)
      return true
termination_by frames _ => (frames, 0)

/--
Run a method for the host, a tick, an event or a callback: a call nested past
the depth limit or the host stack becomes an error entry `prefix: message`.
-/
def runMethod : Nat → Nat → MethodDecl → List Value → String → Sim Unit
  | 0, _, _, _, _ => throw .hostStack
  | f + 1, serial, m, args, pfx =>
    tryCatch (executeMethod f serial m args) fun fault =>
      match fault with
      | .callDepth _ _ | .hostStack => log .error (pfx ++ ": " ++ fault.message)
      | _ => throw fault
termination_by frames _ _ _ _ => (frames, 0)

/-- Run a method of a component with arguments bound to its parameters. -/
def executeMethod : Nat → Nat → MethodDecl → List Value → Sim Unit
  | 0, _, _, _ => throw .hostStack
  | f + 1, serial, m, args => do
    let args ← args.mapM share
    let s ← get
    if s.callStack.length ≥ s.settings.maxCallDepth then
      throw (.callDepth s.settings.maxCallDepth m.name)
    set { s with
      callStack := serial :: s.callStack
      stats := { s.stats with methods := s.stats.methods + 1 } }
    tryFinally (discard <| execBlock f serial (Scope.ofCall m.params args) m.body)
      (modify fun s => { s with callStack := s.callStack.tail })
termination_by frames _ _ _ => (frames, 0)

/-- Execute statements in order; answers the scope they leave. -/
def execBlock : Nat → Nat → Scope → List Stmt → Sim Scope
  | 0, _, _, _ => throw .hostStack
  | _, _, scope, [] => return scope
  | f + 1, serial, scope, st :: rest => do
    let scope ← execStmt f serial scope st
    execBlock (f + 1) serial scope rest
termination_by frames _ _ sts => (frames, sts.length)

/-- Execute one statement of component `serial`; answers the scope it leaves. -/
def execStmt : Nat → Nat → Scope → Stmt → Sim Scope
  | 0, _, _, _ => throw .hostStack
  | f + 1, serial, scope, st => do
    countStatement
    match st with
    | .assign target op value _ =>
      let c ← component serial
      let current :=
        if c.hasField target then (c.field? target).getD (.int 0)
        else (scope.get? target).getD (.int 0)
      let v ← evaluateTop (f - 2) scope (some serial) value
      let result ← match op with
        | .set => pure v
        | .compound bop => binary bop current v
      let result ← share result
      if (← component serial).hasField target then
        modifyComponent serial (·.setField target result)
        return scope
      else return scope.bind target result
    | .ifThen condition body _ =>
      let v ← evaluateTop (f - 2) scope (some serial) condition
      if v.truthy then execBlock (f - 1) serial scope body else return scope
    | .call name args _ =>
      if name == "destroy" then
        modifyComponent serial fun c => { c with active := false }
        log .warning ("Component " ++ (← component serial).name ++ " destroyed")
        return scope
      else if name == "spawn" then
        match args with
        | a :: _ =>
          let v ← evaluateTop (f - 2) scope (some serial) a
          let s ← get
          let shown ← Sim.ofExcept (s.format v)
          log .info ("Spawning new " ++ shown ++ " from " ++ (s.component serial).name)
        | [] => pure ()
        return scope
      else
        let values ← evaluateTops (f - 2) scope (some serial) args
        if isBuiltin name then
          discard <| callBuiltin (f - 1) name values
          return scope
        else
          match (← component serial).method? name with
          | some m =>
            executeMethod (f - 1) serial m values
            return scope
          | none =>
            modify fun s => { s with stats := { s.stats with unknownCalls := s.stats.unknownCalls + 1 } }
            log .warning ("Unknown function: " ++ name)
            return scope
    | .unknown _ _ => return scope
termination_by frames _ _ _ => (frames, 0)

end

end Sim

end GameScript

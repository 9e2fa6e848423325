import GameScript.Session.Run
import GameScript.Token.Scan
import GameScript.Syntax.Parse

/-!
# What a host does with a session

The host loads source text (every declaration becomes a component instance,
bound to a new entity when the settings say so, and its `init` runs), ticks
the simulation, calls methods, broadcasts events, creates and destroys
entities and components, evaluates expressions, schedules callbacks, reads
and clears the log, and resets everything.

A tick advances the clock, runs the callbacks now due (at most the configured
number), updates every active component in creation order, ages the active
entities, and at its end takes out the entities and components whose removal
was asked for during it, whether or not the tick failed. Only a tick that
completes is counted.

Syntax errors are answers of their own (`Except SyntaxError`); every other
failure is a `Fault` of the step.
-/

namespace GameScript

namespace Session

/-- The frames of host stack a host operation starts with. -/
def hostFrames : Nat := 995

end Session

/-- What loading source text gave: the instances made, the scan errors, and the syntax error, if any. -/
structure LoadReport where
  components : List String
  scanErrors : List ScanError
  syntaxError : Option SyntaxError
  deriving Inhabited

namespace Sim

open Session

/-- Parse source text into declarations, logging each scan error as a warning. -/
def parse (source : String) : Sim (Except SyntaxError (List Declaration) × List ScanError) := do
  let (tokens, scanErrors) := Token.scan source
  let parsed := Declaration.ofTokens tokens
  for e in scanErrors do
    log .warning e.logText
  return (parsed, scanErrors)

/--
Make a component instance of a declaration, named `instanceName` when one is
given and not empty, else by the declaration's name made unique. Its fields
start at their types' zero and take their initial values in order; an
initial value nested past the host stack is an error entry and leaves the
zero.
-/
def instantiate (d : Declaration) (instanceName : Option String) (frames : Nat) : Sim Nat := do
  let s ← get
  if let some n := instanceName then
    if (s.lookup? n).isSome then throw (.componentExists n)
  let name := match instanceName with
    | some n => if n.isEmpty then uniqueName (s.registry.map (·.1)) d.name else n
    | none => uniqueName (s.registry.map (·.1)) d.name
  let serial := s.store.size
  set { s with store := s.store.push ⟨name, d.name, [], d.methodTable, true⟩ }
  for fd in d.fields do
    let v ← match fd.init with
      | none => pure (Value.zero fd.dataType)
      | some e =>
        tryCatch (evaluateTop frames [] (some serial) e) fun fault =>
          match fault with
          | .hostStack => do
            log .error ("Error initializing " ++ name ++ "." ++ fd.name ++ ": " ++ fault.message)
            pure (Value.zero fd.dataType)
          | _ => throw fault
    modifyComponent serial (·.setField fd.name v)
  modify fun s => { s with registry := s.registry ++ [(name, serial)] }
  note .debug "soulscript.registry" ("Registered component " ++ name ++ " (" ++ d.name ++ ")")
  log .info ("Component " ++ name ++ " created")
  return serial

/--
Load source text: one instance per declaration, each bound to a new entity
(at the position given for its instance name or declaration name, else a
spawn position) when the settings bind entities, and then its `init` run with
that position. A syntax error makes nothing and is logged.
-/
def load (source : String) (positions : List (String × Vec2)) : Sim LoadReport := do
  let (parsed, scanErrors) ← parse source
  match parsed with
  | .error err =>
    log .error err.logText
    return ⟨[], scanErrors, some err⟩
  | .ok declarations =>
    let mut names := []
    for d in declarations do
      let serial ← instantiate d none (hostFrames - 4)
      let c ← component serial
      let position ← if (← get).settings.bindEntities then do
          let requested := (positions.find? (·.1 == c.name)).orElse fun _ =>
            positions.find? (·.1 == d.name)
          let id ← createEntity (hostFrames - 1) d.name (requested.map (·.2)) (some serial)
          pure ((((← get).world.find? id).map (Value.vec2 ·.position)).getD .null)
        else pure .null
      match c.method? "init" with
      | some m => runMethod (hostFrames - 1) serial m [position] ("Error in init for " ++ c.name)
      | none => pure ()
      names := names ++ [c.name]
    return ⟨names, scanErrors, none⟩

/-- Run `update` of a registered active component with a step, if it has one. -/
def updateComponent (frames : Nat) (name : String) (dt : Number) : Sim Unit := do
  let s ← get
  match s.lookup? name with
  | none => pure ()
  | some serial =>
    let c := s.component serial
    if c.active then
      match c.method? "update" with
      | some m => runMethod frames serial m [dt.toValue] ("Error updating " ++ name)
      | none => pure ()

/-- Update every component active now, in creation order. -/
def updateAll (frames : Nat) (dt : Number) : Sim Unit := do
  let s ← get
  for serial in s.activeSerials do
    updateComponent frames (s.component serial).name dt

/-- Run the callbacks due now: those of unknown or inactive components are dropped. -/
def runDueCallbacks : Sim Unit := do
  let s ← get
  let (due, scheduler) := s.scheduler.popDue
  set { s with scheduler }
  for cb in due do
    match (← get).lookup? cb.component with
    | none => pure ()
    | some serial =>
      let c ← component serial
      if c.active then
        match c.method? cb.method with
        | none => log .warning ("Unknown function: " ++ cb.method)
        | some m =>
          runMethod (hostFrames - 2) serial m cb.args
            ("Error in callback " ++ c.name ++ "." ++ cb.method)

/-- Take out the entities and components whose removal was asked for during a tick. -/
def commitRemovals : Sim Unit :=
  modify fun s =>
    let world := s.pendingEntities.foldl World.remove s.world
    let registry := s.pendingComponents.foldl (fun r name => r.eraseP (·.1 == name)) s.registry
    { s with world, registry, pendingEntities := [], pendingComponents := [] }

/-- Advance the simulation by one step, by default the configured step. -/
def tick (dt : Option Number) : Sim Unit := do
  let dt := dt.getD (.float (← get).settings.tickDelta)
  modify fun s => { s with inTick := true }
  tryFinally
    (do
      let step ← Sim.ofExcept dt.toFloat
      modify fun s => { s with time := s.time + step }
      let scheduler ← Sim.ofExcept ((← get).scheduler.advance dt)
      modify fun s => { s with scheduler }
      runDueCallbacks
      updateAll (hostFrames - 3) dt
      modify fun s => { s with world := s.world.age step })
    (do
      modify fun s => { s with inTick := false }
      commitRemovals)
  modify fun s => { s with ticks := s.ticks + 1 }

/-- Run a method of a registered component; false when either is unknown. -/
def call (name method : String) (args : List Value) : Sim Bool := do
  let s ← get
  match s.lookup? name with
  | none => return false
  | some serial =>
    let c := s.component serial
    match c.method? method with
    | none => return false
    | some m =>
      runMethod (hostFrames - 1) serial m args ("Error in " ++ c.name ++ "." ++ method)
      return true

/-- Deactivate a registered component; false when there is none of that name. -/
def destroyComponent (name : String) : Sim Bool := do
  match (← get).lookup? name with
  | none => return false
  | some serial =>
    modifyComponent serial fun c => { c with active := false }
    log .warning ("Component " ++ name ++ " destroyed")
    return true

/-- Unregister a component, at the end of the running tick if one runs. -/
def removeComponent (name : String) : Sim Bool := do
  let s ← get
  match s.lookup? name with
  | none => return false
  | some serial =>
    if s.inTick then
      set { s.modifyComponent serial (fun c => { c with active := false }) with
        pendingComponents := s.pendingComponents ++ [name] }
    else set { s with registry := s.registry.eraseP (·.1 == name) }
    return true

/-- The declaration at a position, counting from the end when negative. -/
def pick (declarations : List Declaration) (index : Int) : Option Declaration :=
  let n : Int := declarations.length
  let i := if index < 0 then index + n else index
  if i < 0 then none else declarations[i.toNat]?

/-- Make an instance of one declaration of source text, without entity or `init`. -/
def createComponent (source : String) (index : Int) (instanceName : Option String) :
    Sim (Except SyntaxError String) := do
  let (parsed, _) ← parse source
  match parsed with
  | .error err => return .error err
  | .ok declarations =>
    match pick declarations index with
    | none => throw .indexOutOfRange
    | some d =>
      let serial ← instantiate d instanceName (hostFrames - 3)
      return .ok (← component serial).name

/-- Evaluate expression text with a registered component's fields and a scope. -/
def evaluateText (source : String) (name : Option String) (scope : Scope) :
    Sim (Except SyntaxError Value) := do
  match Expr.ofTokens (Token.scan source).1 with
  | .error err => return .error err
  | .ok (e, _) =>
    let self := name.bind (← get).lookup?
    let scope ← scope.mapM fun (k, v) => do return (k, ← share v)
    return .ok (← evaluateTop (hostFrames - 1) scope self e)

/-- Schedule a method of a component by name. -/
def schedule (delay : Number) (name method : String) (args : List Value) : Sim Nat := do
  let s ← get
  let (result, scheduler) := s.scheduler.schedule delay name method args
  set { s with scheduler }
  let c ← Sim.ofExcept result
  note .debug "soulscript.scheduler"
    ("Scheduled " ++ name ++ "." ++ method ++ " at t=" ++ Float.fixedText 3 c.time)
  return c.id

/-- Cancel a scheduled call. -/
def cancel (id : Nat) : Sim Bool := do
  let s ← get
  let (done, scheduler) := s.scheduler.cancel id
  set { s with scheduler }
  return done

/-- Subscribe a handler name to an event. -/
def subscribe (event handler : String) : Sim Unit := do
  modify fun s => { s with events := s.events.subscribe event handler }
  note .debug "soulscript.events" ("Subscribed " ++ event ++ " -> " ++ handler)

/-- Empty the log. -/
def clearLogs : Sim Unit :=
  modify fun s => { s with log := s.log.clear }

/-- Start over: no components, entities, subscriptions, callbacks or log entries, the clock at zero and the random source reseeded as the settings ask. Counters of scripts and built-ins stay. -/
def reset : Sim Unit := do
  modify fun s =>
    { s with
      registry := []
      store := #[]
      world := {}
      events := {}
      scheduler := s.scheduler.reset
      log := s.log.clear
      platform := (s.platform.seed s.settings.randomSeed).2
      random := (s.platform.seed s.settings.randomSeed).1
      time := 0.0
      ticks := 0
      pendingEntities := []
      pendingComponents := [] }
  log .info "Interpreter reset"
  note .debug "soulscript.interpreter" "Interpreter reset"

end Sim

namespace Session

/-- The session in one line: registered components, active entities and the clock. -/
def describe (s : Session) : String :=
  "SoulScriptInterpreter(components=" ++ digitText s.registry.length ++ ", entities=" ++
    digitText s.world.active.length ++ ", time=" ++ formatFloat s.time ++ ")"

/-- The active entity of the table with an id. -/
def activeEntity? (s : Session) (id : Nat) : Option Entity :=
  (s.world.get? id).filter (·.active)

/-- How often each built-in was used, in table order, for those used at all. -/
def usageCounts (s : Session) : List (String × Nat) :=
  Builtin.installedEntries.filterMap fun (name, _) => s.usage.find? (·.1 == name)

end Session

end GameScript

import GameScript.Settings
import GameScript.Random
import GameScript.Log
import GameScript.World
import GameScript.Component
import GameScript.Scheduler
import GameScript.Fault
import GameScript.Value.Identity

/-!
# Sessions

A session is one running simulation: its settings, the platform it runs on
(the operating system's entropy and the validation library's wording), random
source, log, component instances (every instance ever made, by serial number,
and the registry naming the live ones in creation order), world, event bus,
scheduler and clock. While a method runs, the call stack holds the serial numbers of
the components whose methods are running, innermost first; the entity driven
by the innermost one is the current entity, which log entries are filed under
by default.

The event bus records handler method names under event names; duplicates
are kept, and nothing is ever unsubscribed. Broadcasting an event counts
itself and calls, for each handler name in subscription order, the method of
that name on every active component that has it, whether or not that
component subscribed; any subscription to an event is what switches its
delivery on.

Operations on a session run in `Sim`: they change the session and may fail
with a `Fault`, keeping the changes made before the failure.
-/

namespace GameScript

/-- Handler names by event, in subscription order, and the number of broadcasts so far. -/
structure EventBus where
  handlers : List (String × List String) := []
  broadcasts : Nat := 0
  deriving Inhabited

namespace EventBus

/-- Record `handler` under `event`. -/
def subscribe (b : EventBus) (event handler : String) : EventBus :=
  if b.handlers.any (·.1 == event) then
    { b with handlers := b.handlers.map fun h => if h.1 == event then (event, h.2 ++ [handler]) else h }
  else { b with handlers := b.handlers ++ [(event, [handler])] }

/-- The handler names of an event, in subscription order. -/
def handlersFor (b : EventBus) (event : String) : List String :=
  ((b.handlers.find? (·.1 == event)).map (·.2)).getD []

/-- Count one broadcast. -/
def count (b : EventBus) : EventBus := { b with broadcasts := b.broadcasts + 1 }

end EventBus

/-- Running counts of what scripts did. -/
structure RunStats where
  statements : Nat := 0
  methods : Nat := 0
  unknownCalls : Nat := 0
  evaluations : Nat := 0
  deriving Repr, DecidableEq, Inhabited

/--
What a session takes from the platform it runs on rather than from its
settings: the keys the operating system hands out to seed a random source
that is given no seed, one key per seeding in order, and the validation
library's wording of refused fields.
-/
structure Platform where
  entropy : Nat → List UInt32
  refusalWording : RefusalWording
  deriving Inhabited

/--
A random source seeded as the settings ask: by the seed when one is set, else
by the platform's next key, which is then used up.
-/
def Platform.seed (p : Platform) : Option Int → RandomSource × Platform
  | some n => (RandomSource.ofSeed n, p)
  | none => (⟨RandomSource.ofKey (p.entropy 0), RandomSource.size⟩, { p with entropy := fun k => p.entropy (k + 1) })

/-- The state of one running simulation. -/
structure Session where
  settings : Settings
  platform : Platform
  random : RandomSource
  log : LogRing
  /-- Every diagnostic line written so far, log entries included. -/
  trace : Array HostRecord := #[]
  /-- Every component instance made since the last reset, by serial number. -/
  store : Array Component := #[]
  /-- The registered instances by name, in creation order. -/
  registry : List (String × Nat) := []
  world : World := {}
  events : EventBus := {}
  scheduler : Scheduler
  time : Float := 0.0
  ticks : Nat := 0
  inTick : Bool := false
  /-- Entities to take out of the table when the running tick ends. -/
  pendingEntities : List Nat := []
  /-- Instance names to unregister when the running tick ends. -/
  pendingComponents : List String := []
  /-- Entities whose destruction is running their `onDestroy`. -/
  destroying : List Nat := []
  /-- Components whose methods are running, innermost first. -/
  callStack : List Nat := []
  stats : RunStats := {}
  /-- How often each built-in function was called. -/
  usage : List (String × Nat) := []
  /-- The next identity to hand out to an object (see `Value.stamp`). -/
  nextIdent : Nat := 1
  deriving Inhabited

/-- Computations on a session that may fail, keeping what they changed. -/
abbrev Sim := EStateM Fault Session

namespace Session

/-- A fresh session on a platform, its random source seeded as the settings ask. -/
def create (settings : Settings) (platform : Platform) : Session :=
  { settings
    platform := (platform.seed settings.randomSeed).2
    random := (platform.seed settings.randomSeed).1
    log := LogRing.create settings.maxLogEntries
    scheduler := Scheduler.create settings.maxCallbacksPerTick }

/-- The instance with a serial number. -/
def component (s : Session) (serial : Nat) : Component :=
  s.store.getD serial default

/-- The serial number of the registered instance with a name. -/
def lookup? (s : Session) (name : String) : Option Nat :=
  (s.registry.find? (·.1 == name)).map (·.2)

/-- The registered instances, in creation order. -/
def registered (s : Session) : List (Nat × Component) :=
  s.registry.map fun (_, serial) => (serial, s.component serial)

/-- The serial numbers of the active registered instances, in creation order. -/
def activeSerials (s : Session) : List Nat :=
  (s.registry.map (·.2)).filter fun serial => (s.component serial).active

/-- The entity driven by the innermost running component. -/
def currentEntity? (s : Session) : Option Entity :=
  s.callStack.head?.bind s.world.driving?

/-- Change the instance with a serial number. -/
def modifyComponent (s : Session) (serial : Nat) (f : Component → Component) : Session :=
  { s with store := s.store.modify serial f }

end Session

namespace Sim

/-- Write a diagnostic line of the host. -/
def note (level : LogLevel) (channel message : String) : Sim Unit :=
  modify fun s => { s with trace := s.trace.push ⟨level, channel, message⟩ }

/-- Append a log entry, filed under `entity` or else under the current entity. -/
def log (level : LogLevel) (message : String) (entity : Option Nat := none) : Sim Unit :=
  modify fun s =>
    let entity := entity.orElse fun _ => s.currentEntity?.map (·.id)
    { s with
      log := s.log.push ⟨level, message, entity⟩
      trace := s.trace.push ⟨level, "soulscript.simulation", message⟩ }

/-- Change the instance with a serial number. -/
def modifyComponent (serial : Nat) (f : Component → Component) : Sim Unit :=
  modify fun s => s.modifyComponent serial f

/-- The instance with a serial number. -/
def component (serial : Nat) : Sim Component := do
  return (← get).component serial

/-- Count one use of a built-in function. -/
def countUse (name : String) : Sim Unit :=
  modify fun s =>
    if s.usage.any (·.1 == name) then
      { s with usage := s.usage.map fun u => if u.1 == name then (name, u.2 + 1) else u }
    else { s with usage := s.usage ++ [(name, 1)] }

/-- Give the temporaries inside a value identities, now that it is shared: stored where it can be reached again. -/
def share (v : Value) : Sim Value := do
  let s ← get
  let (v, nextIdent) := v.stamp s.nextIdent
  set { s with nextIdent }
  return v

/-- Give the components of a vector identities, now that it is shared: stored where it can be reached again. -/
def shareVec2 (v : Vec2) : Sim Vec2 := do
  let s ← get
  let (v, nextIdent) := v.stamp s.nextIdent
  set { s with nextIdent }
  return v

/-- A uniform double from the session's random source. -/
def uniform : Sim Float := do
  let s ← get
  let (x, random) := s.random.uniform
  set { s with random }
  return x

end Sim

end GameScript

import GameScript.Session.Host

/-!
# Host requests

A host drives a session with a sequence of requests. `Session.perform`
answers one request: its reply (or the failure that ended it), the session
after it, and the log entries it appended that the ring still keeps.
-/

namespace GameScript

/-- One request of a host to a session. -/
inductive Request where
  | load (source : String) (positions : List (String × Vec2))
  | tick (dt : Option Number)
  | ticks (count : Nat) (dt : Option Number)
  | call (component method : String) (args : List Value)
  | update (component : String) (dt : Option Number)
  | updateAll (dt : Option Number)
  | broadcast (event : String) (payload : Value)
  | subscribe (event handler : String)
  | createEntity (kind : String) (position : Option Vec2) (component : Option String)
  | destroyEntity (target : Value)
  | getEntity (id : Option Int)
  | destroyComponent (name : String)
  | removeComponent (name : String)
  | createComponent (source : String) (index : Int) (instanceName : Option String)
  | builtin (name : String) (args : List Value)
  | evaluate (source : String) (component : Option String) (scope : List (String × Value))
  | schedule (delay : Number) (component method : String) (args : List Value)
  | cancel (id : Int)
  | logs (level : Option LogLevel)
  | clearLogs
  | snapshot
  | reset
  | describe
  | stats
  deriving Inhabited

/-- The reply to a request. -/
inductive Reply where
  | done
  | truth (b : Bool)
  | count (n : Nat)
  | value (v : Value)
  | text (s : String)
  | loaded (report : LoadReport)
  | entity (e : Option Entity)
  | entries (es : List LogEntry)
  | entities (es : List Entity)
  | counters
  /-- The request's source text did not parse. -/
  | syntaxError (e : SyntaxError)
  deriving Inhabited

namespace Sim

/-- Run the ticks of a `ticks` request, stopping at the first failure. -/
def repeatTicks (dt : Option Number) : Nat → Sim Unit
  | 0 => pure ()
  | n + 1 => do
    tick dt
    repeatTicks dt n

/-- Answer one request. -/
def answer (request : Request) : Sim Reply := do
  let s ← get
  let step (dt : Option Number) : Number := dt.getD (.float s.settings.tickDelta)
  match request with
  | .load source positions => return .loaded (← load source positions)
  | .tick dt => tick dt; return .done
  | .ticks n dt => repeatTicks dt n; return .done
  | .call name method args => return .truth (← call name method args)
  | .update name dt => updateComponent (Session.hostFrames - 1) name (step dt); return .done
  | .updateAll dt => updateAll (Session.hostFrames - 2) (step dt); return .done
  | .broadcast event payload => return .count (← broadcast Session.hostFrames event payload)
  | .subscribe event handler => subscribe event handler; return .done
  | .createEntity kind position name =>
    let id ← createEntity Session.hostFrames kind position (name.bind s.lookup?)
    return .entity ((← get).world.find? id)
  | .destroyEntity target => return .truth (← destroyEntity Session.hostFrames target)
  | .getEntity id =>
    return .entity (id.bind fun n => if n < 0 then none else s.activeEntity? n.toNat)
  | .destroyComponent name => return .truth (← destroyComponent name)
  | .removeComponent name => return .truth (← removeComponent name)
  | .createComponent source index name =>
    match ← createComponent source index name with
    | .ok made => return .text made
    | .error e => return .syntaxError e
  | .builtin name args => return .value (← callBuiltin Session.hostFrames name args)
  | .evaluate source name scope =>
    match ← evaluateText source name scope with
    | .ok v => return .value v
    | .error e => return .syntaxError e
  | .schedule delay name method args => return .count (← schedule delay name method args)
  | .cancel id => if id < 0 then return .truth false else return .truth (← cancel id.toNat)
  | .logs level => return .entries (s.log.view level)
  | .clearLogs => clearLogs; return .done
  | .snapshot => return .entities s.world.active
  | .reset => reset; return .done
  | .describe => return .text s.describe
  | .stats => return .counters

end Sim

namespace Session

/--
Perform a request: the reply or the failure that ended it, the session after
it, and the log entries it appended that are still kept.
-/
def perform (s : Session) (request : Request) : Except Fault Reply × Session × List LogEntry :=
  let mark := s.log.arrived
  match (Sim.answer request).run s with
  | .ok reply t => (.ok reply, t, t.log.since mark)
  | .error fault t => (.error fault, t, t.log.since mark)

end Session

end GameScript

import GameScript.Number.Text

/-!
# The simulation log

The log is what a running simulation reports: a bounded ring of entries, each
a level, a message and the entity it concerns, if any. When the ring is full
the oldest entry is dropped. Entries are numbered as they arrive, so a caller
can ask which entries arrived since a given point and are still kept.

Every entry, and every diagnostic line of the host, is also a `HostRecord`:
a level, the name of the channel that wrote it and the message. These records
are what a host printing diagnostics shows.
-/

namespace GameScript

/-- How serious a log entry is. -/
inductive LogLevel where
  | info | warning | error | debug
  deriving Repr, DecidableEq, Inhabited

namespace LogLevel

/-- The lower-case name of a level, as entries show it. -/
def tag : LogLevel → String
  | .info => "info" | .warning => "warning" | .error => "error" | .debug => "debug"

/-- The upper-case name of a level, as host diagnostics show it. -/
def label : LogLevel → String
  | .info => "INFO" | .warning => "WARNING" | .error => "ERROR" | .debug => "DEBUG"

/-- The level with a given lower-case name. -/
def ofTag? (s : String) : Option LogLevel :=
  [LogLevel.info, .warning, .error, .debug].find? (·.tag == s)

/-- The numeric severity of a level: debug 10, info 20, warning 30, error 40. -/
def severity : LogLevel → Nat
  | .debug => 10 | .info => 20 | .warning => 30 | .error => 40

end LogLevel

/-- One log entry. -/
structure LogEntry where
  level : LogLevel
  message : String
  entity : Option Nat
  deriving Repr, DecidableEq, Inhabited

/-- One diagnostic line of the host: its level, the channel that wrote it and the message. -/
structure HostRecord where
  level : LogLevel
  channel : String
  message : String
  deriving Repr, DecidableEq, Inhabited

/-- The last `capacity` log entries, each with its arrival number, oldest first. -/
structure LogRing where
  capacity : Nat
  entries : List (Nat × LogEntry) := []
  arrived : Nat := 0
  deriving Inhabited

namespace LogRing

/-- An empty ring keeping `capacity` entries. -/
def create (capacity : Nat) : LogRing := { capacity }

/-- Append an entry, dropping the oldest ones beyond the capacity. -/
def push (r : LogRing) (e : LogEntry) : LogRing :=
  let entries := r.entries ++ [(r.arrived, e)]
  { r with entries := entries.drop (entries.length - r.capacity), arrived := r.arrived + 1 }

/-- The kept entries, oldest first, optionally only those of one level. -/
def view (r : LogRing) (level : Option LogLevel := none) : List LogEntry :=
  (r.entries.map (·.2)).filter fun e => level.all (· == e.level)

/-- The kept entries that arrived at or after arrival number `mark`. -/
def since (r : LogRing) (mark : Nat) : List LogEntry :=
  (r.entries.filter (·.1 ≥ mark)).map (·.2)

/-- The ring emptied; arrival numbers go on. -/
def clear (r : LogRing) : LogRing := { r with entries := [] }

end LogRing

end GameScript

import GameScript.Value.Arithmetic
import GameScript.Order.Heap
import GameScript.Order.Runs

/-!
# Callbacks on the simulation clock

A scheduler holds method calls waiting for a time on the simulation clock. The
clock moves only when the simulation advances it. Calls are ordered by time,
and calls due at the same time by the order they were scheduled (their
sequence number). Ids and sequence numbers start at one and zero and only grow
until the scheduler is reset.

The calls sit in a binary heap (`Heap`). Cancelling only marks a call; the
mark is seen when the call reaches the root and is popped. A time that is not
a number is unordered against every time, so where such a call sits, and
when it comes out, follows from the heap's exact moves.

`Scheduler.popDue` pops the calls at the root while they are due, at most a
given number of live ones, and keeps the rest for later. `Scheduler.pending`
lists the live calls sorted by `Runs.sort` from their heap order. Counters
record how many calls were scheduled, fired and cancelled, and how many wait.
-/

namespace GameScript

/-- A method call waiting for its time. -/
structure Callback where
  id : Nat
  time : Float
  sequence : Nat
  component : String
  method : String
  args : List Value
  /-- A cancelled call stays in the heap until it is popped, and is then dropped. -/
  cancelled : Bool := false
  deriving Inhabited

/-- Running totals of a scheduler. -/
structure SchedulerStats where
  scheduled : Nat := 0
  fired : Nat := 0
  cancelled : Nat := 0
  waiting : Nat := 0
  deriving Repr, DecidableEq, Inhabited

/-- The calls waiting on the simulation clock. -/
structure Scheduler where
  /-- The current time of the clock. -/
  now : Float := 0.0
  /-- How many calls `popDue` hands out when no limit is given. -/
  perTick : Int := 100
  /-- The scheduled calls not yet popped, cancelled ones included, as a heap in due order. -/
  queue : Array Callback := #[]
  nextId : Nat := 1
  nextSequence : Nat := 0
  stats : SchedulerStats := {}
  deriving Inhabited

namespace Callback

/--
Due order: the earlier time first, and of two calls whose times are equal the
one scheduled first. Times that differ but are unordered (a not-a-number) put
neither call first.
-/
def before (a b : Callback) : Bool :=
  if a.time != b.time then a.time < b.time else a.sequence < b.sequence

end Callback

namespace Scheduler

/-- A fresh scheduler whose `popDue` hands out at most `perTick` calls by default. -/
def create (perTick : Int) : Scheduler := { perTick }

/-- How long a call waits: its delay when that is above zero, and no time otherwise (a not-a-number included). -/
def wait (delay : Number) : Number :=
  if Number.compare? delay (.float 0.0) == some .gt then delay else .float 0.0

/-- The calls that wait: those in the heap not cancelled. -/
def live (s : Scheduler) : List Callback := s.queue.toList.filter (!·.cancelled)

/-- How many calls wait. -/
def size (s : Scheduler) : Nat := s.live.length

/--
Schedule `method` of `component` to run when its `wait` from now is over.
The id is taken first, so a delay that cannot be added to the clock (an
integer beyond the doubles) still uses one up. Answers the new call.
-/
def schedule (s : Scheduler) (delay : Number) (component method : String) (args : List Value) :
    Except Fault Callback × Scheduler :=
  let id := s.nextId
  let s := { s with nextId := id + 1 }
  match (wait delay).toFloat with
  | .error fault => (.error fault, s)
  | .ok w =>
    let c : Callback := { id, time := s.now + w, sequence := s.nextSequence, component, method, args }
    (.ok c,
      { s with
        queue := Heap.push Callback.before s.queue c
        nextSequence := s.nextSequence + 1
        stats := { s.stats with scheduled := s.stats.scheduled + 1, waiting := s.stats.waiting + 1 } })

/-- Cancel a waiting call; false when no live call has that id. -/
def cancel (s : Scheduler) (id : Nat) : Bool × Scheduler :=
  if s.live.any (·.id == id) then
    (true,
      { s with
        queue := s.queue.map fun c => if c.id == id then { c with cancelled := true } else c
        stats := { s.stats with cancelled := s.stats.cancelled + 1, waiting := s.stats.waiting - 1 } })
  else (false, s)

/-- Move the clock on by `dt`; an integer beyond the doubles fails and leaves the clock. -/
def advance (s : Scheduler) (dt : Number) : Except Fault Scheduler := do
  let step ← dt.toFloat
  return { s with now := s.now + step }

/--
Pop calls while the root is due at `now` and fewer than `limit` live calls
were taken; cancelled calls popped on the way are dropped. Each round pops
one call, so the heap's size is enough fuel.
-/
def drain (now : Float) (limit : Int) : Nat → Array Callback → List Callback → List Callback × Array Callback
  | 0, heap, due => (due, heap)
  | fuel + 1, heap, due =>
    match heap[0]? with
    | some root =>
      if root.time <= now && (due.length : Int) < limit then
        match Heap.pop Callback.before heap with
        | some (c, heap) => drain now limit fuel heap (if c.cancelled then due else due ++ [c])
        | none => (due, heap)
      else (due, heap)
    | none => (due, heap)

/-- Hand out the calls due now, at most `limit` (by default `perTick`), in the order they pop. -/
def popDue (s : Scheduler) (limit : Option Int := none) : List Callback × Scheduler :=
  let (due, left) := drain s.now (limit.getD s.perTick) s.queue.size s.queue []
  (due,
    { s with
      queue := left
      stats := { s.stats with fired := s.stats.fired + due.length,
                              waiting := s.stats.waiting - due.length } })

/-- The scheduler as new: clock at zero, no calls, ids and counters from the start. -/
def reset (s : Scheduler) : Scheduler := create s.perTick

/-- The waiting calls, sorted into due order from their order in the heap. -/
def pending (s : Scheduler) : List Callback := Runs.sort Callback.before s.live

/-- Scheduled, fired, cancelled and waiting counts. -/
def counts (s : Scheduler) : List Nat :=
  [s.stats.scheduled, s.stats.fired, s.stats.cancelled, s.stats.waiting]

end Scheduler

end GameScript

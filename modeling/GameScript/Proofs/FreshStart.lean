import GameScript.Proofs.TwinHost
import GameScript.Proofs.Invariants

/-!
# Starting over is starting afresh

A reset empties a session and reseeds its random source, but it keeps three
things a new session does not have: the counter of object identities, the
arrival count of the log with the one entry the reset itself writes, and the
counts of statements, methods and built-in calls.  None of them changes what
a host sees.  A session reset from any state a host reaches is a twin of a
new session with the same settings: its identities are moved up by those it
handed out before, and its log also keeps the reset's entry.  So every
sequence of requests whose values carry no identity runs after the reset as
it runs on the new session: alike replies, the same log entries request by
request, and twins at the end (`reset_starts_afresh`).

Two facts of every reachable session enter the argument: its log keeps the
configured number of entries, and it has handed out no identity 0.  Both
come from a session being a twin of itself at no offset
(`Reachable.selfTwin`).
-/

namespace GameScript

/-- The offset of a session from its own copy: nothing moved. -/
def Offset.none : Offset where
  ident := 0
  arrival := 0
  front := []
  earlier := nofun

/-- The entry a reset writes. -/
def resetEntry : LogEntry := ⟨.info, "Interpreter reset", none⟩

/--
How a session reset from `s` runs ahead of a new one: by the identities `s`
handed out, and by the log entries that arrived in `s` and the reset's own,
which it still keeps.
-/
def Session.resetOffset (s : Session) : Offset where
  ident := s.nextIdent - 1
  arrival := s.log.arrived + 1
  front := [(s.log.arrived, resetEntry)]
  earlier := by simp

namespace LogRing

/-- A ring emptied and given one entry follows a new ring of its size, that entry in front. -/
theorem follows_clear_push (r : LogRing) (e : LogEntry) {o : Offset}
    (arrival : o.arrival = r.arrived + 1) (front : o.front = [(r.arrived, e)]) :
    (r.clear.push e).Follows o (LogRing.create r.capacity) := by
  refine ⟨rfl, by simp [LogRing.push, LogRing.clear, LogRing.create, arrival], 1 - r.capacity, ?_⟩
  simp [LogRing.push, LogRing.clear, LogRing.create, front]

end LogRing

namespace Session

/-- A new session is a twin of itself. -/
theorem Twin.create_self (settings : Settings) (platform : Platform) :
    (Session.create settings platform).Twin Offset.none (Session.create settings platform) where
  settings := rfl
  platform := rfl
  random := rfl
  log := ⟨rfl, rfl, 0, rfl⟩
  capacity := rfl
  store := Array.map_empty.symm
  registry := rfl
  world := World.shift_empty.symm
  events := rfl
  scheduler := (Scheduler.shift_create _).symm
  time := rfl
  ticks := rfl
  inTick := rfl
  pendingEntities := rfl
  pendingComponents := rfl
  destroying := rfl
  callStack := rfl
  nextIdent := rfl
  counting := Nat.one_pos

/-- Every session a host reaches is a twin, at no offset, of some session. -/
theorem Reachable.selfTwin {s : Session} (reachable : s.Reachable) :
    ∃ u : Session, u.Twin Offset.none s := by
  induction reachable with
  | start settings platform => exact ⟨_, Twin.create_self settings platform⟩
  | step request _ twin =>
    obtain ⟨u, twin⟩ := twin
    exact ⟨_, (twin.perform request).2.1⟩

/-- The log of a session a host reaches keeps the configured number of entries. -/
theorem Reachable.capacity {s : Session} (reachable : s.Reachable) :
    s.log.capacity = s.settings.maxLogEntries :=
  reachable.selfTwin.elim fun _ twin => twin.capacity

/-- A session a host reaches has handed out no identity 0. -/
theorem Reachable.counting {s : Session} (reachable : s.Reachable) : 0 < s.nextIdent :=
  reachable.selfTwin.elim fun _ twin => twin.counting

variable {s : Session}

/-- What a reset leaves: an empty session, reseeded, with the reset's entry alone in the log. -/
theorem perform_reset : (s.perform .reset).2.1 =
    { s with
      registry := []
      store := #[]
      world := {}
      events := {}
      scheduler := s.scheduler.reset
      log := s.log.clear.push ⟨.info, "Interpreter reset",
        (s.callStack.head?.bind ({} : World).driving?).map (·.id)⟩
      platform := (s.platform.seed s.settings.randomSeed).2
      random := (s.platform.seed s.settings.randomSeed).1
      time := 0.0
      ticks := 0
      pendingEntities := []
      pendingComponents := []
      trace := (s.trace.push ⟨.info, "soulscript.simulation", "Interpreter reset"⟩).push
        ⟨.debug, "soulscript.interpreter", "Interpreter reset"⟩ } :=
  rfl

/--
A session reset from rest, with a log of the configured size, a scheduler of
the configured limit and no identity 0 handed out, is a twin of a new session
with its settings on its platform. At rest no method runs, so the reset's
entry is filed under no entity.
-/
theorem Twin.reset_create (rest : s.AtRest) (limited : s.Limited)
    (capacity : s.log.capacity = s.settings.maxLogEntries) (counting : 0 < s.nextIdent) :
    (s.perform .reset).2.1.Twin s.resetOffset (Session.create s.settings s.platform) := by
  rw [perform_reset, rest.callStack]
  constructor
  case settings => rfl
  case platform => rfl
  case random => rfl
  case log =>
    have follows := LogRing.follows_clear_push s.log resetEntry (o := s.resetOffset) rfl rfl
    rw [capacity] at follows
    exact follows
  case capacity => rfl
  case store => exact Array.map_empty.symm
  case registry => rfl
  case world => exact World.shift_empty.symm
  case events => rfl
  case scheduler =>
    show Scheduler.create s.scheduler.perTick =
      (Scheduler.create s.settings.maxCallbacksPerTick).shift s.resetOffset.ident
    rw [Scheduler.shift_create, limited]
  case time => rfl
  case ticks => rfl
  case inTick => exact rest.inTick
  case pendingEntities => rfl
  case pendingComponents => rfl
  case destroying => exact rest.destroying
  case callStack => rfl
  case nextIdent =>
    show s.nextIdent = 1 + (s.nextIdent - 1)
    omega
  case counting => exact Nat.one_pos

/--
A reset is a fresh start. From any session a host reaches, the session a reset
leaves runs every sequence of requests whose values carry no identity as a new
session with the same settings on the same platform runs it: request by
request the results are alike (the same fault, or replies equal but for
identities, and for the reset's entry, which a read of the log may still show)
and the new log entries are the same, and the sessions at the end are twins.
The offset between the two runs keeps exactly the reset's entry in front.
Plain requests are the same in both runs.
-/
theorem reset_starts_afresh (reachable : s.Reachable) (requests : List Request)
    (plain : ∀ request ∈ requests, request.Plain) :
    ∃ o : Offset, o.front.map (·.2) = [resetEntry] ∧
      List.Forall₂ (fun a b => Reply.ResultAlike o a.1 b.1 ∧ a.2 = b.2)
        ((s.perform .reset).2.1.performAll requests).1
        ((Session.create s.settings s.platform).performAll requests).1 ∧
      ((s.perform .reset).2.1.performAll requests).2.Twin o
        ((Session.create s.settings s.platform).performAll requests).2 := by
  have sound := reachable.sound
  have start := Twin.reset_create sound.toAtRest sound.limited reachable.capacity reachable.counting
  have unmoved : requests.map (Request.shift s.resetOffset.ident) = requests :=
    calc requests.map (Request.shift s.resetOffset.ident)
        _ = requests.map id := List.map_congr_left fun request member => plain request member _
        _ = requests := List.map_id requests
  have run := start.performAll requests
  rw [unmoved] at run
  exact ⟨s.resetOffset, rfl, run⟩

/-- A loaded session, reset, then ticked and its log read: the hypotheses can be met. -/
theorem loaded_reset_starts_afresh :
    ((Session.create {} default).perform (.load "component A \x7b \x7d" [])).2.1.Reachable ∧
    (∀ request ∈ [Request.tick none, .logs none], request.Plain) ∧
    ∃ o : Offset, o.front.map (·.2) = [resetEntry] ∧
      List.Forall₂ (fun a b => Reply.ResultAlike o a.1 b.1 ∧ a.2 = b.2)
        ((((Session.create {} default).perform (.load "component A \x7b \x7d" [])).2.1.perform .reset).2.1.performAll
          [.tick none, .logs none]).1
        ((Session.create
          ((Session.create {} default).perform (.load "component A \x7b \x7d" [])).2.1.settings
          ((Session.create {} default).perform (.load "component A \x7b \x7d" [])).2.1.platform).performAll
          [.tick none, .logs none]).1 ∧
      ((((Session.create {} default).perform (.load "component A \x7b \x7d" [])).2.1.perform .reset).2.1.performAll
          [.tick none, .logs none]).2.Twin o
        ((Session.create
          ((Session.create {} default).perform (.load "component A \x7b \x7d" [])).2.1.settings
          ((Session.create {} default).perform (.load "component A \x7b \x7d" [])).2.1.platform).performAll
          [.tick none, .logs none]).2 := by
  have reachable : ((Session.create {} default).perform (.load "component A \x7b \x7d" [])).2.1.Reachable :=
    .step _ (.start {} default)
  have plain : ∀ request ∈ [Request.tick none, .logs none], request.Plain := by
    intro request member d
    simp only [List.mem_cons, List.not_mem_nil, or_false] at member
    rcases member with rfl | rfl <;> rfl
  exact ⟨reachable, plain, reset_starts_afresh reachable _ plain⟩

end Session

end GameScript

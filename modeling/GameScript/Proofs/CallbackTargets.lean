import GameScript.Proofs.HeapOrder
import GameScript.Proofs.TickPhases
import GameScript.Proofs.PrintedRoundTrip
import GameScript.Proofs.JoinedLoad

/-!
# Which instance a due call runs on

The scheduler keeps, for each waiting call, the name of the instance that
scheduled it and not the instance itself.  `scheduleCallback` adds one call,
naming the instance on top of the call stack
(`scheduleCallback_adds_only_its_runner`).  When the callback phase of a tick
takes the due calls off the queue, each call is looked up by that name in the
registry as it stands when the phase begins, and runs on the instance found
there if that instance is active (`runDueCallbacks_by_name`).  Running
scripts never change the registry, so a name finds the same instance all
through the phase.

In every session a host reaches the registry names each instance once, under
the name it carries, so a name finds exactly the registered instance that
carries it (`Named.lookup?_eq_some`).  The instance that scheduled a call
therefore receives it for as long as it stays registered.  Once it is removed
its name is free again, and an instance registered later under that name
receives the call in its place: `due_call_reaches_later_namesake` follows a
run of four host requests where this happens.  Its steps are read off lemmas
that say how each request changes a session beyond its books (`BooksOnly`).
-/

namespace GameScript

namespace Scheduler

/-- Every call live in `t` was live in `s` already or names `component`. -/
def AddsOnly (s t : Scheduler) (component : String) : Prop :=
  ∀ cb ∈ t.live, cb ∈ s.live ∨ cb.component = component

theorem AddsOnly.refl (s : Scheduler) (component : String) : s.AddsOnly s component :=
  fun _ member => .inl member

/-- Scheduling adds at most one live call, the new one, which names `component`. -/
theorem addsOnly_schedule (s : Scheduler) (delay : Number) (component method : String)
    (args : List Value) : s.AddsOnly (s.schedule delay component method args).2 component := by
  intro cb member
  simp only [schedule] at member
  split at member
  · exact .inl member
  · simp only [live, List.mem_filter, Heap.mem_push] at member
    obtain ⟨waiting | rfl, live⟩ := member
    · exact .inl (List.mem_filter.2 ⟨waiting, live⟩)
    · exact .inr rfl

end Scheduler

namespace Session

/--
In a session whose registry names each instance once under the name it
carries, a name finds an instance exactly when that instance is registered
and carries the name.
-/
theorem Named.lookup?_eq_some {s : Session} (named : s.Named) {name : String} {serial : Nat} :
    s.lookup? name = some serial ↔
      serial ∈ s.registry.map (·.2) ∧ (s.component serial).name = name := by
  constructor
  · intro found
    obtain ⟨p, first, rfl⟩ := Option.map_eq_some_iff.1 found
    have member := List.mem_of_find?_eq_some first
    have same : p.1 = name := by simpa using List.find?_some first
    exact ⟨List.mem_map_of_mem member, (named.2 p member).2.trans same⟩
  · rintro ⟨registered, rfl⟩
    exact named.lookup?_name registered

end Session

namespace Sim

open Session

/--
A due call's turn at the instance with serial number `serial`: nothing unless
that instance is active, a warning when it has no such method, and otherwise
the method with the call's arguments.
-/
def callbackOn (serial : Nat) (cb : Callback) : Sim Unit := do
  let c ← component serial
  if c.active then
    match c.method? cb.method with
    | none => log .warning ("Unknown function: " ++ cb.method)
    | some m =>
      runMethod (hostFrames - 2) serial m cb.args
        ("Error in callback " ++ c.name ++ "." ++ cb.method)

/-- A due call's turn at the instance `target` names, and nothing when it names none. -/
def callbackAt (target : Option Nat) (cb : Callback) : Sim Unit :=
  target.elim (pure ()) (callbackOn · cb)

/-- A due call's turn is its turn at the instance its name finds when the turn comes. -/
theorem callbackTurn_run (cb : Callback) (v : Session) :
    (callbackTurn cb).run v = (callbackAt (v.lookup? cb.component) cb).run v := by
  rw [callbackTurn, EStateM.run_bind, EStateM.run_get]
  dsimp only
  cases v.lookup? cb.component <;> rfl

theorem callbackOn_evolves (serial : Nat) (cb : Callback) :
    Keeps Evolves (fun _ => True) (callbackOn serial cb) := by
  unfold callbackOn
  refine Keeps.bind (evolves_steps.quietly (component_quiet (fun _ => True) serial)) fun c => ?_
  split
  · split
    · exact evolves_steps.log_keeps _ _ _
    · exact (evolves_runs _).runMethod _ _ _ _
  · exact Keeps.pure _

theorem callbackAt_evolves (target : Option Nat) (cb : Callback) :
    Keeps Evolves (fun _ => True) (callbackAt target cb) := by
  cases target with
  | none => exact Keeps.pure _
  | some serial => exact callbackOn_evolves serial cb

/-- A turn at an inactive instance runs nothing and changes nothing. -/
theorem callbackOn_of_inactive {u : Session} {serial : Nat}
    (inactive : (u.component serial).active = false) (cb : Callback) :
    (callbackOn serial cb).run u = .ok () u := by
  simp [callbackOn, component, inactive]

/--
Along the callback phase the registry stays that of `u`, so every due call
finds the instance it would have found in `u`.
-/
theorem forM_callbackTurn_run (u : Session) (cbs : List Callback) :
    ∀ v : Session, v.registry = u.registry →
      (cbs.forM callbackTurn).run v =
        (cbs.forM fun cb => callbackAt (u.lookup? cb.component) cb).run v := by
  induction cbs with
  | nil => intro _ _; rfl
  | cons cb rest more =>
    intro v kept
    have found : v.lookup? cb.component = u.lookup? cb.component := by
      simp only [lookup?, kept]
    rw [List.forM_eq_forM, List.forM_cons, List.forM_cons, EStateM.run_bind, EStateM.run_bind,
      callbackTurn_run, found]
    cases ran : (callbackAt (u.lookup? cb.component) cb).run v with
    | ok _ w =>
      exact more w (((callbackAt_evolves _ cb).of_run ran).registry.trans kept)
    | error _ _ => rfl

/--
The callback phase takes the due calls off the queue and gives each a turn at
the instance its name finds in the registry as the phase begins.
-/
theorem runDueCallbacks_by_name (u : Session) :
    runDueCallbacks.run u =
      (u.scheduler.popDue.1.forM fun cb => callbackAt (u.lookup? cb.component) cb).run
        { u with scheduler := u.scheduler.popDue.2 } := by
  rw [runDueCallbacks_eq, EStateM.run_bind, EStateM.run_get]
  dsimp only
  rw [EStateM.run_bind, EStateM.run_set]
  exact forM_callbackTurn_run u _ _ rfl

/--
`scheduleCallback`, run by the instance `serial` on top of the call stack,
adds no live call that names another instance, whether it answers or fails.
-/
theorem scheduleCallback_adds_only_its_runner {s : Session} {serial : Nat}
    (running : s.callStack.head? = some serial) (args : List Value) :
    Ends (Builtin.timing "scheduleCallback" args) s
      (fun _ t => s.scheduler.AddsOnly t.scheduler (s.component serial).name)
      (fun _ t => s.scheduler.AddsOnly t.scheduler (s.component serial).name) := by
  rw [Builtin.timing, ends_bind, ends_get]
  simp only []
  rw [ends_bind, ends_ofExcept]
  refine ⟨fun method _ => ?_, fun _ _ => Scheduler.AddsOnly.refl _ _⟩
  rw [running]
  dsimp only
  rw [ends_bind, ends_set, ends_bind, ends_ofExcept]
  refine ⟨fun c _ => ?_, fun _ _ => Scheduler.addsOnly_schedule _ _ _ _ _⟩
  simp only [note, ends_bind, ends_modify, ends_pure]
  exact Scheduler.addsOnly_schedule _ _ _ _ _

/--
Due calls are bound to names. A call `scheduleCallback` adds names the
instance that ran it. The callback phase of a tick from a session `s` a host
reaches gives each due call its turn at the instance its name finds in the
registry of `s`, which is exactly the registered instance carrying that name.
A turn at an inactive instance does nothing. So the instance that scheduled a
call receives it while it stays registered, and after its removal whichever
instance holds its name by then. The tick starts its callbacks from `s` with
its clocks moved on, so the registry they read is that of `s`.
-/
theorem due_calls_bound_by_instance_name {s : Session} (reachable : s.Reachable) (step : Float) :
    (∀ (u : Session) (serial : Nat) (args : List Value), u.callStack.head? = some serial →
      Ends (Builtin.timing "scheduleCallback" args) u
        (fun _ t => u.scheduler.AddsOnly t.scheduler (u.component serial).name)
        (fun _ t => u.scheduler.AddsOnly t.scheduler (u.component serial).name)) ∧
    runDueCallbacks.run (s.started step) =
      ((s.started step).scheduler.popDue.1.forM fun cb => callbackAt (s.lookup? cb.component) cb).run
        { s.started step with scheduler := (s.started step).scheduler.popDue.2 } ∧
    (∀ (name : String) (serial : Nat), s.lookup? name = some serial ↔
      serial ∈ s.registry.map (·.2) ∧ (s.component serial).name = name) ∧
    (∀ (u : Session) (serial : Nat) (cb : Callback), (u.component serial).active = false →
      (callbackOn serial cb).run u = .ok () u) := by
  have phase := runDueCallbacks_by_name (s.started step)
  refine ⟨fun u serial args running => scheduleCallback_adds_only_its_runner running args,
    phase, fun name serial => reachable.sound.named.lookup?_eq_some,
    fun u serial cb inactive => callbackOn_of_inactive inactive cb⟩

/-- A fresh session: the hypothesis can be met. -/
theorem fresh_due_calls_bound_by_instance_name :
    (Session.create {} default).Reachable ∧
    ((∀ (u : Session) (serial : Nat) (args : List Value), u.callStack.head? = some serial →
      Ends (Builtin.timing "scheduleCallback" args) u
        (fun _ t => u.scheduler.AddsOnly t.scheduler (u.component serial).name)
        (fun _ t => u.scheduler.AddsOnly t.scheduler (u.component serial).name)) ∧
    runDueCallbacks.run ((Session.create {} default).started 0.0) =
      (((Session.create {} default).started 0.0).scheduler.popDue.1.forM fun cb =>
          callbackAt ((Session.create {} default).lookup? cb.component) cb).run
        { (Session.create {} default).started 0.0 with
            scheduler := ((Session.create {} default).started 0.0).scheduler.popDue.2 } ∧
    (∀ (name : String) (serial : Nat), (Session.create {} default).lookup? name = some serial ↔
      serial ∈ (Session.create {} default).registry.map (·.2) ∧
        ((Session.create {} default).component serial).name = name) ∧
    (∀ (u : Session) (serial : Nat) (cb : Callback), (u.component serial).active = false →
      (callbackOn serial cb).run u = .ok () u)) :=
  ⟨.start {} default, due_calls_bound_by_instance_name (.start {} default) 0.0⟩

end Sim

/-! ## A due call that outlives its instance -/

namespace Session

/--
`t` is `s` but for its books (the log, the trace, the run counters and the use
counts): the settings, the instances, the registry, the scheduler, the tick flag
and the call stack are those of `s`.
-/
structure BooksOnly (s t : Session) : Prop where
  settings : t.settings = s.settings
  store : t.store = s.store
  registry : t.registry = s.registry
  scheduler : t.scheduler = s.scheduler
  inTick : t.inTick = s.inTick
  callStack : t.callStack = s.callStack

theorem BooksOnly.refl (s : Session) : BooksOnly s s := ⟨rfl, rfl, rfl, rfl, rfl, rfl⟩

theorem BooksOnly.trans {s t u : Session} (first : BooksOnly s t) (second : BooksOnly t u) :
    BooksOnly s u :=
  ⟨second.settings.trans first.settings, second.store.trans first.store,
    second.registry.trans first.registry, second.scheduler.trans first.scheduler,
    second.inTick.trans first.inTick, second.callStack.trans first.callStack⟩

theorem BooksOnly.component {s t : Session} (books : BooksOnly s t) (serial : Nat) :
    t.component serial = s.component serial := by
  rw [Session.component, Session.component, books.store]

end Session

/-- The statement `scheduleCallback(x, "method");`. -/
def Stmt.scheduling (x : Float) (method : String) : Stmt :=
  .call "scheduleCallback" [.literal (.number x) {}, .literal (.text method) {}] 0

namespace Sim

open Session

theorem countUse_booksOnly (name : String) (u : Session) :
    Ends (countUse name) u (fun _ t => u.BooksOnly t) (fun _ _ => False) := by
  simp only [countUse, ends_modify]
  split <;> exact ⟨rfl, rfl, rfl, rfl, rfl, rfl⟩

section Scheduling

/-!
The scheduling statement runs through the interpreter from a session `v` that
is `u` up to its books; each step ends in `u` with the new call scheduled, up to
the books.
-/
variable {u v : Session} {serial : Nat} (x : Float) (method : String) {c : Callback}

theorem timing_scheduleCallback (books : u.BooksOnly v) (running : u.callStack.head? = some serial)
    (scheduled : (u.scheduler.schedule (.float x) (u.component serial).name method []).1 = .ok c) :
    Ends (Builtin.timing "scheduleCallback" [.float x 0, .str method]) v
      (fun a t => a = .int c.id ∧
        BooksOnly { u with scheduler := (u.scheduler.schedule (.float x) (u.component serial).name method []).2 } t)
      (fun _ _ => False) := by
  rw [← books.callStack] at running
  rw [← books.scheduler, ← books.component] at scheduled ⊢
  simp [Builtin.timing, Builtin.arg, Session.format, Value.format, running, Value.toNumber, scheduled, note]
  exact ⟨books.settings, books.store, books.registry, rfl, books.inTick, books.callStack⟩

theorem callBuiltin_scheduleCallback (f : Nat) (books : u.BooksOnly v) (running : u.callStack.head? = some serial)
    (scheduled : (u.scheduler.schedule (.float x) (u.component serial).name method []).1 = .ok c) :
    Ends (callBuiltin (f + 1) "scheduleCallback" [.float x 0, .str method]) v
      (fun a t => a = .int c.id ∧
        BooksOnly { u with scheduler := (u.scheduler.schedule (.float x) (u.component serial).name method []).2 } t)
      (fun _ _ => False) := by
  have known : isBuiltin "scheduleCallback" = true := by decide
  have accepted : Builtin.accepts "scheduleCallback" 2 = true := by decide
  have leaf : Builtin.leaf "scheduleCallback" [.float x 0, .str method] =
      Builtin.timing "scheduleCallback" [.float x 0, .str method] := by
    simp only [Builtin.leaf]
    rfl
  simp (disch := decide) only [callBuiltin, known, Bool.not_true, Bool.false_eq_true, if_false, ends_bind]
  refine (countUse_booksOnly _ v).mono (fun _ w counted => ?_) fun _ _ never => never.elim
  simp only [ends_tryCatch, List.length_cons, List.length_nil, accepted, Bool.not_true, Bool.false_eq_true,
    if_false, leaf]
  exact (timing_scheduleCallback x method (books.trans counted) running scheduled).mono
    (fun _ _ ended => ended) fun _ _ never => never.elim

theorem execStmt_scheduling (f : Nat) (scope : Scope) (books : u.BooksOnly v)
    (running : u.callStack.head? = some serial)
    (scheduled : (u.scheduler.schedule (.float x) (u.component serial).name method []).1 = .ok c) :
    Ends (execStmt (f + 5) serial scope (Stmt.scheduling x method)) v
      (fun left t => left = scope ∧
        BooksOnly { u with scheduler := (u.scheduler.schedule (.float x) (u.component serial).name method []).2 } t)
      (fun _ _ => False) := by
  have known : isBuiltin "scheduleCallback" = true := by decide
  simp only [execStmt, Stmt.scheduling, countStatement, evaluateTops, evaluateTop, evaluate, Literal.value,
    String.reduceBEq, Bool.false_eq_true, if_false, known, if_true, ends_bind, ends_modify, ends_pure,
    ends_tryFinally, countEvaluation, ends_discard, Nat.reduceSubDiff]
  exact (callBuiltin_scheduleCallback x method (f + 2) (books.trans (by exact ⟨rfl, rfl, rfl, rfl, rfl, rfl⟩))
    running scheduled).mono (fun _ _ ended => ⟨trivial, ended.2⟩) fun _ _ never => never

/--
A method whose body is the one statement `scheduleCallback(x, "method");`, run
from rest, schedules `method` for the instance running it and changes nothing
else but the books.
-/
theorem runMethod_scheduling (f : Nat) (name : String) (line : Nat) (pfx : String) (books : u.BooksOnly v)
    (idle : u.callStack = []) (deep : 0 < u.settings.maxCallDepth)
    (scheduled : (u.scheduler.schedule (.float x) (u.component serial).name method []).1 = .ok c) :
    Ends (runMethod (f + 8) serial ⟨name, [], [Stmt.scheduling x method], line⟩ [] pfx) v
      (fun _ t =>
        BooksOnly { u with scheduler := (u.scheduler.schedule (.float x) (u.component serial).name method []).2 } t)
      (fun _ _ => False) := by
  have shallow : ¬ v.callStack.length ≥ v.settings.maxCallDepth := by
    rw [books.callStack, idle, books.settings]
    exact Nat.not_le_of_lt deep
  simp only [runMethod, executeMethod, execBlock, ends_tryCatch, ends_bind, List.mapM_nil, ends_pure, ends_get,
    shallow, if_false, ends_set, ends_tryFinally, ends_discard, Scope.ofCall, List.zipIdx_nil, List.foldl_nil]
  have pushed : BooksOnly { u with callStack := [serial] } { v with
      callStack := serial :: v.callStack
      stats := { v.stats with methods := v.stats.methods + 1 } } :=
    ⟨books.settings, books.store, books.registry, books.scheduler, books.inTick, by rw [books.callStack, idle]⟩
  refine (execStmt_scheduling x method f [] pushed rfl scheduled).mono (fun _ t ended => ?_)
    fun _ _ never => never.elim
  simp only [ends_modify]
  obtain ⟨-, settings, store, registry, scheduler, inTick, callStack⟩ := ended
  exact ⟨settings, store, registry, scheduler, inTick, by rw [callStack, idle]; rfl⟩

end Scheduling

/-- A host call of a method whose body, positions apart, is `scheduleCallback(x, "callee");`. -/
theorem perform_call_scheduling {s : Session} {name method callee : String} {serial : Nat} {m : MethodDecl}
    {c : Callback} (x : Float) (found : s.lookup? name = some serial)
    (defined : (s.component serial).method? method = some m)
    (stripped : m.strip = ⟨m.name, [], [Stmt.scheduling x callee], 0⟩) (idle : s.callStack = [])
    (deep : 0 < s.settings.maxCallDepth)
    (scheduled : (s.scheduler.schedule (.float x) (s.component serial).name callee []).1 = .ok c) :
    BooksOnly { s with scheduler := (s.scheduler.schedule (.float x) (s.component serial).name callee []).2 }
      (s.perform (.call name method [])).2.1 := by
  apply perform_session
  simp only [answer, ends_bind, ends_get, Sim.call, found, defined]
  rw [← (ignoresPositions _).runMethod, stripped]
  exact (runMethod_scheduling x callee 986 m.name 0 _ (BooksOnly.refl s) idle deep scheduled).mono
    (fun _ _ ended => ended) fun _ _ never => never.elim

/-- A host removal outside a tick unregisters the name at once and changes nothing else. -/
theorem perform_removeComponent {s : Session} {name : String} {serial : Nat}
    (found : s.lookup? name = some serial) (resting : s.inTick = false) :
    (s.perform (.removeComponent name)).2.1 = { s with registry := s.registry.eraseP (·.1 == name) } := by
  apply perform_session (P := fun t => t = { s with registry := s.registry.eraseP (·.1 == name) })
  simp [answer, removeComponent, found, resting]

/--
Loading a text that reads as one declaration without fields or `init`, with
entities left unbound: one instance is made and registered last, and only the
books change besides.
-/
theorem perform_load_bare {s : Session} {source : String} {d : Declaration}
    (read : Declaration.ofTokens (Token.scan source).1 = .ok [d]) (bare : d.fields = [])
    (noInit : d.methodTable.find? (·.1 == "init") = none) (unbound : s.settings.bindEntities = false) :
    BooksOnly { s with
        store := s.store.push ⟨uniqueName (s.registry.map (·.1)) d.name, d.name, [], d.methodTable, true⟩
        registry := s.registry ++ [(uniqueName (s.registry.map (·.1)) d.name, s.store.size)] }
      (s.perform (.load source [])).2.1 := by
  apply perform_session
  simp only [answer, ends_bind, ends_get]
  obtain ⟨_, ran⟩ := load_run read [] s
  rw [ends_congr_run ran]
  simp only [List.forIn_cons, List.forIn_nil, loadRound, instantiate, ends_bind, ends_get, ends_set, bare,
    ends_pure, ends_modify, note, Sim.log, Sim.component, Session.component, Array.getD_eq_getD_getElem?,
    Array.getElem?_push_size, Option.getD_some, unbound, Bool.false_eq_true, if_false, Component.method?, noInit,
    Option.map_none]
  exact ⟨rfl, rfl, rfl, rfl, rfl, rfl⟩

/-- The statement `scheduleCallback(1, "m");` prints as text that scans back to it. -/
theorem scheduling_printable : (Stmt.scheduling 1.0 "m").Printable := by
  have name : IsName "scheduleCallback" :=
    ⟨'s', "cheduleCallback".toList, rfl, by decide +kernel, List.all_eq_true.1 (by decide +kernel), by decide⟩
  have number : (Literal.number 1.0).Reprints := by
    have spelled : formatFloat 1.0 = "1" := by decide +kernel
    refine ⟨?_, ?_⟩
    · rw [spelled]
      exact ⟨['1'], [], rfl, List.cons_ne_nil _ _, by simp, .inl rfl⟩
    have bits : ((Reading.readFloat? (formatFloat 1.0)).map Float.toModel) = some (1.0 : Float).toModel := by
      decide +kernel
    obtain ⟨y, read, same⟩ := Option.map_eq_some_iff.1 bits
    rw [read]
    cases y
    cases same
    rfl
  have text : (Literal.text "m").Reprints := by simp only [Literal.Reprints]; decide
  refine ⟨name, fun e member => ?_⟩
  simp only [List.mem_cons, List.not_mem_nil, or_false] at member
  rcases member with rfl | rfl
  · exact ⟨by simp [Expr.names], by simp [Expr.literals, number]⟩
  · exact ⟨by simp [Expr.names], by simp [Expr.literals, text]⟩

/--
A due call reaches a later namesake of the instance that scheduled it.  A
session that binds no entities loads `component C { fn m() { scheduleCallback(1, "m"); } }`,
which makes instance 0 under the name `C`; the host calls `C.m`, so instance 0
schedules `m` for the name `C`; the host removes `C` and loads the same text
again, which makes instance 1 under the freed name.  The call is still waiting,
and at the next tick of one second it falls due and gets its turn at
instance 1, which is active and defines `m`, while instance 0 is no longer
registered.
-/
theorem due_call_reaches_later_namesake :
    ∃ (loaded scheduled after : Session) (cb : Callback),
      loaded = ((Session.create { bindEntities := false } default).perform
        (.load (Stmt.scheduling 1.0 "m").inMethod [])).2.1 ∧
      scheduled = (loaded.perform (.call "C" "m" [])).2.1 ∧
      after = ((scheduled.perform (.removeComponent "C")).2.1.perform
        (.load (Stmt.scheduling 1.0 "m").inMethod [])).2.1 ∧
      loaded.registry = [("C", 0)] ∧
      scheduled.scheduler = (loaded.scheduler.schedule (.float 1.0) (loaded.component 0).name "m" []).2 ∧
      after.registry = [("C", 1)] ∧ after.scheduler = scheduled.scheduler ∧
      (after.started 1.0).scheduler.popDue.1 = [cb] ∧ cb.component = "C" ∧
      (after.component 1).active = true ∧ ((after.component 1).method? cb.method).isSome ∧
      runDueCallbacks.run (after.started 1.0) =
        (callbackOn 1 cb).run { after.started 1.0 with scheduler := (after.started 1.0).scheduler.popDue.2 } := by
  obtain ⟨st, line, line', stripped, read⟩ := Stmt.inMethod_reads_back scheduling_printable (by decide)
  have noInit :
      (Declaration.mk "C" [] [⟨"m", [], [st], line'⟩] line).methodTable.find? (·.1 == "init") = none := by
    simp [Declaration.methodTable]
  set s₀ := Session.create { bindEntities := false } default
  set s₁ := (s₀.perform (.load (Stmt.scheduling 1.0 "m").inMethod [])).2.1
  set m : MethodDecl := ⟨"m", [], [st], line'⟩
  have loaded : BooksOnly { s₀ with store := #[⟨"C", "C", [], [("m", m)], true⟩], registry := [("C", 0)] } s₁ :=
    perform_load_bare read rfl noInit rfl
  have found₁ : s₁.lookup? "C" = some 0 := by simp [lookup?, loaded.registry]
  have method₁ : (s₁.component 0).method? "m" = some m := by
    rw [loaded.component]
    rfl
  have body : m.strip = ⟨m.name, [], [Stmt.scheduling 1.0 "m"], 0⟩ := by
    simp only [MethodDecl.strip, m, Stmt.stripList, stripped]
    rfl
  obtain ⟨c, scheduled⟩ : ∃ c, ((Scheduler.create 100).schedule (.float 1.0) "C" "m" []).1 = .ok c := by
    have ok : ((Scheduler.create 100).schedule (.float 1.0) "C" "m" []).1.toBool = true := by decide +kernel
    revert ok
    cases ((Scheduler.create 100).schedule (.float 1.0) "C" "m" []).1 with
    | ok c => exact fun _ => ⟨c, rfl⟩
    | error _ => exact fun refused => absurd refused Bool.false_ne_true
  set s₂ := (s₁.perform (.call "C" "m" [])).2.1
  have called :
      BooksOnly { s₁ with scheduler := ((Scheduler.create 100).schedule (.float 1.0) "C" "m" []).2 } s₂ := by
    have named : (s₁.component 0).name = "C" := by rw [loaded.component]; rfl
    have := perform_call_scheduling 1.0 found₁ method₁ body loaded.callStack
      (by rw [loaded.settings]; exact Nat.succ_pos _) (by rw [loaded.scheduler, named]; exact scheduled)
    rwa [loaded.scheduler, named] at this
  have removed : (s₂.perform (.removeComponent "C")).2.1 = { s₂ with registry := [] } := by
    rw [perform_removeComponent (by simp [lookup?, called.registry, loaded.registry] : s₂.lookup? "C" = some 0)
      (called.inTick.trans loaded.inTick)]
    simp [called.registry, loaded.registry]
  have reloaded := perform_load_bare (s := { s₂ with registry := [] }) read rfl noInit
    (by show s₂.settings.bindEntities = false; rw [called.settings, loaded.settings]; rfl)
  set s₄ := (({ s₂ with registry := [] } : Session).perform (.load (Stmt.scheduling 1.0 "m").inMethod [])).2.1
  have size₂ : s₂.store.size = 1 := by rw [called.store, loaded.store]; rfl
  have registry₄ : s₄.registry = [("C", 1)] := by rw [reloaded.registry, size₂]; rfl
  have component₄ : s₄.component 1 = ⟨"C", "C", [], [("m", m)], true⟩ := by
    rw [reloaded.component]
    show (s₂.store.push _).getD 1 default = _
    rw [← size₂, Array.getD_eq_getD_getElem?, Array.getElem?_push_size]
    rfl
  have clock : (s₄.started 1.0).scheduler =
      { ((Scheduler.create 100).schedule (.float 1.0) "C" "m" []).2 with
          now := ((Scheduler.create 100).schedule (.float 1.0) "C" "m" []).2.now + 1.0 } := by
    simp only [started, reloaded.scheduler]
    rw [called.scheduler]
  obtain ⟨cb, due⟩ : ∃ cb, (s₄.started 1.0).scheduler.popDue.1 = [cb] := by
    rw [clock]
    exact List.length_eq_one_iff.1 (by decide +kernel)
  have target : cb.component = "C" ∧ cb.method = "m" := by
    have named : ((s₄.started 1.0).scheduler.popDue.1.map fun cb => (cb.component, cb.method)) = [("C", "m")] := by
      rw [clock]
      decide +kernel
    rw [due] at named
    simpa using named
  have found₄ : (s₄.started 1.0).lookup? "C" = some 1 := by
    simp [lookup?, started, registry₄]
  refine ⟨s₁, s₂, s₄, cb, rfl, rfl, by rw [removed], loaded.registry, ?_, registry₄, ?_, due, target.1,
    ?_, ?_, ?_⟩
  · rw [called.scheduler, loaded.scheduler, loaded.component]
    rfl
  · rw [reloaded.scheduler]
  · rw [component₄]
  · rw [component₄, target.2]
    rfl
  · rw [runDueCallbacks_by_name, due, List.forM_eq_forM, List.forM_cons, List.forM_nil, target.1, found₄,
      bind_pure_unit]
    rfl

end Sim

end GameScript

import GameScript.Proofs.TwinRuns
import GameScript.Session.Step
import Mathlib.Data.List.Forall2

/-!
# Host requests on twin sessions

Every host operation runs alike on twin sessions, and so does a whole
request: from twins, a request whose values are moved into the session ahead
gets replies a host cannot tell apart, appends the same log entries, and
leaves twins again.

A host's values enter a session through its requests, so a request is moved
as a value is (`Request.shift`), and a reply too (`Reply.shift`).  Replies of
twins are alike when one is the other moved, except that a read of the log
ahead may still show entries from before its twin began (`Reply.Alike`).
One lemma per host operation, each from the interpreter's `runsAlike`, gives
`answer_alike`; `Twin.perform` adds the log entries a request appends, and
`Twin.performAll` runs a whole sequence of requests by induction on it.
-/

namespace GameScript

/-- Positions asked for by name, moved into the session ahead. -/
def movePositions (d : Nat) (positions : List (String × Vec2)) : List (String × Vec2) :=
  positions.map fun entry => (entry.1, entry.2.shift d)

/-- A scheduler made afresh holds no call, so moving leaves it as it is. -/
theorem Scheduler.shift_create {d : Nat} (perTick : Int) :
    (Scheduler.create perTick).shift d = Scheduler.create perTick := by
  simp only [Scheduler.create, Scheduler.shift, Array.map_empty]

/-- A request with every identity in the values it carries moved up by `d`. -/
def Request.shift (d : Nat) : Request → Request
  | .load source positions => .load source (movePositions d positions)
  | .call name method args => .call name method (args.map (Value.shift d))
  | .broadcast event payload => .broadcast event (payload.shift d)
  | .createEntity kind position name => .createEntity kind (position.map (Vec2.shift d)) name
  | .destroyEntity target => .destroyEntity (target.shift d)
  | .builtin name args => .builtin name (args.map (Value.shift d))
  | .evaluate source name scope => .evaluate source name (shiftNamed d scope)
  | .schedule delay name method args => .schedule delay name method (args.map (Value.shift d))
  | request => request

/--
A request whose values carry no identity, as every value a host builds from
plain data: moving identities leaves it as it is.
-/
def Request.Plain (request : Request) : Prop := ∀ d, request.shift d = request

/-- A reply with every identity in it moved up by `d`. -/
def Reply.shift (d : Nat) : Reply → Reply
  | .value v => .value (v.shift d)
  | .entity e => .entity (e.map (Entity.shift d))
  | .entities es => .entities (es.map (Entity.shift d))
  | reply => reply

/--
Replies a host cannot tell apart: the first is the second with identities
moved, or it reads the log and also shows some of the entries only the
session ahead still keeps, before the same entries.
-/
inductive Reply.Alike (o : Offset) : Reply → Reply → Prop
  | moved (reply : Reply) : Reply.Alike o (reply.shift o.ident) reply
  | entries (older es : List LogEntry) (kept : older.Sublist (o.front.map (·.2))) :
      Reply.Alike o (.entries (older ++ es)) (.entries es)

/-- Results of a request alike: alike replies, or one same fault. -/
def Reply.ResultAlike (o : Offset) : Except Fault Reply → Except Fault Reply → Prop
  | .ok a, .ok b => Reply.Alike o a b
  | .error e, .error e' => e = e'
  | _, _ => False

namespace Session

variable {o : Offset} {s t : Session}

theorem Twin.activeEntity? (twin : s.Twin o t) (id : Nat) :
    s.activeEntity? id = (t.activeEntity? id).map (Entity.shift o.ident) := by
  unfold Session.activeEntity?
  rw [twin.world, World.get?_shift]
  cases t.world.get? id with
  | none => rfl
  | some e =>
    simp only [Option.map_some, Option.filter_some, Entity.shift_active]
    by_cases active : e.active = true <;> simp [active]

theorem Twin.describe (twin : s.Twin o t) : s.describe = t.describe := by
  unfold Session.describe
  rw [twin.registry, twin.world, World.active_shift, List.length_map, twin.time]

end Session

namespace Sim

open Session

variable {α β γ : Type} {o : Offset}

/-- A loop over one list, rounds alike. -/
theorem Alike.forIn_same {xs : List β} {init : γ} {body body' : β → γ → Sim (ForInStep γ)}
    (round : ∀ x b, Alike o Eq (body x b) (body' x b)) :
    Alike o Eq (ForIn.forIn xs init body) (ForIn.forIn xs init body') := by
  have loop : Alike o Eq (ForIn.forIn (xs.map id) init body) (ForIn.forIn xs init body') :=
    Alike.forIn round
  rwa [List.map_id] at loop

section Host

theorem parse_alike (source : String) : Alike o Eq (parse source) (parse source) := by
  unfold parse
  rcases Token.scan source with ⟨tokens, scanErrors⟩
  dsimp only
  refine (Alike.forIn_same fun e _ => ?_).bind_same fun _ => Alike.pure rfl
  exact (log_alike _ _ _).bind_same fun _ => Alike.pure rfl

/--
Making an instance goes alike in twins: it goes in empty, its fields take
their initial values, then it is registered.
-/
theorem instantiate_alike (d : Declaration) (instanceName : Option String) (frames : Nat) :
    Alike o Eq (instantiate d instanceName frames) (instantiate d instanceName frames) := by
  unfold instantiate
  refine Alike.get_bind fun s t twin => ?_
  extract_lets name_l serial_l make_l name_r serial_r make_r
  have named : name_l = name_r := by simp only [name_l, name_r, twin.registry]
  have numbered : serial_l = serial_r := by simp only [serial_l, serial_r, twin.store, Array.size_map]
  have made : ∀ r, Alike o Eq (make_l r) (make_r r) := by
    intro r
    simp -zeta only [make_l, make_r]
    rw [named, numbered]
    refine (Alike.set ?_).bind_same fun _ => ?_
    · exact { twin with store := by rw [twin.store, Array.map_push]; rfl }
    refine (Alike.forIn_same fun fd _ => ?_).bind_same fun _ => ?_
    · extract_lets storing
      have stored : ∀ v, Alike o Eq (storing (v.shift o.ident)) (storing v) := fun v =>
        (modifyComponent_alike serial_r fun c => Component.setField_shift c fd.name v).bind_same
          fun _ => Alike.pure rfl
      split
      · exact (Alike.pure (R := Moved o) (Value.zero_shift _).symm).bind_moved stored
      · refine (Alike.tryCatch ((runsAlike frames).evaluateTop [] (some serial_r) _)
          fun fault => ?_).bind_moved stored
        split
        · exact (log_alike _ _ _).bind_same fun _ => Alike.pure (Value.zero_shift _).symm
        · exact Alike.throw _
    refine (Alike.modify fun s t twin => ?_).bind_same fun _ => ?_
    · exact { twin with registry := by rw [twin.registry] }
    exact (note_alike _ _ _).bind_same fun _ => (log_alike _ _ _).bind_same fun _ => Alike.pure rfl
  simp only [twin.lookup?]
  split
  · exact Alike.ite _ (fun _ => Alike.throw_bind _) fun _ => made ()
  · exact made ()

/--
Loading goes alike in twins, positions moved into the session ahead: the
position asked for under the instance's name, or else the declaration's, is
moved, and `init` runs with the entity's position, moved alike.
-/
theorem load_alike (source : String) (positions : List (String × Vec2)) :
    Alike o Eq (load source (movePositions o.ident positions)) (load source positions) := by
  unfold load
  refine (parse_alike source).bind_same fun parsed => ?_
  obtain ⟨parsed, scanErrors⟩ := parsed
  dsimp -zeta only
  split
  · exact (log_alike _ _ _).bind_same fun _ => Alike.pure rfl
  refine (Alike.forIn_same fun d names => ?_).bind_same fun _ => Alike.pure rfl
  refine (instantiate_alike d none _).bind_same fun serial => ?_
  refine (component_alike serial).bind_moved fun c => ?_
  refine Alike.get_bind fun u v twin => ?_
  simp -zeta only [Component.shift_name, Component.method?_shift, twin.settings]
  extract_lets grown next starting requested_l requested_r
  have started : ∀ p, Alike o Eq (starting (p.shift o.ident)) (starting p) := by
    intro p
    simp only [starting]
    split
    · exact ((runsAlike _).runMethod serial _ [p] _).bind_same fun _ => Alike.pure rfl
    · exact Alike.pure rfl
  refine Alike.ite _ (fun _ => ?_) fun _ => (Alike.pure_moved (Value.shift o.ident) .null).bind_moved started
  have asked : requested_l.map (·.2) = (requested_r.map (·.2)).map (Vec2.shift o.ident) := by
    simp only [requested_l, requested_r, movePositions, List.find?_map, Function.comp_def]
    cases List.find? (fun x => x.fst == c.name) positions with
    | some found => rfl
    | none => cases List.find? (fun x => x.fst == d.name) positions <;> rfl
  rw [asked]
  refine ((runsAlike _).createEntity _ _ _).bind_same fun id => Alike.get_bind fun w x twin => ?_
  rw [twin.world, World.find?_shift]
  refine (Alike.pure (R := Moved o) ?_).bind_moved started
  cases x.world.find? id <;> rfl

/--
Updating one component goes alike in twins; its step is a new number, which
moving leaves as it is.
-/
theorem updateComponent_alike (frames : Nat) (name : String) (dt : Number) :
    Alike o Eq (updateComponent frames name dt) (updateComponent frames name dt) := by
  unfold updateComponent
  refine Alike.get_bind fun s t twin => ?_
  rw [twin.lookup?]
  cases t.lookup? name with
  | none => exact Alike.pure rfl
  | some serial =>
    dsimp only
    rw [twin.component, Component.shift_active, Component.method?_shift]
    refine Alike.ite _ (fun _ => ?_) fun _ => Alike.pure rfl
    cases (t.component serial).method? "update" with
    | none => exact Alike.pure rfl
    | some m =>
      have moved := (runsAlike (o := o) frames).runMethod serial m [dt.toValue] ("Error updating " ++ name)
      rwa [List.map_singleton, Value.shift_toValue] at moved

theorem updateAll_alike (frames : Nat) (dt : Number) :
    Alike o Eq (updateAll frames dt) (updateAll frames dt) := by
  unfold updateAll
  refine Alike.get_bind fun s t twin => ?_
  rw [twin.activeSerials]
  refine (Alike.forIn_same fun serial _ => ?_).bind_same fun _ => Alike.pure rfl
  rw [twin.component, Component.shift_name]
  exact (updateComponent_alike frames _ dt).bind_same fun _ => Alike.pure rfl

/--
The callback phase goes alike in twins: each due call runs in the instance its
name finds, with its arguments moved.
-/
theorem runDueCallbacks_alike : Alike o Eq runDueCallbacks runDueCallbacks := by
  unfold runDueCallbacks
  refine Alike.get_bind fun s t twin => ?_
  rw [twin.scheduler, Scheduler.popDue_shift]
  dsimp only
  refine (Alike.set ?_).bind_same fun _ => ?_
  · exact { twin with scheduler := rfl }
  refine (Alike.forIn fun cb _ => ?_).bind_same fun _ => Alike.pure rfl
  refine Alike.get_bind fun u v twin => ?_
  rw [twin.lookup?, Callback.shift_component]
  split
  · exact Alike.pure rfl
  · refine (component_alike _).bind_moved fun c => ?_
    rw [Component.shift_active, Component.method?_shift, Callback.shift_method, Component.shift_name]
    refine Alike.ite _ (fun _ => ?_) fun _ => Alike.pure rfl
    split
    · exact (log_alike _ _ _).bind_same fun _ => Alike.pure rfl
    · exact ((runsAlike _).runMethod _ _ cb.args _).bind_same fun _ => Alike.pure rfl

theorem commitRemovals_alike : Alike o Eq commitRemovals commitRemovals := by
  refine Alike.modify fun s t twin => ?_
  exact { twin with
    world := by rw [twin.world, twin.pendingEntities, World.foldl_remove_shift]
    registry := by rw [twin.registry, twin.pendingComponents]
    pendingEntities := rfl
    pendingComponents := rfl }

/--
A tick goes alike in twins: the clock moves, then the due callbacks and the
updates run, then the entities age.
-/
theorem tick_alike (dt : Option Number) : Alike o Eq (tick dt) (tick dt) := by
  unfold tick
  refine Alike.get_bind fun s t twin => ?_
  rw [twin.settings]
  dsimp only
  refine (Alike.modify fun s t twin => ?_).bind_same fun _ =>
    (Alike.tryFinally (T := Eq) ?_ ?_).bind_same fun _ => Alike.modify fun s t twin => ?_
  · exact { twin with inTick := rfl }
  · refine (Alike.ofExcept _).bind_same fun step => (Alike.modify fun s t twin => ?_).bind_same
      fun _ => Alike.get_bind fun u v twin => ?_
    · exact { twin with time := by rw [twin.time] }
    rw [twin.scheduler, Scheduler.advance_shift]
    refine (Alike.ofExcept_map (Scheduler.shift o.ident) _).bind_moved fun scheduler =>
      (Alike.modify fun s t twin => ?_).bind_same fun _ => ?_
    · exact { twin with scheduler := rfl }
    refine runDueCallbacks_alike.bind_same fun _ => (updateAll_alike _ _).bind_same fun _ =>
      Alike.modify fun s t twin => ?_
    exact { twin with world := by rw [twin.world, World.age_shift] }
  · refine (Alike.modify fun s t twin => ?_).bind_same fun _ => commitRemovals_alike
    exact { twin with inTick := rfl }
  · exact { twin with ticks := by rw [twin.ticks] }

theorem repeatTicks_alike (dt : Option Number) (n : Nat) :
    Alike o Eq (repeatTicks dt n) (repeatTicks dt n) := by
  induction n with
  | zero => exact Alike.pure rfl
  | succ n more =>
    simp only [repeatTicks]
    exact (tick_alike dt).bind_same fun _ => more

theorem call_alike (name method : String) (args : List Value) :
    Alike o Eq (call name method (args.map (Value.shift o.ident))) (call name method args) := by
  unfold call
  refine Alike.get_bind fun s t twin => ?_
  rw [twin.lookup?]
  cases t.lookup? name with
  | none => exact Alike.pure rfl
  | some serial =>
    dsimp only
    rw [twin.component, Component.method?_shift, Component.shift_name]
    cases (t.component serial).method? method with
    | none => exact Alike.pure rfl
    | some m => exact ((runsAlike _).runMethod serial m args _).bind_same fun _ => Alike.pure rfl

theorem destroyComponent_alike (name : String) :
    Alike o Eq (destroyComponent name) (destroyComponent name) := by
  unfold destroyComponent
  refine Alike.get_bind fun s t twin => ?_
  rw [twin.lookup?]
  cases t.lookup? name with
  | none => exact Alike.pure rfl
  | some serial =>
    refine (modifyComponent_alike serial fun c => Component.shift_deactivate c).bind_same fun _ => ?_
    exact (log_alike _ _ _).bind_same fun _ => Alike.pure rfl

/--
Unregistering goes alike in twins: inside a tick the instance is deactivated
and waits, and outside it is unregistered at once.
-/
theorem removeComponent_alike (name : String) :
    Alike o Eq (removeComponent name) (removeComponent name) := by
  unfold removeComponent
  refine Alike.get_bind fun s t twin => ?_
  rw [twin.lookup?]
  cases t.lookup? name with
  | none => exact Alike.pure rfl
  | some serial =>
    dsimp only
    rw [twin.inTick]
    refine Alike.ite _ (fun _ => (Alike.set ?_).bind_same fun _ => Alike.pure rfl)
      fun _ => (Alike.set ?_).bind_same fun _ => Alike.pure rfl
    · exact { twin.modifyComponent serial (f := fun c => { c with active := false })
        (g := fun c => { c with active := false }) fun c => Component.shift_deactivate c with
        pendingComponents := by rw [twin.pendingComponents] }
    · exact { twin with registry := by rw [twin.registry], inTick := rfl }

theorem createComponent_alike (source : String) (index : Int) (instanceName : Option String) :
    Alike o Eq (createComponent source index instanceName) (createComponent source index instanceName) := by
  unfold createComponent
  refine (parse_alike source).bind_same fun parsed => ?_
  obtain ⟨parsed, scanErrors⟩ := parsed
  dsimp only
  cases parsed with
  | error err => exact Alike.pure rfl
  | ok declarations =>
    dsimp only
    cases pick declarations index with
    | none => exact Alike.throw _
    | some d =>
      refine (instantiate_alike d instanceName _).bind_same fun serial => ?_
      exact (component_alike serial).bind_moved fun c => Alike.pure rfl

/--
Expression text evaluated in a moved scope gives the moved value. Each value
of the scope is stamped afresh, moved in the session ahead.
-/
theorem evaluateText_alike (source : String) (name : Option String) (scope : Scope) :
    Alike o (fun a b => a = Value.shift o.ident <$> b)
      (evaluateText source name (shiftNamed o.ident scope)) (evaluateText source name scope) := by
  unfold evaluateText
  cases Expr.ofTokens (Token.scan source).1 with
  | error err => exact Alike.pure rfl
  | ok parsed =>
    obtain ⟨e, rest⟩ := parsed
    refine Alike.get_bind fun s t twin => ?_
    have found : s.lookup? = t.lookup? := funext twin.lookup?
    rw [found]
    refine (Alike.mapM fun entry =>
      (?_ : Alike o (fun a (b : String × Value) => a = (b.1, b.2.shift o.ident)) _ _)).bind_moved
      fun shared => ?_
    · obtain ⟨k, v⟩ := entry
      exact (share_alike v).bind_moved fun w => Alike.pure rfl
    exact ((runsAlike _).evaluateTop shared _ e).bind_moved fun v => Alike.pure rfl

theorem schedule_alike (delay : Number) (name method : String) (args : List Value) :
    Alike o Eq (schedule delay name method (args.map (Value.shift o.ident)))
      (schedule delay name method args) := by
  unfold schedule
  refine Alike.get_bind fun s t twin => ?_
  rw [twin.scheduler, Scheduler.schedule_shift]
  dsimp only
  refine (Alike.set ?_).bind_same fun _ => ?_
  · exact { twin with scheduler := rfl }
  refine (Alike.ofExcept_map (Callback.shift o.ident) _).bind_moved fun c => ?_
  exact (note_alike _ _ _).bind_same fun _ => Alike.pure rfl

theorem cancel_alike (id : Nat) : Alike o Eq (cancel id) (cancel id) := by
  unfold cancel
  refine Alike.get_bind fun s t twin => ?_
  rw [twin.scheduler, Scheduler.cancel_shift]
  dsimp only
  refine (Alike.set ?_).bind_same fun _ => Alike.pure rfl
  exact { twin with scheduler := rfl }

theorem subscribe_alike (event handler : String) :
    Alike o Eq (subscribe event handler) (subscribe event handler) := by
  unfold subscribe
  refine (Alike.modify fun s t twin => ?_).bind_same fun _ => note_alike _ _ _
  exact { twin with events := by rw [twin.events] }

theorem clearLogs_alike : Alike o Eq clearLogs clearLogs :=
  Alike.modify fun _ _ twin => { twin with log := twin.log.clear }

/--
Starting over in twins: both empty and reseeded, the identities still moved.
The record is built field by field, as elaborating it from the twins as a
whole runs too deep.
-/
theorem reset_alike : Alike o Eq reset reset := by
  unfold reset
  refine (Alike.modify fun s t twin => ?_).bind_same fun _ =>
    (log_alike _ _ _).bind_same fun _ => note_alike _ _ _
  constructor
  case settings => exact twin.settings
  case platform =>
    show (s.platform.seed s.settings.randomSeed).2 = (t.platform.seed t.settings.randomSeed).2
    rw [twin.settings, twin.platform]
  case random =>
    show (s.platform.seed s.settings.randomSeed).1 = (t.platform.seed t.settings.randomSeed).1
    rw [twin.settings, twin.platform]
  case log => exact twin.log.clear
  case capacity => exact twin.capacity
  case store => exact Array.map_empty.symm
  case registry => rfl
  case world => exact World.shift_empty.symm
  case events => rfl
  case scheduler =>
    show s.scheduler.reset = t.scheduler.reset.shift o.ident
    rw [twin.scheduler, Scheduler.reset_shift, Scheduler.reset, Scheduler.shift_create]
  case time => rfl
  case ticks => rfl
  case inTick => exact twin.inTick
  case pendingEntities => rfl
  case pendingComponents => rfl
  case destroying => exact twin.destroying
  case callStack => exact twin.callStack
  case nextIdent => exact twin.nextIdent
  case counting => exact twin.counting

end Host

/-! ## Requests -/

/--
A request whose values are moved into the session ahead gets an alike reply.
An id names the same entity in both twins, moved in the session ahead, and the
log ahead may still show entries from before its twin began.
-/
theorem answer_alike (request : Request) :
    Alike o (Reply.Alike o) (answer (request.shift o.ident)) (answer request) := by
  unfold answer
  refine Alike.get_bind fun s t twin => ?_
  rw [twin.settings]
  cases request with
  | load source positions =>
    exact (load_alike source positions).bind_same fun report => Alike.pure (.moved (.loaded report))
  | tick dt => exact (tick_alike dt).bind_same fun _ => Alike.pure (.moved .done)
  | ticks n dt => exact (repeatTicks_alike dt n).bind_same fun _ => Alike.pure (.moved .done)
  | call name method args =>
    exact (call_alike name method args).bind_same fun b => Alike.pure (.moved (.truth b))
  | update name dt =>
    exact (updateComponent_alike _ name _).bind_same fun _ => Alike.pure (.moved .done)
  | updateAll dt => exact (updateAll_alike _ _).bind_same fun _ => Alike.pure (.moved .done)
  | broadcast event payload =>
    exact ((runsAlike _).broadcast event payload).bind_same fun n => Alike.pure (.moved (.count n))
  | subscribe event handler =>
    exact (subscribe_alike event handler).bind_same fun _ => Alike.pure (.moved .done)
  | createEntity kind position name =>
    have found : s.lookup? = t.lookup? := funext twin.lookup?
    dsimp only [Request.shift]
    rw [found]
    refine ((runsAlike _).createEntity kind position _).bind_same fun id =>
      Alike.get_bind fun u v twin => ?_
    rw [twin.world, World.find?_shift]
    exact Alike.pure (.moved (.entity _))
  | destroyEntity target =>
    exact ((runsAlike _).destroyEntity target).bind_same fun b => Alike.pure (.moved (.truth b))
  | getEntity id =>
    have named : (id.bind fun n => if n < 0 then none else s.activeEntity? n.toNat) =
        (id.bind fun n => if n < 0 then none else t.activeEntity? n.toNat).map
          (Entity.shift o.ident) := by
      cases id with
      | none => rfl
      | some n =>
        simp only [Option.bind_some]
        split
        · rfl
        · exact twin.activeEntity? n.toNat
    dsimp only [Request.shift]
    rw [named]
    exact Alike.pure (.moved (.entity _))
  | destroyComponent name =>
    exact (destroyComponent_alike name).bind_same fun b => Alike.pure (.moved (.truth b))
  | removeComponent name =>
    exact (removeComponent_alike name).bind_same fun b => Alike.pure (.moved (.truth b))
  | createComponent source index name =>
    refine (createComponent_alike source index name).bind_same fun made => ?_
    cases made with
    | ok made => exact Alike.pure (.moved (.text made))
    | error e => exact Alike.pure (.moved (.syntaxError e))
  | builtin name args =>
    exact ((runsAlike _).callBuiltin name args).bind_moved fun v => Alike.pure (.moved (.value v))
  | evaluate source name scope =>
    refine (evaluateText_alike source name scope).bind fun a b moved => ?_
    subst moved
    cases b with
    | ok v => exact Alike.pure (.moved (.value v))
    | error e => exact Alike.pure (.moved (.syntaxError e))
  | schedule delay name method args =>
    exact (schedule_alike delay name method args).bind_same fun n => Alike.pure (.moved (.count n))
  | cancel id =>
    exact Alike.ite _ (fun _ => Alike.pure (.moved (.truth false)))
      fun _ => (cancel_alike _).bind_same fun b => Alike.pure (.moved (.truth b))
  | logs level =>
    obtain ⟨j, view⟩ := twin.log.view level
    dsimp only [Request.shift]
    rw [view]
    exact Alike.pure (.entries _ _ ((List.filter_sublist).trans ((List.drop_sublist j o.front).map _)))
  | clearLogs => exact clearLogs_alike.bind_same fun _ => Alike.pure (.moved .done)
  | snapshot =>
    dsimp only [Request.shift]
    rw [twin.world, World.active_shift]
    exact Alike.pure (.moved (.entities _))
  | reset => exact reset_alike.bind_same fun _ => Alike.pure (.moved .done)
  | describe =>
    dsimp only [Request.shift]
    rw [twin.describe]
    exact Alike.pure (.moved (.text _))
  | stats => exact Alike.pure (.moved .counters)

end Sim

/-- Perform requests one after another: what each gave and the log entries it appended, and the session after the last. -/
def Session.performAll (s : Session) : List Request → List (Except Fault Reply × List LogEntry) × Session
  | [] => ([], s)
  | request :: rest =>
    let step := s.perform request
    let more := step.2.1.performAll rest
    ((step.1, step.2.2) :: more.1, more.2)

namespace Session

variable {o : Offset} {s t : Session}

/--
One request on twins, its values moved into the session ahead: alike results,
the same new log entries, and twins again. The log ahead numbers its entries
`o.arrival` later, so its new entries are read from a moved mark.
-/
theorem Twin.perform (twin : s.Twin o t) (request : Request) :
    Reply.ResultAlike o (s.perform (request.shift o.ident)).1 (t.perform request).1 ∧
      (s.perform (request.shift o.ident)).2.1.Twin o (t.perform request).2.1 ∧
      (s.perform (request.shift o.ident)).2.2 = (t.perform request).2.2 := by
  have ends := Sim.answer_alike request s t twin
  have mark := twin.log.arrived
  unfold Session.perform
  generalize (Sim.answer (request.shift o.ident)).run s = x at ends ⊢
  generalize (Sim.answer request).run t = y at ends ⊢
  cases x with
  | ok a u =>
    cases y with
    | ok b v =>
      obtain ⟨alike, twin'⟩ := ends
      exact ⟨alike, twin', by dsimp only; rw [mark]; exact twin'.log.since _⟩
    | error => exact ends.elim
  | error e u =>
    cases y with
    | ok => exact ends.elim
    | error e' v =>
      obtain ⟨same, twin'⟩ := ends
      exact ⟨same, twin', by dsimp only; rw [mark]; exact twin'.log.since _⟩

/-- Requests one after another on twins, each alike, the last leaving twins. -/
theorem Twin.performAll (twin : s.Twin o t) (requests : List Request) :
    List.Forall₂ (fun a b => Reply.ResultAlike o a.1 b.1 ∧ a.2 = b.2)
        (s.performAll (requests.map (Request.shift o.ident))).1 (t.performAll requests).1 ∧
      (s.performAll (requests.map (Request.shift o.ident))).2.Twin o (t.performAll requests).2 := by
  induction requests generalizing s t with
  | nil => exact ⟨.nil, twin⟩
  | cons request rest more =>
    obtain ⟨answered, twin', logged⟩ := twin.perform request
    obtain ⟨steps, last⟩ := more twin'
    exact ⟨.cons ⟨answered, logged⟩ steps, last⟩

end Session

end GameScript

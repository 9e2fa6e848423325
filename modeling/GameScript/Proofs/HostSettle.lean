import GameScript.Proofs.StackBound
import GameScript.Proofs.JoinedLoad

/-!
# Every host operation needs a bounded host stack

The host gives a tick, its callback phase and the loading of source text fixed
numbers of frames: those of `Session.hostFrames` that its own calls leave.
This module states each of them with its frames as a parameter (`tickAt`,
`runDueCallbacksAt`, `loadAt`), the host's being these at its numbers, and
proves that they settle like every function of the interpreter: past a bound,
more frames change neither answer, fault nor final session.  The bound of a
tick depends on the session only through how deep calls may still nest and the
method bodies of its store; that of a load also on the declarations its source
text reads as, whose methods it adds to the store and whose field initial
values it evaluates.
-/

namespace GameScript

/-- The declarations source text reads as; none when it does not parse. -/
def sourceDeclarations (source : String) : List Declaration :=
  ((Declaration.ofTokens (Token.scan source).1).toOption).getD []

/-- The bodies of the methods of declarations. -/
def declarationBodies (ds : List Declaration) : List (List Stmt) :=
  ds.flatMap fun d => d.methodTable.map (·.2.body)

theorem sourceDeclarations_of_ok {source : String} {ds : List Declaration}
    (read : Declaration.ofTokens (Token.scan source).1 = .ok ds) : sourceDeclarations source = ds := by
  simp only [sourceDeclarations, read, Except.toOption, Option.getD_some]

theorem body_mem_declarationBodies {ds : List Declaration} {d : Declaration} (member : d ∈ ds)
    {p : String × MethodDecl} (defined : p ∈ d.methodTable) : p.2.body ∈ declarationBodies ds :=
  List.mem_flatMap.2 ⟨d, member, List.mem_map_of_mem defined⟩

/--
The frames loading declarations takes when calls may nest `r` deeper and
every method body is among `bodies`: one more than the deepest initial value
of a field, and two more than a method, for the entity and `init` of each
instance.
-/
def loadNeed (bodies : List (List Stmt)) (r : Nat) (ds : List Declaration) : Nat :=
  max (Expr.needList (methodNeed bodies r + 8) (ds.flatMap Declaration.inits) + 1) (methodNeed bodies r + 2)

/-- Evaluating some of a list of expressions takes no more frames than evaluating all. -/
theorem Expr.needList_le_of_subset (call : Nat) {es es' : List Expr} (within : ∀ e ∈ es, e ∈ es') :
    Expr.needList call es ≤ Expr.needList call es' := by
  induction es with
  | nil => exact Nat.zero_le _
  | cons e rest more =>
    rw [Expr.needList_cons]
    exact max_le (Expr.need_le_needList call (within e List.mem_cons_self))
      (more fun e member => within e (List.mem_cons_of_mem _ member))

namespace Sim

open Session

/-! ## Host operations with their frames given -/

/-- `runDueCallbacks` with the frames of each due call's method run given. -/
def runDueCallbacksAt (frames : Nat) : Sim Unit := do
  let s ← get
  let (due, scheduler) := s.scheduler.popDue
  set { s with scheduler }
  for cb in due do
    match (← get).lookup? cb.component with
    | none => pure ()
    | some serial =>
      let c ← component serial
      if c.active then
        match c.method? cb.method with
        | none => log .warning ("Unknown function: " ++ cb.method)
        | some m =>
          runMethod frames serial m cb.args
            ("Error in callback " ++ c.name ++ "." ++ cb.method)

/-- `tick` with the frames of its update phase given; its callbacks take one more. -/
def tickAt (frames : Nat) (dt : Option Number) : Sim Unit := do
  let dt := dt.getD (.float (← get).settings.tickDelta)
  modify fun s => { s with inTick := true }
  tryFinally
    (do
      let step ← Sim.ofExcept dt.toFloat
      modify fun s => { s with time := s.time + step }
      let scheduler ← Sim.ofExcept ((← get).scheduler.advance dt)
      modify fun s => { s with scheduler }
      runDueCallbacksAt (frames + 1)
      updateAll frames dt
      modify fun s => { s with world := s.world.age step })
    (do
      modify fun s => { s with inTick := false }
      commitRemovals)
  modify fun s => { s with ticks := s.ticks + 1 }

/-- A round of `loadAt`: `loadRound` with the frames of making the instance given; its entity and `init` take three more. -/
def loadRoundAt (frames : Nat) (positions : List (String × Vec2)) (d : Declaration) (names : List String) :
    Sim (ForInStep (List String)) := do
  let serial ← instantiate d none frames
  let c ← component serial
  let position ← if (← get).settings.bindEntities then do
      let requested := (positions.find? (·.1 == c.name)).orElse fun _ =>
        positions.find? (·.1 == d.name)
      let id ← createEntity (frames + 3) d.name (requested.map (·.2)) (some serial)
      pure ((((← get).world.find? id).map (Value.vec2 ·.position)).getD .null)
    else pure .null
  match c.method? "init" with
  | some m => runMethod (frames + 3) serial m [position] ("Error in init for " ++ c.name)
  | none => pure ()
  return .yield (names ++ [c.name])

/-- `load` with the frames of making each instance given. -/
def loadAt (frames : Nat) (source : String) (positions : List (String × Vec2)) : Sim LoadReport := do
  let (parsed, scanErrors) ← parse source
  match parsed with
  | .error err =>
    log .error err.logText
    return ⟨[], scanErrors, some err⟩
  | .ok declarations =>
    let names ← forIn declarations [] (loadRoundAt frames positions)
    return ⟨names, scanErrors, none⟩

theorem runDueCallbacks_eq_at : runDueCallbacks = runDueCallbacksAt (hostFrames - 2) := rfl

theorem tick_eq_at (dt : Option Number) : tick dt = tickAt (hostFrames - 3) dt := rfl

theorem load_eq_at (source : String) (positions : List (String × Vec2)) :
    load source positions = loadAt (hostFrames - 4) source positions := rfl

/-! ## Each settles -/

section Settle

variable {r : Nat} {bodies : List (List Stmt)}

theorem runDueCallbacksAt_reach (frames : Nat) : Keeps SameReach (fun _ => True) (runDueCallbacksAt frames) := by
  intro s
  rw [runDueCallbacksAt, ends_bind, ends_get]
  dsimp only
  rw [ends_bind, ends_set]
  refine (Keeps.bind (Keeps.forIn fun cb _ => ?_) fun _ => pure_reach _).after ⟨rfl, rfl, rfl⟩
  refine get_bind_keeps fun u => ?_
  split
  · exact pure_reach _
  · refine Keeps.bind (component_reach _) fun c => ?_
    split
    · split
      · exact Keeps.bind (sameReach_steps.log_keeps _ _ _) fun _ => pure_reach _
      · exact Keeps.bind ((sameReach_runs _).runMethod _ _ _ _) fun _ => pure_reach _
    · exact pure_reach _

theorem runDueCallbacksAt_stable {frames : Nat} (enough : methodNeed bodies r + 1 ≤ frames) :
    Agree r bodies (runDueCallbacksAt (frames + 1)) (runDueCallbacksAt frames) := by
  unfold runDueCallbacksAt
  refine Agree.get_bind fun s within => ?_
  dsimp only
  refine Agree.set_bind (within.reach ⟨rfl, rfl, rfl⟩)
    ((Agree.forIn (E := fun _ => True) (fun cb _ _ => ?_) fun cb _ => ?_).bind_left _)
  · refine Agree.get_bind fun u _ => ?_
    split
    · exact Agree.refl _
    · refine Agree.component_bind _ fun v within => Agree.ite _ (fun _ => ?_) fun _ => Agree.refl _
      split
      · exact Agree.refl _
      · next m found =>
        exact ((stable frames).runMethod r bodies _ m _ _ (within.stored _ (body_mem_methodBodies found))
          enough).bind_left _
  · refine get_bind_keeps fun u => ?_
    split
    · exact pure_reach _
    · refine Keeps.bind (component_reach _) fun c => ?_
      split
      · split
        · exact Keeps.bind (sameReach_steps.log_keeps _ _ _) fun _ => pure_reach _
        · exact Keeps.bind ((sameReach_runs _).runMethod _ _ _ _) fun _ => pure_reach _
      · exact pure_reach _

theorem tickAt_stable {frames : Nat} (dt : Option Number) (enough : methodNeed bodies r + 1 ≤ frames) :
    Agree r bodies (tickAt (frames + 1) dt) (tickAt frames dt) := by
  unfold tickAt
  refine Agree.get_bind fun s _ => Agree.bind_same (modify_reach fun _ => ⟨rfl, rfl, rfl⟩) fun _ => ?_
  refine (Agree.withFinally ?_ _).bind_left _
  refine Agree.bind_same (ofExcept_reach _) fun step =>
    Agree.bind_same (modify_reach fun _ => ⟨rfl, rfl, rfl⟩) fun _ => Agree.get_bind fun u _ => ?_
  refine Agree.bind_same (ofExcept_reach _) fun scheduler =>
    Agree.bind_same (modify_reach fun _ => ⟨rfl, rfl, rfl⟩) fun _ => ?_
  refine (runDueCallbacksAt_stable (by omega)).bind (runDueCallbacksAt_reach _) fun _ => ?_
  exact (updateAll_stable _ enough).bind_left _

theorem parse_reach (source : String) : Keeps SameReach (fun _ => True) (parse source) := by
  unfold parse
  exact Keeps.bind (Keeps.forIn fun _ _ => Keeps.bind (sameReach_steps.log_keeps _ _ _) fun _ => pure_reach _)
    fun _ => pure_reach _

theorem loadRoundAt_within (frames : Nat) (positions : List (String × Vec2)) (d : Declaration)
    (names : List String) (methods : ∀ p ∈ d.methodTable, p.2.body ∈ bodies) :
    Keeps (Preserves (Within r bodies)) (fun _ => True) (loadRoundAt frames positions d names) := by
  unfold loadRoundAt
  refine Keeps.bind (instantiate_within d none frames methods) fun serial => Keeps.within ?_
  refine Keeps.bind (component_reach serial) fun c => get_bind_keeps fun u => ?_
  extract_lets finish start requested
  have started : ∀ position, Keeps SameReach (fun _ => True) (start position) := by
    intro position
    simp only [start]
    split
    · exact Keeps.bind ((sameReach_runs _).runMethod _ _ _ _) fun _ => pure_reach _
    · exact pure_reach _
  split
  · exact Keeps.bind ((sameReach_runs _).createEntity _ _ _) fun id =>
      get_bind_keeps fun w => Keeps.bind (pure_reach _) started
  · exact Keeps.bind (pure_reach _) started

theorem loadRoundAt_stable {frames : Nat} (positions : List (String × Vec2)) (d : Declaration)
    (names : List String) (methods : ∀ p ∈ d.methodTable, p.2.body ∈ bodies)
    (inits : Expr.needList (methodNeed bodies r + 8) d.inits + 1 ≤ frames)
    (enough : methodNeed bodies r + 2 ≤ frames) :
    Agree r bodies (loadRoundAt (frames + 1) positions d names) (loadRoundAt frames positions d names) := by
  unfold loadRoundAt
  refine (instantiate_stable d none methods inits).bind_within (instantiate_within d none frames methods)
    fun serial => Agree.component_bind serial fun s within => Agree.get_bind fun u _ => ?_
  extract_lets finish start_l requested start_r
  have started : ∀ position, Agree r bodies (start_l position) (start_r position) := by
    intro position
    simp only [start_l, start_r]
    split
    · next m found =>
      exact ((stable (frames + 3)).runMethod r bodies serial m _ _
        (within.stored _ (body_mem_methodBodies found)) (by omega)).bind_left _
    · exact Agree.refl _
  refine Agree.ite _ (fun _ => ?_) fun _ => Agree.bind_same (pure_reach _) started
  exact ((stable (frames + 3)).createEntity r bodies _ _ _ (by omega)).bind ((sameReach_runs _).createEntity _ _ _)
    fun id => Agree.get_bind fun w _ => Agree.bind_same (pure_reach _) started

theorem loadAt_stable {frames : Nat} (source : String) (positions : List (String × Vec2))
    (methods : ∀ d ∈ sourceDeclarations source, ∀ p ∈ d.methodTable, p.2.body ∈ bodies)
    (enough : loadNeed bodies r (sourceDeclarations source) ≤ frames) :
    Agree r bodies (loadAt (frames + 1) source positions) (loadAt frames source positions) := by
  unfold loadAt
  refine Agree.bind_answer (parse_reach source)
    (fun s => Exists.elim (parse_run source s) fun _ ran => ⟨_, ran⟩) ?_
  dsimp only
  cases read : Declaration.ofTokens (Token.scan source).1 with
  | error err => exact Agree.refl _
  | ok ds =>
    rw [sourceDeclarations_of_ok read] at methods enough
    have inits : ∀ d ∈ ds, Expr.needList (methodNeed bodies r + 8) d.inits + 1 ≤ frames := fun d member =>
      le_trans (Nat.add_le_add_right (Expr.needList_le_of_subset _ fun e initial =>
        List.mem_flatMap.2 ⟨d, member, initial⟩) 1) (le_of_max_le_left enough)
    exact (Agree.forIn_within (fun d member names => loadRoundAt_stable positions d names
      (methods d member) (inits d member) (le_of_max_le_right enough))
      fun d member names => loadRoundAt_within frames positions d names (methods d member)).bind_left _

end Settle

/--
Every operation of the host needs a bounded host stack: reading the
declarations of any token list, and, from every session, a method run for the
host, an event or a callback, a broadcast, the creation or destruction of an
entity, an update of one component or of all, the making of a component
instance, a tick and the loading of source text each give the same answer,
fault and final session with any number of frames past some bound. The host's
tick and load are those with their frames given at its own numbers. The bound
depends on the session only through how deep calls may still nest and the
method bodies of its store, and for a load also on the declarations its source
text reads as. A method run for the host may be any, its body joining those of
the store, and so do the methods of a new instance or of a loaded text.
-/
theorem host_operations_settle (s : Session) :
    (∀ ts found, ∃ N, ∀ f ≥ N, Parse.declarations f found ts = Parse.declarations N found ts) ∧
    (∀ serial m args pfx, ∃ N, ∀ f ≥ N,
      (runMethod f serial m args pfx).run s = (runMethod N serial m args pfx).run s) ∧
    (∀ event payload, ∃ N, ∀ f ≥ N,
      (broadcast f event payload).run s = (broadcast N event payload).run s) ∧
    (∀ kind position driver, ∃ N, ∀ f ≥ N,
      (createEntity f kind position driver).run s = (createEntity N kind position driver).run s) ∧
    (∀ target, ∃ N, ∀ f ≥ N, (destroyEntity f target).run s = (destroyEntity N target).run s) ∧
    (∀ name dt, ∃ N, ∀ f ≥ N, (updateComponent f name dt).run s = (updateComponent N name dt).run s) ∧
    (∀ dt, ∃ N, ∀ f ≥ N, (updateAll f dt).run s = (updateAll N dt).run s) ∧
    (∀ d instanceName, ∃ N, ∀ f ≥ N,
      (instantiate d instanceName f).run s = (instantiate d instanceName N).run s) ∧
    (∀ dt, tick dt = tickAt (hostFrames - 3) dt ∧
      ∃ N, ∀ f ≥ N, (tickAt f dt).run s = (tickAt N dt).run s) ∧
    (∀ source positions, load source positions = loadAt (hostFrames - 4) source positions ∧
      ∃ N, ∀ f ≥ N, (loadAt f source positions).run s = (loadAt N source positions).run s) := by
  have within := Within.self s
  refine ⟨Grammar.declarations_eventually_settle, fun serial m args pfx => ?_,
    fun event payload => ?_, fun kind position driver => ?_, fun target => ?_, fun name dt => ?_,
    fun dt => ?_, fun d instanceName => ?_, fun dt => ⟨rfl, ?_⟩, fun source positions => ⟨rfl, ?_⟩⟩
  · exact Agree.settles (within.more [m.body]) fun f enough =>
      (stable f).runMethod _ _ serial m args pfx (List.mem_append_right _ List.mem_cons_self) enough
  · exact Agree.settles within fun f => (stable f).broadcast _ _ event payload
  · exact Agree.settles within fun f => (stable f).createEntity _ _ kind position driver
  · exact Agree.settles within fun f => (stable f).destroyEntity _ _ target
  · exact Agree.settles within fun f => updateComponent_stable name dt
  · exact Agree.settles within fun f => updateAll_stable dt
  · exact Agree.settles (within.more (d.methodTable.map (·.2.body))) fun f =>
      instantiate_stable d instanceName fun p member =>
        List.mem_append_right _ (List.mem_map_of_mem member)
  · exact Agree.settles within fun f enough => tickAt_stable dt enough
  · have stored : ∀ d ∈ sourceDeclarations source, ∀ p ∈ d.methodTable,
        p.2.body ∈ s.methodBodies ++ declarationBodies (sourceDeclarations source) :=
      fun d member p defined => List.mem_append_right _ (body_mem_declarationBodies member defined)
    exact Agree.settles (within.more _) fun f enough => loadAt_stable source positions stored enough

end Sim

end GameScript

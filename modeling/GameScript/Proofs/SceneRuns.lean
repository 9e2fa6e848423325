import GameScript.Proofs.Scenes

/-!
# Scripts on sessions holding the same scene

Every function of the interpreter ends alike from two sessions that hold the
same scene, and leaves them holding the same scene.  Two facts carry it.

The interpreter never reads a position: each of its functions run on a piece
of syntax is the same computation as run on that syntax with its positions
reset (`ignoresPositions`).  So the methods of two instances that agree up to
positions run alike, and the instances stored on the two sides may differ in
nothing a run can tell.

The rest is the walk of `Sim.safe` and `Sim.runsAlike`: `RunsMatched lead
frames` collects the statements at one number of frames, one step lemma per
function proves its statement from fewer frames, and `runsMatched` assembles
them by induction on the frames.
-/

namespace GameScript

namespace Sim

/-! ## Positions are never read -/

/-- Every function of the interpreter that runs syntax, at `frames` frames, runs it alike with its positions reset. -/
structure IgnoresPositions (frames : Nat) : Prop where
  evaluate : ∀ scope self e, evaluate frames scope self e.strip = evaluate frames scope self e
  evaluateArgs : ∀ scope self es,
    evaluateArgs frames scope self (Expr.stripList es) = evaluateArgs frames scope self es
  evaluateTop : ∀ scope self e, evaluateTop frames scope self e.strip = evaluateTop frames scope self e
  evaluateTops : ∀ scope self es,
    evaluateTops frames scope self (Expr.stripList es) = evaluateTops frames scope self es
  runMethod : ∀ serial m args pfx, runMethod frames serial m.strip args pfx = runMethod frames serial m args pfx
  executeMethod : ∀ serial m args, executeMethod frames serial m.strip args = executeMethod frames serial m args
  execBlock : ∀ serial scope body,
    execBlock frames serial scope (Stmt.stripList body) = execBlock frames serial scope body
  execStmt : ∀ serial scope st, execStmt frames serial scope st.strip = execStmt frames serial scope st

section Positions

variable {frames : Nat}

/--
An expression evaluates as its stripped form; a call evaluates its arguments
with one frame less.
-/
theorem evaluate_strip (below : ∀ g < frames, IgnoresPositions g) (scope : Scope) (self : Option Nat)
    (e : Expr) : evaluate frames scope self e.strip = evaluate frames scope self e := by
  rw [evaluate.eq_def, evaluate.eq_def]
  cases frames with
  | zero => rfl
  | succ f =>
    have inner := below f (Nat.lt_succ_self f)
    have call := below (f - 1) (by omega)
    cases e with
    | literal | identifier => rfl
    | unary op operand => simp only [Expr.strip, inner.evaluate]
    | binary op left right => simp only [Expr.strip, inner.evaluate]
    | call name args => simp only [Expr.strip, call.evaluateArgs]

theorem evaluateArgs_strip
    (evaluates : ∀ scope self e, evaluate frames scope self e.strip = evaluate frames scope self e)
    (scope : Scope) (self : Option Nat) (es : List Expr) :
    evaluateArgs frames scope self (Expr.stripList es) = evaluateArgs frames scope self es := by
  induction es with
  | nil => rfl
  | cons e rest more => rw [Expr.stripList, evaluateArgs, evaluateArgs, evaluates, more]

theorem evaluateTop_strip (below : ∀ g < frames, IgnoresPositions g) (scope : Scope) (self : Option Nat)
    (e : Expr) : evaluateTop frames scope self e.strip = evaluateTop frames scope self e := by
  cases frames with
  | zero => rw [evaluateTop, evaluateTop]
  | succ f => rw [evaluateTop, evaluateTop, (below f (Nat.lt_succ_self f)).evaluate]

theorem evaluateTops_strip
    (evaluates : ∀ scope self e, evaluateTop frames scope self e.strip = evaluateTop frames scope self e)
    (scope : Scope) (self : Option Nat) (es : List Expr) :
    evaluateTops frames scope self (Expr.stripList es) = evaluateTops frames scope self es := by
  induction es with
  | nil => rfl
  | cons e rest more => rw [Expr.stripList, evaluateTops, evaluateTops, evaluates, more]

theorem runMethod_strip (below : ∀ g < frames, IgnoresPositions g) (serial : Nat) (m : MethodDecl)
    (args : List Value) (pfx : String) :
    runMethod frames serial m.strip args pfx = runMethod frames serial m args pfx := by
  cases frames with
  | zero => rw [runMethod, runMethod]
  | succ f => rw [runMethod, runMethod, (below f (Nat.lt_succ_self f)).executeMethod]

theorem executeMethod_strip (below : ∀ g < frames, IgnoresPositions g) (serial : Nat) (m : MethodDecl)
    (args : List Value) : executeMethod frames serial m.strip args = executeMethod frames serial m args := by
  cases frames with
  | zero => rw [executeMethod, executeMethod]
  | succ f =>
    rw [executeMethod, executeMethod]
    simp only [MethodDecl.strip, (below f (Nat.lt_succ_self f)).execBlock]

/--
A block runs as its stripped form; its statements run one after another, each
with one frame less than the block.
-/
theorem execBlock_strip (below : ∀ g < frames, IgnoresPositions g) (serial : Nat) (scope : Scope)
    (body : List Stmt) : execBlock frames serial scope (Stmt.stripList body) = execBlock frames serial scope body := by
  cases frames with
  | zero => rw [execBlock, execBlock]
  | succ f =>
    have statement := (below f (Nat.lt_succ_self f)).execStmt serial
    induction body generalizing scope with
    | nil => rfl
    | cons st rest more =>
      rw [Stmt.stripList, execBlock, execBlock, statement]
      simp only [more]

/--
A statement runs as its stripped form; its expressions run with three frames
less, its blocks and calls with two.
-/
theorem execStmt_strip (below : ∀ g < frames, IgnoresPositions g) (serial : Nat) (scope : Scope) (st : Stmt) :
    execStmt frames serial scope st.strip = execStmt frames serial scope st := by
  rw [execStmt.eq_def, execStmt.eq_def]
  cases frames with
  | zero => rfl
  | succ f =>
    have expressions := below (f - 2) (by omega)
    have blocks := below (f - 1) (by omega)
    cases st with
    | assign target op value => simp only [Stmt.strip, expressions.evaluateTop]
    | ifThen condition body => simp only [Stmt.strip, expressions.evaluateTop, blocks.execBlock]
    | call name args =>
      simp only [Stmt.strip, expressions.evaluateTops]
      cases args with
      | nil => rfl
      | cons a rest => simp only [Expr.stripList, expressions.evaluateTop]
    | unknown => rfl

end Positions

/-- Every function of the interpreter runs syntax alike with its positions reset. -/
theorem ignoresPositions (frames : Nat) : IgnoresPositions frames := by
  induction frames using Nat.strongRecOn with
  | ind frames below =>
    have evaluates := evaluate_strip below
    have tops := evaluateTop_strip below
    exact
      { evaluate := evaluates
        evaluateArgs := evaluateArgs_strip evaluates
        evaluateTop := tops
        evaluateTops := evaluateTops_strip tops
        runMethod := runMethod_strip below
        executeMethod := executeMethod_strip below
        execBlock := execBlock_strip below
        execStmt := execStmt_strip below }

open Session

variable {lead : Array HostRecord × Array HostRecord}

/-! ## Steps that run no script -/

/-- Sessions holding the same scene read alike, and the built-ins that run no script keep them so. -/
theorem sameScene_faithful : Faithful (SameScene lead) where
  uniform := uniform_matched
  shareVec2 := shareVec2_matched
  log := log_matched
  note := note_matched
  reads _ _ same := same.readsAlike
  moves _ _ _ _ _ _ same := { same with world := by rw [same.world] }
  schedules _ _ _ same := { same with scheduler := rfl }
  subscribes _ _ _ same := { same with events := rfl }

theorem countEvaluation_matched : Related (SameScene lead) Eq countEvaluation countEvaluation :=
  Related.modify fun _ _ same => { same with stats := by rw [same.stats] }

theorem countStatement_matched : Related (SameScene lead) Eq countStatement countStatement :=
  Related.modify fun _ _ same => { same with stats := by rw [same.stats] }

/-! ## One step of each function -/

/-- Every function of the interpreter, run with `frames` frames, ends alike from the same scene. -/
structure RunsMatched (lead : Array HostRecord × Array HostRecord) (frames : Nat) : Prop where
  evaluate : ∀ scope self e,
    Related (SameScene lead) Eq (evaluate frames scope self e) (evaluate frames scope self e)
  evaluateArgs : ∀ scope self es,
    Related (SameScene lead) Eq (evaluateArgs frames scope self es) (evaluateArgs frames scope self es)
  evaluateTop : ∀ scope self e,
    Related (SameScene lead) Eq (evaluateTop frames scope self e) (evaluateTop frames scope self e)
  evaluateTops : ∀ scope self es,
    Related (SameScene lead) Eq (evaluateTops frames scope self es) (evaluateTops frames scope self es)
  callBuiltin : ∀ name args,
    Related (SameScene lead) Eq (callBuiltin frames name args) (callBuiltin frames name args)
  broadcast : ∀ event payload,
    Related (SameScene lead) Eq (broadcast frames event payload) (broadcast frames event payload)
  dispatch : ∀ pairs payload,
    Related (SameScene lead) Eq (dispatch frames pairs payload) (dispatch frames pairs payload)
  runMethod : ∀ serial m args pfx,
    Related (SameScene lead) Eq (runMethod frames serial m args pfx) (runMethod frames serial m args pfx)
  executeMethod : ∀ serial m args,
    Related (SameScene lead) Eq (executeMethod frames serial m args) (executeMethod frames serial m args)
  execBlock : ∀ serial scope body,
    Related (SameScene lead) Eq (execBlock frames serial scope body) (execBlock frames serial scope body)
  execStmt : ∀ serial scope st,
    Related (SameScene lead) Eq (execStmt frames serial scope st) (execStmt frames serial scope st)
  destroyEntity : ∀ target,
    Related (SameScene lead) Eq (destroyEntity frames target) (destroyEntity frames target)
  createEntity : ∀ kind position driver,
    Related (SameScene lead) Eq (createEntity frames kind position driver)
      (createEntity frames kind position driver)

/-- Methods that agree up to positions run alike: each runs as its copy with positions reset. -/
theorem runMethod_of_strip {frames : Nat}
    (runs : ∀ serial m args pfx, Related (SameScene lead) Eq
      (runMethod frames serial m args pfx) (runMethod frames serial m args pfx))
    (serial : Nat) {m m' : MethodDecl} (stripped : m.strip = m'.strip) (args : List Value) (pfx : String) :
    Related (SameScene lead) Eq (runMethod frames serial m args pfx) (runMethod frames serial m' args pfx) := by
  rw [← (ignoresPositions frames).runMethod serial m, ← (ignoresPositions frames).runMethod serial m',
    stripped]
  exact runs serial _ args pfx

theorem executeMethod_of_strip {frames : Nat}
    (runs : ∀ serial m args, Related (SameScene lead) Eq
      (executeMethod frames serial m args) (executeMethod frames serial m args))
    (serial : Nat) {m m' : MethodDecl} (stripped : m.strip = m'.strip) (args : List Value) :
    Related (SameScene lead) Eq (executeMethod frames serial m args) (executeMethod frames serial m' args) := by
  rw [← (ignoresPositions frames).executeMethod serial m, ← (ignoresPositions frames).executeMethod serial m',
    stripped]
  exact runs serial _ args

section Steps

variable {frames : Nat}

/--
An expression evaluates alike in the same scene; a call's arguments and the
call itself each take one frame less.
-/
theorem evaluate_matched (below : ∀ g < frames, RunsMatched lead g) (scope : Scope) (self : Option Nat)
    (e : Expr) : Related (SameScene lead) Eq (evaluate frames scope self e) (evaluate frames scope self e) := by
  rw [evaluate.eq_def]
  cases frames with
  | zero => exact Related.throw _
  | succ f =>
    have matched := below f (Nat.lt_succ_self f)
    cases e with
    | literal lit => exact Related.pure rfl
    | identifier name =>
      dsimp only
      refine Related.ite _ (fun _ => Related.throw_bind _) fun _ => ?_
      cases scope.get? name with
      | some v => exact Related.pure rfl
      | none =>
        cases self with
        | some serial =>
          exact (component_matched serial).bind fun c c' stripped =>
            Related.pure (by rw [Component.field?_of_strip stripped])
        | none => exact Related.pure rfl
    | unary op operand =>
      dsimp only
      refine (matched.evaluate scope self operand).bind_same fun v => ?_
      exact Related.ite _ (fun _ => Related.throw_bind _) fun _ => Related.pure rfl
    | binary op left right =>
      dsimp only
      refine (matched.evaluate scope self left).bind_same fun l => ?_
      refine (matched.evaluate scope self right).bind_same fun r => ?_
      exact Related.ite _ (fun _ => Related.throw_bind _) fun _ => binary_related sameScene_faithful op l r
    | call name args =>
      have inner := below (f - 1) (by omega)
      exact (inner.evaluateArgs scope self args).bind_same fun values => inner.callBuiltin name values

theorem evaluateArgs_matched
    (evaluates : ∀ scope self e,
      Related (SameScene lead) Eq (evaluate frames scope self e) (evaluate frames scope self e))
    (scope : Scope) (self : Option Nat) (es : List Expr) :
    Related (SameScene lead) Eq (evaluateArgs frames scope self es) (evaluateArgs frames scope self es) := by
  induction es with
  | nil =>
    rw [evaluateArgs]
    exact Related.pure rfl
  | cons e rest more =>
    rw [evaluateArgs]
    exact (evaluates scope self e).bind_same fun v => more.bind_same fun vs => Related.pure rfl

theorem evaluateTop_matched (below : ∀ g < frames, RunsMatched lead g) (scope : Scope) (self : Option Nat)
    (e : Expr) :
    Related (SameScene lead) Eq (evaluateTop frames scope self e) (evaluateTop frames scope self e) := by
  cases frames with
  | zero =>
    rw [evaluateTop]
    exact Related.throw _
  | succ f =>
    rw [evaluateTop]
    exact Related.tryFinally ((below f (Nat.lt_succ_self f)).evaluate scope self e) countEvaluation_matched

theorem evaluateTops_matched
    (evaluates : ∀ scope self e,
      Related (SameScene lead) Eq (evaluateTop frames scope self e) (evaluateTop frames scope self e))
    (scope : Scope) (self : Option Nat) (es : List Expr) :
    Related (SameScene lead) Eq (evaluateTops frames scope self es) (evaluateTops frames scope self es) := by
  induction es with
  | nil =>
    rw [evaluateTops]
    exact Related.pure rfl
  | cons e rest more =>
    rw [evaluateTops]
    exact (evaluates scope self e).bind_same fun v => more.bind_same fun vs => Related.pure rfl

/--
A built-in runs alike in the same scene; those that run scripts take three
frames less, a failure of the built-in itself is logged and answers 0 on both
sides, and an entity is made at a position read alike.
-/
theorem callBuiltin_matched (below : ∀ g < frames, RunsMatched lead g) (name : String) (args : List Value) :
    Related (SameScene lead) Eq (callBuiltin frames name args) (callBuiltin frames name args) := by
  rw [callBuiltin.eq_def]
  cases frames with
  | zero => exact Related.throw _
  | succ f =>
    have inner := below (f - 2) (by omega)
    dsimp only
    refine Related.ite _ (fun _ => (log_matched _ _ _).bind_same fun _ => Related.pure rfl) fun _ => ?_
    refine (countUse_matched name).bind_same fun _ => ?_
    refine Related.tryCatch ?_ fun fault =>
      Related.ite _ (fun _ => (log_matched _ _ _).bind_same fun _ => Related.pure rfl) fun _ => Related.throw _
    refine Related.ite _ (fun _ => Related.throw_bind _) fun _ => ?_
    split
    · have placed : ∀ position : Option Vec2, Related (SameScene lead) Eq
          (get >>= fun s => ofExcept (s.format (Builtin.arg args 0)) >>= fun kind =>
            createEntity (f - 2) kind position none >>= fun id => pure (Value.entity id))
          (get >>= fun s => ofExcept (s.format (Builtin.arg args 0)) >>= fun kind =>
            createEntity (f - 2) kind position none >>= fun id => pure (Value.entity id)) := by
        intro position
        refine Related.get_bind fun s t same => ?_
        rw [same.readsAlike.format]
        exact (Related.ofExcept _).bind_same fun kind =>
          (inner.createEntity kind position none).bind_same fun id => Related.pure rfl
      cases Builtin.given? args 1 with
      | none => exact (Related.pure rfl).bind_same placed
      | some v =>
        refine Related.get_bind fun s t same => ?_
        rw [same.readsAlike.vectorView]
        exact ((Related.ofExcept _).map fun _ _ found => by rw [found]).bind_same placed
    · exact (inner.destroyEntity _).bind_same fun _ => Related.pure rfl
    · refine Related.get_bind fun s t same => ?_
      rw [same.readsAlike.format]
      exact (Related.ofExcept _).bind_same fun event =>
        (inner.broadcast event _).bind_same fun _ => Related.pure rfl
    · exact Builtin.leaf_related sameScene_faithful name args

/-- A broadcast runs alike in the same scene; its handlers run with three frames less. -/
theorem broadcast_matched (below : ∀ g < frames, RunsMatched lead g) (event : String) (payload : Value) :
    Related (SameScene lead) Eq (broadcast frames event payload) (broadcast frames event payload) := by
  cases frames with
  | zero =>
    rw [broadcast]
    exact Related.throw _
  | succ f =>
    have handlers := (below (f - 2) (by omega)).dispatch
    rw [broadcast]
    refine (share_matched payload).bind_same fun shared => ?_
    refine Related.get_bind fun s t same => ?_
    rw [same.activeSerials, same.events]
    exact (Related.set { same with events := rfl }).bind_same fun _ => handlers _ shared

/--
The turns of a broadcast run alike in the same scene: a handler runs where
both instances are active and have the method, up to positions.
-/
theorem dispatch_matched
    (runs : ∀ serial m args pfx, Related (SameScene lead) Eq
      (runMethod frames serial m args pfx) (runMethod frames serial m args pfx))
    (pairs : List (String × Nat)) (payload : Value) :
    Related (SameScene lead) Eq (dispatch frames pairs payload) (dispatch frames pairs payload) := by
  induction pairs with
  | nil =>
    rw [dispatch]
    exact Related.pure rfl
  | cons pair rest more =>
    obtain ⟨handler, serial⟩ := pair
    rw [dispatch]
    have counted : ∀ here : Nat, Related (SameScene lead) Eq
        (dispatch frames rest payload >>= fun more => pure (here + more))
        (dispatch frames rest payload >>= fun more => pure (here + more)) :=
      fun here => more.bind_same fun _ => Related.pure rfl
    refine (component_matched serial).bind fun c c' stripped => ?_
    rw [Component.active_of_strip stripped, Component.name_of_strip stripped]
    rcases Component.method?_cases stripped handler with ⟨found, found'⟩ | ⟨m, m', found, found', methods⟩
    · rw [found, found']
      cases c'.active <;> exact (Related.pure rfl).bind_same counted
    · rw [found, found']
      cases c'.active
      · exact (Related.pure rfl).bind_same counted
      · dsimp only
        exact (runMethod_of_strip runs serial methods _ _).bind_same fun _ =>
          (Related.pure rfl).bind_same counted

/--
A method run goes alike in the same scene; a call nested too deep and the host
stack are logged alike, and other faults pass on.
-/
theorem runMethod_matched (below : ∀ g < frames, RunsMatched lead g) (serial : Nat) (m : MethodDecl)
    (args : List Value) (pfx : String) :
    Related (SameScene lead) Eq (runMethod frames serial m args pfx) (runMethod frames serial m args pfx) := by
  cases frames with
  | zero =>
    rw [runMethod]
    exact Related.throw _
  | succ f =>
    rw [runMethod]
    refine Related.tryCatch ((below f (Nat.lt_succ_self f)).executeMethod serial m args) fun fault => ?_
    split
    · exact log_matched _ _ _
    · exact log_matched _ _ _
    · exact Related.throw _

/--
A method goes alike in the same scene; its component stays on the call stack
while the body runs, and is popped on both outcomes.
-/
theorem executeMethod_matched (below : ∀ g < frames, RunsMatched lead g) (serial : Nat) (m : MethodDecl)
    (args : List Value) :
    Related (SameScene lead) Eq (executeMethod frames serial m args) (executeMethod frames serial m args) := by
  cases frames with
  | zero =>
    rw [executeMethod]
    exact Related.throw _
  | succ f =>
    have body := (below f (Nat.lt_succ_self f)).execBlock serial
    rw [executeMethod]
    refine (Related.mapM_same fun v => share_matched v).bind_same fun shared => ?_
    refine Related.get_bind fun s t same => ?_
    rw [same.callStack, same.settings]
    refine Related.ite _ (fun _ => Related.throw_bind _) fun _ => ?_
    refine (Related.set { same with settings := rfl, callStack := rfl, stats := by rw [same.stats] }).bind_same fun _ => ?_
    exact Related.tryFinally (body _ m.body).discard
      (Related.modify fun s t same => { same with callStack := by rw [same.callStack] })

/--
A block goes alike in the same scene; its statements run one after another,
each with one frame less than the block.
-/
theorem execBlock_matched (below : ∀ g < frames, RunsMatched lead g) (serial : Nat) (scope : Scope)
    (body : List Stmt) :
    Related (SameScene lead) Eq (execBlock frames serial scope body) (execBlock frames serial scope body) := by
  cases frames with
  | zero =>
    rw [execBlock]
    exact Related.throw _
  | succ f =>
    have statement := (below f (Nat.lt_succ_self f)).execStmt serial
    induction body generalizing scope with
    | nil =>
      rw [execBlock.eq_2 _ _ _ (Nat.succ_ne_zero f)]
      exact Related.pure rfl
    | cons st rest more =>
      rw [execBlock]
      exact (statement scope st).bind_same fun scope => more scope

/--
A statement goes alike in the same scene.  Its expressions run with three
frames less, its calls with two; an assignment's result is stamped and written
to a field or the scope; a component that destroys itself is deactivated, a
spawn is only logged, and an unknown function is counted in the books and
logged.
-/
theorem execStmt_matched (below : ∀ g < frames, RunsMatched lead g) (serial : Nat) (scope : Scope) (st : Stmt) :
    Related (SameScene lead) Eq (execStmt frames serial scope st) (execStmt frames serial scope st) := by
  rw [execStmt.eq_def]
  cases frames with
  | zero => exact Related.throw _
  | succ f =>
    have expressions := below (f - 2) (by omega)
    have calls := below (f - 1) (by omega)
    dsimp only
    refine countStatement_matched.bind_same fun _ => ?_
    cases st with
    | assign target op value =>
      dsimp only
      have stored : ∀ result : Value, Related (SameScene lead) Eq
          (do
            let result ← share result
            if (← component serial).hasField target then
              modifyComponent serial (·.setField target result)
              return scope
            else return Scope.bind scope target result)
          (do
            let result ← share result
            if (← component serial).hasField target then
              modifyComponent serial (·.setField target result)
              return scope
            else return Scope.bind scope target result) := by
        intro result
        refine (share_matched result).bind_same fun shared => ?_
        refine (component_matched serial).bind fun c c' stripped => ?_
        rw [Component.hasField_of_strip stripped]
        refine Related.ite _ (fun _ => ?_) fun _ => Related.pure rfl
        refine (modifyComponent_matched serial fun c c' stripped => ?_).bind_same fun _ => Related.pure rfl
        rw [Component.setField_strip, Component.setField_strip, stripped]
      refine (component_matched serial).bind fun c c' stripped => ?_
      rw [Component.hasField_of_strip stripped, Component.field?_of_strip stripped]
      refine (expressions.evaluateTop scope (some serial) value).bind_same fun v => ?_
      cases op with
      | set => exact (Related.pure rfl).bind_same stored
      | compound bop => exact (binary_related sameScene_faithful bop _ v).bind_same stored
    | ifThen condition body =>
      dsimp only
      refine (expressions.evaluateTop scope (some serial) condition).bind_same fun v => ?_
      exact Related.ite _ (fun _ => calls.execBlock serial scope body) fun _ => Related.pure rfl
    | call name args =>
      dsimp only
      refine Related.ite _ (fun _ => ?_) fun _ => Related.ite _ (fun _ => ?_) fun _ => ?_
      · refine (modifyComponent_matched serial fun c c' stripped => ?_).bind_same fun _ => ?_
        · rw [Component.strip_deactivate, Component.strip_deactivate, stripped]
        refine (component_matched serial).bind fun c c' stripped => ?_
        rw [Component.name_of_strip stripped]
        exact (log_matched _ _ _).bind_same fun _ => Related.pure rfl
      · cases args with
        | nil => exact Related.pure rfl
        | cons a _ =>
          refine (expressions.evaluateTop scope (some serial) a).bind_same fun v => ?_
          refine Related.get_bind fun s t same => ?_
          have named : (s.component serial).name = (t.component serial).name :=
            Component.name_of_strip (same.component serial)
          rw [same.readsAlike.format, named]
          exact (Related.ofExcept _).bind_same fun shown => (log_matched _ _ _).bind_same fun _ =>
            Related.pure rfl
      · refine (expressions.evaluateTops scope (some serial) args).bind_same fun values => ?_
        refine Related.ite _ (fun _ => (calls.callBuiltin name values).discard.bind_same fun _ =>
          Related.pure rfl) fun _ => ?_
        refine (component_matched serial).bind fun c c' stripped => ?_
        rcases Component.method?_cases stripped name with ⟨found, found'⟩ | ⟨m, m', found, found', methods⟩
        · rw [found, found']
          refine (Related.modify fun _ _ same => ?_).bind_same fun _ =>
            (log_matched _ _ _).bind_same fun _ => Related.pure rfl
          exact { same with stats := by rw [same.stats] }
        · rw [found, found']
          exact (executeMethod_of_strip calls.executeMethod serial methods values).bind_same fun _ =>
            Related.pure rfl
    | unknown => exact Related.pure rfl

/--
A destruction goes alike in the same scene.  An entity names itself and any
other value reads as a number; `onDestroy` runs with the entity marked as
being destroyed, the mark comes off on both outcomes, and then come the
announcement and the entity retired and logged.
-/
theorem destroyEntity_matched (below : ∀ g < frames, RunsMatched lead g) (target : Value) :
    Related (SameScene lead) Eq (destroyEntity frames target) (destroyEntity frames target) := by
  rw [destroyEntity.eq_def]
  cases frames with
  | zero => exact Related.throw _
  | succ f =>
    have inner := below f (Nat.lt_succ_self f)
    dsimp -zeta only
    extract_lets named
    have finish : ∀ e : Entity, Related (SameScene lead) Eq
        (do
          let now := ((← get).world.find? e.id).getD e
          let _ ← broadcast f "entityDestroyed"
            (.map 0 [(.str "id", .int now.id), (.str "type", .str now.kind),
              (.str "position", .vec2 now.position), (.str "lifespan", .float now.lifespan 0)])
          modify fun s => s.retire e
          log .info ("Entity destroyed: " ++ e.name) (some e.id)
          return true)
        (do
          let now := ((← get).world.find? e.id).getD e
          let _ ← broadcast f "entityDestroyed"
            (.map 0 [(.str "id", .int now.id), (.str "type", .str now.kind),
              (.str "position", .vec2 now.position), (.str "lifespan", .float now.lifespan 0)])
          modify fun s => s.retire e
          log .info ("Entity destroyed: " ++ e.name) (some e.id)
          return true) := by
      intro e
      refine Related.get_bind fun u v same => ?_
      rw [same.world]
      refine (inner.broadcast "entityDestroyed" _).bind_same fun _ => ?_
      refine (Related.modify fun s t same => same.retire e).bind_same fun _ => ?_
      exact (log_matched _ _ _).bind_same fun _ => Related.pure rfl
    have destroys : ∀ id, Related (SameScene lead) Eq (named id) (named id) := by
      intro id
      simp -zeta only [named]
      refine Related.get_bind fun s t same => ?_
      rw [same.world]
      by_cases negative : id < 0
      · simp only [negative, if_true]
        exact Related.pure rfl
      simp only [negative, if_false]
      cases t.world.get? id.toNat with
      | none => exact Related.pure rfl
      | some e =>
        dsimp only
        simp only [same.destroying]
        refine Related.ite _ (fun _ => Related.pure rfl) fun _ => ?_
        obtain ⟨id, kind, position, properties, _ | serial, active, lifespan, listed⟩ := e
        · exact finish ⟨id, kind, position, properties, none, active, lifespan, listed⟩
        · dsimp only
          rcases Component.method?_cases (same.component serial) "onDestroy" with
            ⟨found, found'⟩ | ⟨m, m', found, found', methods⟩
          · rw [found, found']
            exact finish ⟨id, kind, position, properties, some serial, active, lifespan, listed⟩
          · rw [found, found']
            refine (Related.modify fun s t same => ?_).bind_same fun _ => ?_
            · exact { same with destroying := by rw [same.destroying] }
            refine (Related.tryFinally (runMethod_of_strip inner.runMethod _ methods [] _)
              (Related.modify fun s t same => ?_)).bind_same fun _ => ?_
            · exact { same with destroying := by rw [same.destroying] }
            exact finish ⟨id, kind, position, properties, some serial, active, lifespan, listed⟩
    split
    · exact (Related.pure rfl).bind_same destroys
    · exact (Related.ofExcept _).bind_same destroys

/--
Creating an entity goes alike in the same scene; both sides go on with the one
join point once the position is chosen.
-/
theorem createEntity_matched (below : ∀ g < frames, RunsMatched lead g) (kind : String)
    (position : Option Vec2) (driver : Option Nat) :
    Related (SameScene lead) Eq (createEntity frames kind position driver)
      (createEntity frames kind position driver) := by
  rw [createEntity.eq_def]
  cases frames with
  | zero => exact Related.throw _
  | succ f =>
    have inner := below f (Nat.lt_succ_self f)
    dsimp -zeta only
    extract_lets placing
    have placed : ∀ p, Related (SameScene lead) Eq (placing p) (placing p) := by
      intro p
      simp -zeta only [placing]
      refine (shareVec2_matched p).bind_same fun q => ?_
      refine Related.get_bind fun s t same => ?_
      rw [same.world]
      rcases t.world.create kind q driver with ⟨e, world⟩
      dsimp only
      refine (Related.set { same with world := rfl }).bind_same fun _ => ?_
      refine (inner.broadcast "entityCreated" _).bind_same fun _ => ?_
      refine Related.get_bind fun u v same => ?_
      rw [same.world]
      exact (log_matched _ _ _).bind_same fun _ => Related.pure rfl
    cases position with
    | none => exact (spawnPosition_related sameScene_faithful).bind_same placed
    | some p => exact (Related.pure rfl).bind_same placed

end Steps

/-- Every function of the interpreter, run with any number of frames, ends alike from the same scene. -/
theorem runsMatched (frames : Nat) : RunsMatched lead frames := by
  induction frames using Nat.strongRecOn with
  | ind frames below =>
    have evaluates := evaluate_matched below
    have tops := evaluateTop_matched below
    have runs := runMethod_matched below
    exact
      { evaluate := evaluates
        evaluateArgs := evaluateArgs_matched evaluates
        evaluateTop := tops
        evaluateTops := evaluateTops_matched tops
        callBuiltin := callBuiltin_matched below
        broadcast := broadcast_matched below
        dispatch := dispatch_matched runs
        runMethod := runs
        executeMethod := executeMethod_matched below
        execBlock := execBlock_matched below
        execStmt := execStmt_matched below
        destroyEntity := destroyEntity_matched below
        createEntity := createEntity_matched below }

end Sim

end GameScript

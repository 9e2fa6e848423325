import GameScript.Proofs.HiddenMethods
import GameScript.Proofs.JoinedLoad

/-!
# Nothing reads the methods of a dormant instance

An inactive instance's methods can still run in four ways only: a host calls
one, an active entity it drives is destroyed and runs its `onDestroy`, it is
being made and runs its `init`, or one of its methods is already running and
goes on, calling more of its own.  Past all four the instance is dormant
(`Session.Dormant`): in the store, inactive, not running, driving no active
entity.

This module proves that nothing else reaches a dormant instance's methods:
run from a session and from the same session with the instance's methods
taken away, every function of the interpreter ends alike, on behalf of any
other instance (`Sim.runsHidden`), and so does every request of a host but a
call of the instance, the creation of an entity it drives, and a reset
(`Sim.answer_hidden`): the two give the same replies and log entries, and the
instance stays dormant (`Session.Hidden.perform`).  The update phase of a tick, the due callbacks and
the turns of a broadcast never run a method of a dormant instance, whatever
its methods are.
-/

namespace GameScript

/-- Writing a field commutes with taking an instance's methods away. -/
theorem Component.setField_hideMethods (c : Component) (name : String) (v : Value) :
    ({ c with methods := [] } : Component).setField name v = { c.setField name v with methods := [] } := by
  by_cases present : c.fields.any (·.1 == name) = true <;>
    simp only [Component.setField, Component.hasField, present, Bool.false_eq_true, if_true, if_false]

/--
Whether a request reaches the instance `k` by its name: a host call of one of
its methods, or an entity made for it to drive.
-/
def Request.wakes (k : Nat) (s : Session) : Request → Bool
  | .call name _ _ => s.lookup? name == some k
  | .createEntity _ _ name => name.bind s.lookup? == some k
  | _ => false

namespace Sim

open Session

variable {k : Nat}

/-! ## One step of each function -/

/--
Every function of the interpreter, run with `frames` frames, ends alike from
sessions that differ in the methods of a dormant instance `k`, when it runs
on behalf of another instance, and when the entity it creates is not driven
by `k`.
-/
structure RunsHidden (k frames : Nat) : Prop where
  evaluate : ∀ scope self e, Related (Hidden k) Eq (evaluate frames scope self e) (evaluate frames scope self e)
  evaluateArgs : ∀ scope self es,
    Related (Hidden k) Eq (evaluateArgs frames scope self es) (evaluateArgs frames scope self es)
  evaluateTop : ∀ scope self e,
    Related (Hidden k) Eq (evaluateTop frames scope self e) (evaluateTop frames scope self e)
  evaluateTops : ∀ scope self es,
    Related (Hidden k) Eq (evaluateTops frames scope self es) (evaluateTops frames scope self es)
  callBuiltin : ∀ name args, Related (Hidden k) Eq (callBuiltin frames name args) (callBuiltin frames name args)
  broadcast : ∀ event payload,
    Related (Hidden k) Eq (broadcast frames event payload) (broadcast frames event payload)
  dispatch : ∀ pairs payload, Related (Hidden k) Eq (dispatch frames pairs payload) (dispatch frames pairs payload)
  runMethod : ∀ serial, serial ≠ k → ∀ m args pfx,
    Related (Hidden k) Eq (runMethod frames serial m args pfx) (runMethod frames serial m args pfx)
  executeMethod : ∀ serial, serial ≠ k → ∀ m args,
    Related (Hidden k) Eq (executeMethod frames serial m args) (executeMethod frames serial m args)
  execBlock : ∀ serial, serial ≠ k → ∀ scope body,
    Related (Hidden k) Eq (execBlock frames serial scope body) (execBlock frames serial scope body)
  execStmt : ∀ serial, serial ≠ k → ∀ scope st,
    Related (Hidden k) Eq (execStmt frames serial scope st) (execStmt frames serial scope st)
  destroyEntity : ∀ target, Related (Hidden k) Eq (destroyEntity frames target) (destroyEntity frames target)
  createEntity : ∀ kind position driver, driver ≠ some k →
    Related (Hidden k) Eq (createEntity frames kind position driver) (createEntity frames kind position driver)

section Steps

variable {frames : Nat}

theorem evaluate_hidden (below : ∀ g < frames, RunsHidden k g) (scope : Scope) (self : Option Nat) (e : Expr) :
    Related (Hidden k) Eq (evaluate frames scope self e) (evaluate frames scope self e) := by
  rw [evaluate.eq_def]
  cases frames with
  | zero => exact Related.throw _
  | succ f =>
    have inner := below f (Nat.lt_succ_self f)
    cases e with
    | literal lit => exact Related.pure rfl
    | identifier name =>
      dsimp only
      refine Related.ite _ (fun _ => Related.throw_bind _) fun _ => ?_
      cases scope.get? name with
      | some v => exact Related.pure rfl
      | none =>
        cases self with
        | some serial =>
          exact (component_hidden serial).bind fun c c' read => Related.pure (by rw [read.1.field?])
        | none => exact Related.pure rfl
    | unary op operand =>
      dsimp only
      refine (inner.evaluate scope self operand).bind_same fun v => ?_
      exact Related.ite _ (fun _ => Related.throw_bind _) fun _ => Related.pure rfl
    | binary op left right =>
      dsimp only
      refine (inner.evaluate scope self left).bind_same fun l => ?_
      refine (inner.evaluate scope self right).bind_same fun r => ?_
      exact Related.ite _ (fun _ => Related.throw_bind _) fun _ => binary_related hidden_faithful op l r
    | call name args =>
      have call := below (f - 1) (by omega)
      exact (call.evaluateArgs scope self args).bind_same fun values => call.callBuiltin name values

theorem evaluateArgs_hidden
    (evaluates : ∀ scope self e, Related (Hidden k) Eq (evaluate frames scope self e) (evaluate frames scope self e))
    (scope : Scope) (self : Option Nat) (es : List Expr) :
    Related (Hidden k) Eq (evaluateArgs frames scope self es) (evaluateArgs frames scope self es) := by
  induction es with
  | nil =>
    rw [evaluateArgs]
    exact Related.pure rfl
  | cons e rest more =>
    rw [evaluateArgs]
    exact (evaluates scope self e).bind_same fun v => more.bind_same fun vs => Related.pure rfl

theorem evaluateTop_hidden (below : ∀ g < frames, RunsHidden k g) (scope : Scope) (self : Option Nat) (e : Expr) :
    Related (Hidden k) Eq (evaluateTop frames scope self e) (evaluateTop frames scope self e) := by
  cases frames with
  | zero =>
    rw [evaluateTop]
    exact Related.throw _
  | succ f =>
    rw [evaluateTop]
    exact Related.tryFinally ((below f (Nat.lt_succ_self f)).evaluate scope self e) countEvaluation_hidden

theorem evaluateTops_hidden
    (evaluates : ∀ scope self e,
      Related (Hidden k) Eq (evaluateTop frames scope self e) (evaluateTop frames scope self e))
    (scope : Scope) (self : Option Nat) (es : List Expr) :
    Related (Hidden k) Eq (evaluateTops frames scope self es) (evaluateTops frames scope self es) := by
  induction es with
  | nil =>
    rw [evaluateTops]
    exact Related.pure rfl
  | cons e rest more =>
    rw [evaluateTops]
    exact (evaluates scope self e).bind_same fun v => more.bind_same fun vs => Related.pure rfl

theorem callBuiltin_hidden (below : ∀ g < frames, RunsHidden k g) (name : String) (args : List Value) :
    Related (Hidden k) Eq (callBuiltin frames name args) (callBuiltin frames name args) := by
  rw [callBuiltin.eq_def]
  cases frames with
  | zero => exact Related.throw _
  | succ f =>
    have inner := below (f - 2) (by omega)
    dsimp only
    refine Related.ite _ (fun _ => (log_hidden _ _ _).bind_same fun _ => Related.pure rfl) fun _ => ?_
    refine (countUse_hidden name).bind_same fun _ => ?_
    refine Related.tryCatch ?_ fun fault =>
      Related.ite _ (fun _ => (log_hidden _ _ _).bind_same fun _ => Related.pure rfl) fun _ => Related.throw _
    refine Related.ite _ (fun _ => Related.throw_bind _) fun _ => ?_
    split
    · have placed : ∀ position : Option Vec2, Related (Hidden k) Eq
          (get >>= fun s => ofExcept (s.format (Builtin.arg args 0)) >>= fun kind =>
            createEntity (f - 2) kind position none >>= fun id => pure (Value.entity id))
          (get >>= fun s => ofExcept (s.format (Builtin.arg args 0)) >>= fun kind =>
            createEntity (f - 2) kind position none >>= fun id => pure (Value.entity id)) := by
        intro position
        refine Related.get_bind fun s t hidden => ?_
        rw [hidden.readsAlike.format]
        exact (Related.ofExcept _).bind_same fun kind =>
          (inner.createEntity kind position none (Option.some_ne_none k).symm).bind_same fun id => Related.pure rfl
      cases Builtin.given? args 1 with
      | none => exact (Related.pure rfl).bind_same placed
      | some v =>
        refine Related.get_bind fun s t hidden => ?_
        rw [hidden.readsAlike.vectorView]
        exact ((Related.ofExcept _).map fun _ _ found => by rw [found]).bind_same placed
    · exact (inner.destroyEntity _).bind_same fun _ => Related.pure rfl
    · refine Related.get_bind fun s t hidden => ?_
      rw [hidden.readsAlike.format]
      exact (Related.ofExcept _).bind_same fun event =>
        (inner.broadcast event _).bind_same fun _ => Related.pure rfl
    · exact Builtin.leaf_related hidden_faithful name args

theorem broadcast_hidden (below : ∀ g < frames, RunsHidden k g) (event : String) (payload : Value) :
    Related (Hidden k) Eq (broadcast frames event payload) (broadcast frames event payload) := by
  cases frames with
  | zero =>
    rw [broadcast]
    exact Related.throw _
  | succ f =>
    have handlers := (below (f - 2) (by omega)).dispatch
    rw [broadcast]
    refine (share_hidden payload).bind_same fun shared => ?_
    refine Related.get_bind fun s t hidden => ?_
    obtain ⟨rfl, dormant⟩ := hidden
    rw [activeSerials_hideMethods, hideMethods_events]
    exact (Related.set ⟨rfl, dormant.of_books rfl rfl rfl⟩).bind_same fun _ => handlers _ shared

theorem dispatch_hidden
    (runs : ∀ serial, serial ≠ k → ∀ m args pfx,
      Related (Hidden k) Eq (runMethod frames serial m args pfx) (runMethod frames serial m args pfx))
    (pairs : List (String × Nat)) (payload : Value) :
    Related (Hidden k) Eq (dispatch frames pairs payload) (dispatch frames pairs payload) := by
  induction pairs with
  | nil =>
    rw [dispatch]
    exact Related.pure rfl
  | cons pair rest more =>
    obtain ⟨handler, serial⟩ := pair
    rw [dispatch]
    have counted : ∀ here : Nat, Related (Hidden k) Eq
        (dispatch frames rest payload >>= fun more => pure (here + more))
        (dispatch frames rest payload >>= fun more => pure (here + more)) :=
      fun here => more.bind_same fun _ => Related.pure rfl
    by_cases other : serial = k
    · subst other
      refine component_hidden_self.bind fun c c' inactive => ?_
      simp only [inactive.1, inactive.2]
      exact (Related.pure rfl).bind_same counted
    · refine (component_hidden serial).bind fun c c' read => ?_
      rw [read.2 other]
      cases c.active
      · exact (Related.pure rfl).bind_same counted
      · cases c.method? handler with
        | none => exact (Related.pure rfl).bind_same counted
        | some m =>
          exact (runs serial other m _ _).bind_same fun _ => (Related.pure rfl).bind_same counted

theorem runMethod_hidden (below : ∀ g < frames, RunsHidden k g) (serial : Nat) (other : serial ≠ k)
    (m : MethodDecl) (args : List Value) (pfx : String) :
    Related (Hidden k) Eq (runMethod frames serial m args pfx) (runMethod frames serial m args pfx) := by
  cases frames with
  | zero =>
    rw [runMethod]
    exact Related.throw _
  | succ f =>
    rw [runMethod]
    refine Related.tryCatch ((below f (Nat.lt_succ_self f)).executeMethod serial other m args) fun fault => ?_
    split
    · exact log_hidden _ _ _
    · exact log_hidden _ _ _
    · exact Related.throw _

theorem executeMethod_hidden (below : ∀ g < frames, RunsHidden k g) (serial : Nat) (other : serial ≠ k)
    (m : MethodDecl) (args : List Value) :
    Related (Hidden k) Eq (executeMethod frames serial m args) (executeMethod frames serial m args) := by
  cases frames with
  | zero =>
    rw [executeMethod]
    exact Related.throw _
  | succ f =>
    have body := (below f (Nat.lt_succ_self f)).execBlock serial other
    rw [executeMethod]
    refine (Related.mapM_same fun v => share_hidden v).bind_same fun shared => ?_
    refine Related.get_bind fun s t hidden => ?_
    obtain ⟨rfl, dormant⟩ := hidden
    rw [hideMethods_callStack, hideMethods_settings]
    refine Related.ite _ (fun _ => Related.throw_bind _) fun _ => ?_
    refine (Related.set ⟨rfl, dormant.enter other _⟩).bind_same fun _ => ?_
    exact Related.tryFinally (body _ m.body).discard
      (Related.modify fun s t hidden => ⟨by rw [hidden.hides]; rfl, hidden.dormant.leave⟩)

theorem execBlock_hidden (below : ∀ g < frames, RunsHidden k g) (serial : Nat) (other : serial ≠ k)
    (scope : Scope) (body : List Stmt) :
    Related (Hidden k) Eq (execBlock frames serial scope body) (execBlock frames serial scope body) := by
  cases frames with
  | zero =>
    rw [execBlock]
    exact Related.throw _
  | succ f =>
    have statement := (below f (Nat.lt_succ_self f)).execStmt serial other
    induction body generalizing scope with
    | nil =>
      rw [execBlock.eq_2 _ _ _ (Nat.succ_ne_zero f)]
      exact Related.pure rfl
    | cons st rest more =>
      rw [execBlock]
      exact (statement scope st).bind_same fun scope => more scope

theorem execStmt_hidden (below : ∀ g < frames, RunsHidden k g) (serial : Nat) (other : serial ≠ k) (scope : Scope)
    (st : Stmt) : Related (Hidden k) Eq (execStmt frames serial scope st) (execStmt frames serial scope st) := by
  rw [execStmt.eq_def]
  cases frames with
  | zero => exact Related.throw _
  | succ f =>
    have expressions := below (f - 2) (by omega)
    have calls := below (f - 1) (by omega)
    have own : Related (Hidden k) Eq (component serial) (component serial) :=
      (component_hidden serial).weaken fun _ _ read => (read.2 other).symm
    dsimp only
    refine countStatement_hidden.bind_same fun _ => ?_
    cases st with
    | assign target op value =>
      dsimp only
      have stored : ∀ result : Value, Related (Hidden k) Eq
          (do
            let result ← share result
            if (← component serial).hasField target then
              modifyComponent serial (·.setField target result)
              return scope
            else return Scope.bind scope target result)
          (do
            let result ← share result
            if (← component serial).hasField target then
              modifyComponent serial (·.setField target result)
              return scope
            else return Scope.bind scope target result) := by
        intro result
        refine (share_hidden result).bind_same fun shared => own.bind_same fun c => ?_
        refine Related.ite _ (fun _ => ?_) fun _ => Related.pure rfl
        exact (modifyComponent_hidden serial (fun c => Component.setField_hideMethods c _ _)
          fun c => by simp).bind_same fun _ => Related.pure rfl
      refine own.bind_same fun c => ?_
      refine (expressions.evaluateTop scope (some serial) value).bind_same fun v => ?_
      cases op with
      | set => exact (Related.pure rfl).bind_same stored
      | compound bop => exact (binary_related hidden_faithful bop _ v).bind_same stored
    | ifThen condition body =>
      dsimp only
      refine (expressions.evaluateTop scope (some serial) condition).bind_same fun v => ?_
      exact Related.ite _ (fun _ => calls.execBlock serial other scope body) fun _ => Related.pure rfl
    | call name args =>
      dsimp only
      refine Related.ite _ (fun _ => ?_) fun _ => Related.ite _ (fun _ => ?_) fun _ => ?_
      · refine (modifyComponent_hidden serial (fun _ => rfl)
          fun _ raised => absurd raised Bool.false_ne_true).bind_same fun _ => ?_
        exact own.bind_same fun c => (log_hidden _ _ _).bind_same fun _ => Related.pure rfl
      · cases args with
        | nil => exact Related.pure rfl
        | cons a _ =>
          refine (expressions.evaluateTop scope (some serial) a).bind_same fun v => ?_
          refine Related.get_bind fun s t hidden => ?_
          rw [hidden.readsAlike.format, hidden.readsAlike.names serial]
          exact (Related.ofExcept _).bind_same fun shown => (log_hidden _ _ _).bind_same fun _ =>
            Related.pure rfl
      · refine (expressions.evaluateTops scope (some serial) args).bind_same fun values => ?_
        refine Related.ite _ (fun _ => (calls.callBuiltin name values).discard.bind_same fun _ =>
          Related.pure rfl) fun _ => ?_
        refine own.bind_same fun c => ?_
        cases c.method? name with
        | none =>
          exact (books_hidden (g := fun s => { s with stats := { s.stats with unknownCalls := s.stats.unknownCalls + 1 } })
            (fun _ => rfl) (fun _ => rfl) (fun _ => rfl) fun _ => rfl).bind_same fun _ =>
            (log_hidden _ _ _).bind_same fun _ => Related.pure rfl
        | some m =>
          exact (calls.executeMethod serial other m values).bind_same fun _ => Related.pure rfl
    | unknown => exact Related.pure rfl

/--
Destroying an entity from sessions that differ in the methods of a dormant
instance: an active entity is driven by another instance than the dormant one,
whose `onDestroy` runs alike.
-/
theorem destroyEntity_hidden (below : ∀ g < frames, RunsHidden k g) (target : Value) :
    Related (Hidden k) Eq (destroyEntity frames target) (destroyEntity frames target) := by
  rw [destroyEntity.eq_def]
  cases frames with
  | zero => exact Related.throw _
  | succ f =>
    have inner := below f (Nat.lt_succ_self f)
    dsimp -zeta only
    extract_lets named
    have finish : ∀ e : Entity, Related (Hidden k) Eq
        (do
          let now := ((← get).world.find? e.id).getD e
          let _ ← broadcast f "entityDestroyed"
            (.map 0 [(.str "id", .int now.id), (.str "type", .str now.kind),
              (.str "position", .vec2 now.position), (.str "lifespan", .float now.lifespan 0)])
          modify fun s => s.retire e
          log .info ("Entity destroyed: " ++ e.name) (some e.id)
          return true)
        (do
          let now := ((← get).world.find? e.id).getD e
          let _ ← broadcast f "entityDestroyed"
            (.map 0 [(.str "id", .int now.id), (.str "type", .str now.kind),
              (.str "position", .vec2 now.position), (.str "lifespan", .float now.lifespan 0)])
          modify fun s => s.retire e
          log .info ("Entity destroyed: " ++ e.name) (some e.id)
          return true) := by
      intro e
      refine Related.get_bind fun u v hidden => ?_
      rw [hidden.readsAlike.world]
      refine (inner.broadcast "entityDestroyed" _).bind_same fun _ => ?_
      refine (modify_hidden (fun s => hideMethods_retire s k e) fun _ dormant => dormant.retire e).bind_same
        fun _ => ?_
      exact (log_hidden _ _ _).bind_same fun _ => Related.pure rfl
    have destroys : ∀ id, Related (Hidden k) Eq (named id) (named id) := by
      intro id
      simp -zeta only [named]
      refine Related.get_bind fun s t hidden => ?_
      obtain ⟨rfl, dormant⟩ := hidden
      rw [hideMethods_world, hideMethods_destroying]
      by_cases negative : id < 0
      · simp only [negative, if_true]
        exact Related.pure rfl
      simp only [negative, if_false]
      cases found : s.world.get? id.toNat with
      | none => exact Related.pure rfl
      | some e =>
        dsimp only
        refine Related.ite _ (fun _ => Related.pure rfl) fun going => ?_
        have active : e.active = true := by simp_all
        have driver : ∀ serial, e.component = some serial → serial ≠ k := fun serial driven same => by
          have inactive := dormant.unbound e (World.mem_of_get? found) (same ▸ driven)
          rw [active] at inactive
          cases inactive
        obtain ⟨id', kind, position, properties, _ | serial, active', lifespan, listed⟩ := e
        · exact finish ⟨id', kind, position, properties, none, active', lifespan, listed⟩
        · have other := driver serial rfl
          dsimp only
          rw [component_hideMethods_of_ne s k other]
          cases (s.component serial).method? "onDestroy" with
          | none => exact finish ⟨id', kind, position, properties, some serial, active', lifespan, listed⟩
          | some m =>
            refine (books_hidden (g := fun s => { s with destroying := id' :: s.destroying })
              (fun _ => rfl) (fun _ => rfl) (fun _ => rfl) fun _ => rfl).bind_same fun _ => ?_
            refine (Related.tryFinally (inner.runMethod serial other m [] _)
              (books_hidden (g := fun s => { s with destroying := s.destroying.filter (· != id') })
                (fun _ => rfl) (fun _ => rfl) (fun _ => rfl) fun _ => rfl)).bind_same fun _ => ?_
            exact finish ⟨id', kind, position, properties, some serial, active', lifespan, listed⟩
    split
    · exact (Related.pure rfl).bind_same destroys
    · exact (Related.ofExcept _).bind_same destroys

theorem createEntity_hidden (below : ∀ g < frames, RunsHidden k g) (kind : String) (position : Option Vec2)
    {driver : Option Nat} (other : driver ≠ some k) :
    Related (Hidden k) Eq (createEntity frames kind position driver) (createEntity frames kind position driver) := by
  rw [createEntity.eq_def]
  cases frames with
  | zero => exact Related.throw _
  | succ f =>
    have inner := below f (Nat.lt_succ_self f)
    dsimp -zeta only
    extract_lets placing
    have placed : ∀ p, Related (Hidden k) Eq (placing p) (placing p) := by
      intro p
      simp -zeta only [placing]
      refine (shareVec2_hidden p).bind_same fun q => ?_
      refine Related.get_bind fun s t hidden => ?_
      obtain ⟨rfl, dormant⟩ := hidden
      rw [hideMethods_world]
      refine (Related.set ⟨rfl, dormant.create kind q other⟩).bind_same fun _ => ?_
      refine (inner.broadcast "entityCreated" _).bind_same fun _ => ?_
      refine Related.get_bind fun u v hidden => ?_
      rw [hidden.readsAlike.world]
      exact (log_hidden _ _ _).bind_same fun _ => Related.pure rfl
    cases position with
    | none => exact (spawnPosition_related hidden_faithful).bind_same placed
    | some p => exact (Related.pure rfl).bind_same placed

end Steps

/-- Every function of the interpreter, with any number of frames, never reads the methods of a dormant instance. -/
theorem runsHidden (k frames : Nat) : RunsHidden k frames := by
  induction frames using Nat.strongRecOn with
  | ind frames below =>
    have evaluates := evaluate_hidden below
    have tops := evaluateTop_hidden below
    have runs := runMethod_hidden below
    exact
      { evaluate := evaluates
        evaluateArgs := evaluateArgs_hidden evaluates
        evaluateTop := tops
        evaluateTops := evaluateTops_hidden tops
        callBuiltin := callBuiltin_hidden below
        broadcast := broadcast_hidden below
        dispatch := dispatch_hidden runs
        runMethod := runs
        executeMethod := executeMethod_hidden below
        execBlock := execBlock_hidden below
        execStmt := execStmt_hidden below
        destroyEntity := destroyEntity_hidden below
        createEntity := fun kind position _ other => createEntity_hidden below kind position other }


/-! ## Host operations -/

section Host

theorem parse_hidden (source : String) : Related (Hidden k) Eq (parse source) (parse source) := by
  unfold parse
  rcases Token.scan source with ⟨tokens, scanErrors⟩
  dsimp only
  refine (Related.forIn_same (S := Eq) rfl fun e _ _ _ => ?_).bind_same fun _ => Related.pure rfl
  exact (log_hidden _ _ _).bind_same fun _ => Related.pure rfl

/-- Making an instance: the same one on both sides, after the dormant one. -/
theorem instantiate_hidden (d : Declaration) (instanceName : Option String) (frames : Nat) :
    Related (Hidden k) (fun serial serial' => serial' = serial ∧ k < serial) (instantiate d instanceName frames)
      (instantiate d instanceName frames) := by
  unfold instantiate
  refine Related.get_bind fun s t hidden => ?_
  obtain ⟨rfl, dormant⟩ := hidden
  extract_lets name_l serial_l make_l name_r serial_r make_r
  have named : name_r = name_l := rfl
  have numbered : serial_r = serial_l := hideMethods_size s k
  have made : ∀ r, Related (Hidden k) (fun serial serial' => serial' = serial ∧ k < serial) (make_l r) (make_r r) := by
    intro r
    simp -zeta only [make_l, make_r]
    rw [named, numbered]
    refine (Related.set ⟨(hideMethods_push s k dormant.below _).symm, dormant.push _⟩).bind_same fun _ => ?_
    refine (Related.forIn_same (S := Eq) rfl fun fd _ _ _ => ?_).bind_same fun _ => ?_
    · have stored : ∀ v, Related (Hidden k) (StepsRelated Eq)
          (modifyComponent serial_l (·.setField fd.name v) >>= fun _ => pure (ForInStep.yield PUnit.unit))
          (modifyComponent serial_l (·.setField fd.name v) >>= fun _ => pure (ForInStep.yield PUnit.unit)) :=
        fun v => (modifyComponent_hidden serial_l (fun c => Component.setField_hideMethods c _ _)
          fun c => by simp).bind_same fun _ => Related.pure rfl
      cases fd.init with
      | none => exact (Related.pure rfl).bind_same stored
      | some e =>
        refine (Related.tryCatch ((runsHidden k frames).evaluateTop [] (some serial_l) e) fun fault => ?_).bind_same
          stored
        split
        · exact (log_hidden _ _ _).bind_same fun _ => Related.pure rfl
        · exact Related.throw _
    refine (books_hidden (g := fun s => { s with registry := s.registry ++ [(name_l, serial_l)] })
      (fun _ => rfl) (fun _ => rfl) (fun _ => rfl) fun _ => rfl).bind_same fun _ => ?_
    exact (note_hidden _ _ _).bind_same fun _ => (log_hidden _ _ _).bind_same fun _ =>
      Related.pure ⟨rfl, dormant.below⟩
  simp only [lookup?_hideMethods]
  split
  · exact Related.ite _ (fun _ => Related.throw_bind _) fun _ => made ()
  · exact made ()

/-- A round of loading makes an instance after the dormant one, and runs only that instance's `init`. -/
theorem loadRound_hidden (positions : List (String × Vec2)) (d : Declaration) (names : List String) :
    Related (Hidden k) (StepsRelated Eq) (loadRound positions d names) (loadRound positions d names) := by
  unfold loadRound
  refine (instantiate_hidden d none _).bind fun _ made numbered => ?_
  obtain ⟨rfl, later⟩ := numbered
  have other : made ≠ k := Nat.ne_of_gt later
  refine ((component_hidden made).weaken fun _ _ read => (read.2 other).symm).bind_same fun c => ?_
  refine Related.get_bind fun u v hidden => ?_
  rw [hidden.readsAlike.settings]
  extract_lets finish start requested
  have started : ∀ position, Related (Hidden k) (StepsRelated Eq) (start position) (start position) := by
    intro position
    simp only [start]
    split
    · exact ((runsHidden k _).runMethod made other _ _ _).bind_same fun _ => Related.pure rfl
    · exact Related.pure rfl
  refine Related.ite _ (fun _ => ?_) fun _ => (Related.pure rfl).bind_same started
  refine ((runsHidden k _).createEntity _ _ _ (by simpa using other)).bind_same fun id =>
    Related.get_bind fun w x hidden => ?_
  rw [hidden.readsAlike.world]
  exact (Related.pure rfl).bind_same started

theorem load_hidden (source : String) (positions : List (String × Vec2)) :
    Related (Hidden k) Eq (load source positions) (load source positions) := by
  unfold load
  refine (parse_hidden source).bind_same fun parsed => ?_
  obtain ⟨parsed, scanErrors⟩ := parsed
  dsimp -zeta only
  split
  · exact (log_hidden _ _ _).bind_same fun _ => Related.pure rfl
  · exact (Related.forIn_same (S := Eq) rfl fun d names _ same => same ▸ loadRound_hidden positions d names).bind_same
      fun _ => Related.pure rfl

theorem updateComponent_hidden (frames : Nat) (name : String) (dt : Number) :
    Related (Hidden k) Eq (updateComponent frames name dt) (updateComponent frames name dt) := by
  unfold updateComponent
  refine Related.get_bind fun s t hidden => ?_
  obtain ⟨rfl, dormant⟩ := hidden
  rw [lookup?_hideMethods]
  cases s.lookup? name with
  | none => exact Related.pure rfl
  | some serial =>
    dsimp only
    by_cases other : serial = k
    · subst other
      rw [hideMethods_active, dormant.inactive]
      exact Related.pure rfl
    · rw [component_hideMethods_of_ne s k other]
      refine Related.ite _ (fun _ => ?_) fun _ => Related.pure rfl
      split
      · exact (runsHidden k frames).runMethod serial other _ _ _
      · exact Related.pure rfl

theorem updateAll_hidden (frames : Nat) (dt : Number) :
    Related (Hidden k) Eq (updateAll frames dt) (updateAll frames dt) := by
  unfold updateAll
  refine Related.get_bind fun s t hidden => ?_
  obtain ⟨rfl, dormant⟩ := hidden
  rw [activeSerials_hideMethods]
  refine (Related.forIn_same (S := Eq) rfl fun serial _ _ _ => ?_).bind_same fun _ => Related.pure rfl
  rw [hideMethods_name]
  exact (updateComponent_hidden frames _ dt).bind_same fun _ => Related.pure rfl

theorem runDueCallbacks_hidden : Related (Hidden k) Eq runDueCallbacks runDueCallbacks := by
  unfold runDueCallbacks
  refine Related.get_bind fun s t hidden => ?_
  obtain ⟨rfl, dormant⟩ := hidden
  rw [hideMethods_scheduler]
  refine (Related.set ⟨rfl, dormant.of_books rfl rfl rfl⟩).bind_same fun _ => ?_
  refine (Related.forIn_same (S := Eq) rfl fun cb _ _ _ => ?_).bind_same fun _ => Related.pure rfl
  refine Related.get_bind fun u v hidden => ?_
  obtain ⟨rfl, dormant⟩ := hidden
  rw [lookup?_hideMethods]
  split
  · exact Related.pure rfl
  · next serial _ =>
    by_cases other : serial = k
    · subst other
      refine component_hidden_self.bind fun c c' inactive => ?_
      simp only [inactive.1, inactive.2]
      exact Related.pure rfl
    · refine ((component_hidden serial).weaken fun _ _ read => (read.2 other).symm).bind_same fun c => ?_
      refine Related.ite _ (fun _ => ?_) fun _ => Related.pure rfl
      split
      · exact (log_hidden _ _ _).bind_same fun _ => Related.pure rfl
      · exact ((runsHidden k _).runMethod serial other _ _ _).bind_same fun _ => Related.pure rfl

theorem commitRemovals_hidden : Related (Hidden k) Eq commitRemovals commitRemovals :=
  modify_hidden (fun _ => rfl) fun s dormant =>
    dormant.of_keeps (.of_store rfl) rfl (dormant.unbound.foldl_remove s.pendingEntities)

theorem tick_hidden (dt : Option Number) : Related (Hidden k) Eq (tick dt) (tick dt) := by
  unfold tick
  refine Related.get_bind fun s t hidden => ?_
  rw [hidden.readsAlike.settings]
  dsimp only
  have inTick : ∀ b : Bool, Related (Hidden k) Eq (modify fun s => { s with inTick := b })
      (modify fun s => { s with inTick := b }) := fun b =>
    books_hidden (fun _ => rfl) (fun _ => rfl) (fun _ => rfl) fun _ => rfl
  refine (inTick true).bind_same fun _ => (Related.tryFinally (T := Eq) ?_ ?_).bind_same fun _ =>
    books_hidden (fun _ => rfl) (fun _ => rfl) (fun _ => rfl) fun _ => rfl
  · refine (Related.ofExcept _).bind_same fun step =>
      (books_hidden (g := fun s => { s with time := s.time + step }) (fun _ => rfl) (fun _ => rfl) (fun _ => rfl)
        fun _ => rfl).bind_same fun _ => Related.get_bind fun u v hidden => ?_
    rw [hidden.readsAlike.scheduler]
    refine (Related.ofExcept _).bind_same fun scheduler =>
      (books_hidden (g := fun s => { s with scheduler }) (fun _ => rfl) (fun _ => rfl) (fun _ => rfl)
        fun _ => rfl).bind_same fun _ => ?_
    refine runDueCallbacks_hidden.bind_same fun _ => (updateAll_hidden _ _).bind_same fun _ => ?_
    exact modify_hidden (fun _ => rfl) fun _ dormant => { dormant with unbound := dormant.unbound.age step }
  · exact (inTick false).bind_same fun _ => commitRemovals_hidden

theorem repeatTicks_hidden (dt : Option Number) (n : Nat) :
    Related (Hidden k) Eq (repeatTicks dt n) (repeatTicks dt n) := by
  induction n with
  | zero => exact Related.pure rfl
  | succ n more =>
    simp only [repeatTicks]
    exact (tick_hidden dt).bind_same fun _ => more

theorem destroyComponent_hidden (name : String) :
    Related (Hidden k) Eq (destroyComponent name) (destroyComponent name) := by
  unfold destroyComponent
  refine Related.get_bind fun s t hidden => ?_
  rw [hidden.hides, lookup?_hideMethods]
  cases s.lookup? name with
  | none => exact Related.pure rfl
  | some serial =>
    refine (modifyComponent_hidden serial (f := fun c => { c with active := false }) (fun _ => rfl)
      fun _ raised => absurd raised Bool.false_ne_true).bind_same fun _ => ?_
    exact (log_hidden _ _ _).bind_same fun _ => Related.pure rfl

theorem removeComponent_hidden (name : String) :
    Related (Hidden k) Eq (removeComponent name) (removeComponent name) := by
  unfold removeComponent
  refine Related.get_bind fun s t hidden => ?_
  obtain ⟨rfl, dormant⟩ := hidden
  rw [lookup?_hideMethods]
  cases s.lookup? name with
  | none => exact Related.pure rfl
  | some serial =>
    dsimp only
    rw [hideMethods_inTick]
    refine Related.ite _ (fun _ => (Related.set ⟨?_, ?_⟩).bind_same fun _ => Related.pure rfl)
      fun _ => (Related.set ⟨rfl, dormant.of_books rfl rfl rfl⟩).bind_same fun _ => Related.pure rfl
    · rw [← hideMethods_modifyComponent s k serial fun _ => rfl]
      rfl
    · exact (dormant.modifyComponent serial (f := fun c => { c with active := false })
        fun _ raised => absurd raised Bool.false_ne_true).of_books rfl rfl rfl

theorem createComponent_hidden (source : String) (index : Int) (instanceName : Option String) :
    Related (Hidden k) Eq (createComponent source index instanceName) (createComponent source index instanceName) := by
  unfold createComponent
  refine (parse_hidden source).bind_same fun parsed => ?_
  obtain ⟨parsed, scanErrors⟩ := parsed
  dsimp only
  cases parsed with
  | error err => exact Related.pure rfl
  | ok declarations =>
    dsimp only
    cases pick declarations index with
    | none => exact Related.throw _
    | some d =>
      refine (instantiate_hidden d instanceName _).bind fun _ made numbered => ?_
      obtain ⟨rfl, later⟩ := numbered
      exact ((component_hidden made).weaken fun _ _ read => (read.2 (Nat.ne_of_gt later)).symm).bind_same
        fun c => Related.pure rfl

theorem evaluateText_hidden (source : String) (name : Option String) (scope : Scope) :
    Related (Hidden k) Eq (evaluateText source name scope) (evaluateText source name scope) := by
  unfold evaluateText
  cases Expr.ofTokens (Token.scan source).1 with
  | error err => exact Related.pure rfl
  | ok parsed =>
    obtain ⟨e, rest⟩ := parsed
    refine Related.get_bind fun s t hidden => ?_
    rw [hidden.hides, show (s.hideMethods k).lookup? = s.lookup? from rfl]
    refine (Related.mapM_same fun entry => ?_).bind_same fun shared => ?_
    · obtain ⟨key, v⟩ := entry
      exact (share_hidden v).bind_same fun w => Related.pure rfl
    exact ((runsHidden k _).evaluateTop shared _ e).bind_same fun v => Related.pure rfl

theorem schedule_hidden (delay : Number) (name method : String) (args : List Value) :
    Related (Hidden k) Eq (schedule delay name method args) (schedule delay name method args) := by
  unfold schedule
  refine Related.get_bind fun s t hidden => ?_
  rw [hidden.readsAlike.scheduler]
  refine (Related.set (hidden_faithful.schedules s t _ hidden)).bind_same fun _ => ?_
  exact (Related.ofExcept _).bind_same fun c => (note_hidden _ _ _).bind_same fun _ => Related.pure rfl

theorem cancel_hidden (id : Nat) : Related (Hidden k) Eq (cancel id) (cancel id) := by
  unfold cancel
  refine Related.get_bind fun s t hidden => ?_
  rw [hidden.readsAlike.scheduler]
  exact (Related.set (hidden_faithful.schedules s t _ hidden)).bind_same fun _ => Related.pure rfl

theorem subscribe_hidden (event handler : String) :
    Related (Hidden k) Eq (subscribe event handler) (subscribe event handler) :=
  (books_hidden (g := fun s => { s with events := s.events.subscribe event handler }) (fun _ => rfl) (fun _ => rfl)
    (fun _ => rfl) fun _ => rfl).bind_same fun _ => note_hidden _ _ _

theorem clearLogs_hidden : Related (Hidden k) Eq clearLogs clearLogs :=
  books_hidden (fun _ => rfl) (fun _ => rfl) (fun _ => rfl) fun _ => rfl

end Host

/-! ## Requests -/

/-- A host call of another instance than the dormant one. -/
theorem call_hidden (name method : String) (args : List Value) {s t : Session} (hidden : Hidden k s t)
    (other : s.lookup? name ≠ some k) :
    EndsRelated (Hidden k) Eq ((call name method args).run s) ((call name method args).run t) := by
  unfold call
  refine EndsRelated.get_bind ((?_ : Related (Hidden k) Eq _ _) s t hidden)
  obtain ⟨rfl, dormant⟩ := hidden
  rw [lookup?_hideMethods]
  cases found : s.lookup? name with
  | none => exact Related.pure rfl
  | some serial =>
    have apart : serial ≠ k := fun same => other (by rw [found, same])
    dsimp only
    rw [component_hideMethods_of_ne s k apart]
    cases (s.component serial).method? method with
    | none => exact Related.pure rfl
    | some m => exact ((runsHidden k _).runMethod serial apart _ _ _).bind_same fun _ => Related.pure rfl

/--
Every request but a reset that does not reach a dormant instance by name ends
alike from a session and from the same session with the instance's methods
taken away.
-/
theorem answer_hidden (request : Request) {s t : Session} (hidden : Hidden k s t)
    (quiet : request.wakes k s = false) (kept : request.resets = false) :
    EndsRelated (Hidden k) Eq ((answer request).run s) ((answer request).run t) := by
  unfold answer
  refine EndsRelated.get_bind ?_
  obtain ⟨rfl, dormant⟩ := hidden
  cases request
  case call name method args =>
    exact (call_hidden name method args (Hidden.hide dormant) (by simpa [Request.wakes] using quiet)).bind_same
      fun b => Related.pure rfl
  case reset => exact absurd kept (by decide)
  all_goals
    refine (?_ : Related (Hidden k) Eq _ _) s _ (Hidden.hide dormant)
    simp only [hideMethods_settings]
  case load source positions => exact (load_hidden source positions).bind_same fun _ => Related.pure rfl
  case tick dt => exact (tick_hidden dt).bind_same fun _ => Related.pure rfl
  case ticks n dt => exact (repeatTicks_hidden dt n).bind_same fun _ => Related.pure rfl
  case update name dt => exact (updateComponent_hidden _ name _).bind_same fun _ => Related.pure rfl
  case updateAll dt => exact (updateAll_hidden _ _).bind_same fun _ => Related.pure rfl
  case broadcast event payload =>
    exact ((runsHidden k _).broadcast event payload).bind_same fun n => Related.pure rfl
  case subscribe event handler => exact (subscribe_hidden event handler).bind_same fun _ => Related.pure rfl
  case createEntity kind position name =>
    have apart : name.bind s.lookup? ≠ some k := by simpa [Request.wakes] using quiet
    refine ((runsHidden k _).createEntity kind position _ apart).bind_same fun id =>
      Related.get_bind fun u v hidden => ?_
    rw [hidden.readsAlike.world]
    exact Related.pure rfl
  case destroyEntity target =>
    exact ((runsHidden k _).destroyEntity target).bind_same fun b => Related.pure rfl
  case getEntity id => exact Related.pure rfl
  case destroyComponent name => exact (destroyComponent_hidden name).bind_same fun b => Related.pure rfl
  case removeComponent name => exact (removeComponent_hidden name).bind_same fun b => Related.pure rfl
  case createComponent source index name =>
    refine (createComponent_hidden source index name).bind_same fun made => ?_
    cases made with
    | ok made => exact Related.pure rfl
    | error e => exact Related.pure rfl
  case builtin name args => exact ((runsHidden k _).callBuiltin name args).bind_same fun v => Related.pure rfl
  case evaluate source name scope =>
    refine (evaluateText_hidden source name scope).bind_same fun evaluated => ?_
    cases evaluated with
    | ok v => exact Related.pure rfl
    | error e => exact Related.pure rfl
  case schedule delay name method args =>
    exact (schedule_hidden delay name method args).bind_same fun n => Related.pure rfl
  case cancel id =>
    exact Related.ite _ (fun _ => Related.pure rfl) fun _ => (cancel_hidden _).bind_same fun b => Related.pure rfl
  case logs level => exact Related.pure rfl
  case clearLogs => exact clearLogs_hidden.bind_same fun _ => Related.pure rfl
  case snapshot => exact Related.pure rfl
  case describe => exact Related.pure rfl
  case stats => exact Related.pure rfl

end Sim

namespace Session

open Sim

variable {k : Nat}

/--
A request that neither resets nor reaches a dormant instance by name gives the
same reply and appends the same log entries from a session as from the same
session with that instance's methods taken away, and leaves two such sessions
again.
-/
theorem Hidden.perform {s t : Session} (hidden : Hidden k s t) (request : Request)
    (quiet : request.wakes k s = false) (kept : request.resets = false) :
    (t.perform request).1 = (s.perform request).1 ∧ (t.perform request).2.2 = (s.perform request).2.2 ∧
      Hidden k (s.perform request).2.1 (t.perform request).2.1 := by
  have ends := answer_hidden request hidden quiet kept
  have mark : t.log.arrived = s.log.arrived := by rw [hidden.hides, hideMethods_log]
  unfold Session.perform
  rw [mark]
  generalize (answer request).run s = x at ends ⊢
  generalize (answer request).run t = y at ends ⊢
  cases x with
  | ok a u =>
    cases y with
    | ok b v =>
      obtain ⟨rfl, later⟩ := ends
      exact ⟨rfl, by rw [later.hides]; rfl, later⟩
    | error => exact ends.elim
  | error e u =>
    cases y with
    | ok => exact ends.elim
    | error e' v =>
      obtain ⟨rfl, later⟩ := ends
      exact ⟨rfl, by rw [later.hides]; rfl, later⟩

/--
Inactivity is permanent and silences an instance.  No step of the
interpreter and no request but a reset makes an inactive instance active
again.  The update phase of a tick, the due callbacks and the turns of a
broadcast run as if an inactive instance were not there.  And once the
instance is dormant, every request but a reset, a host call of it and the
creation of an entity for it gives the same reply and log entries whatever
the instance's methods are, and leaves it dormant.
-/
theorem inactive_instance_silenced :
    (∀ frames, RunsKeep KeepsInactive frames) ∧
    (∀ request : Request, request.resets = false → Keeps KeepsInactive (fun _ => True) (answer request)) ∧
    (∀ (k frames : Nat) (dt : Number) (serials : List Nat) (u : Session),
      k < u.store.size → (u.component k).active = false →
      (serials.forM (updateTurn frames dt)).run u = ((serials.filter (· != k)).forM (updateTurn frames dt)).run u) ∧
    (∀ (k : Nat) (cbs : List Callback) (u : Session), k < u.store.size → (u.component k).active = false →
      (cbs.forM callbackTurn).run u =
        ((cbs.filter fun cb => u.lookup? cb.component != some k).forM callbackTurn).run u) ∧
    (∀ (k frames : Nat) (payload : Value) (pairs : List (String × Nat)) (u : Session),
      k < u.store.size → (u.component k).active = false →
      (dispatch frames pairs payload).run u = (dispatch frames (pairs.filter (·.2 != k)) payload).run u) ∧
    (∀ (k : Nat) (s : Session) (request : Request), s.Dormant k → request.wakes k s = false →
      request.resets = false →
      ((s.hideMethods k).perform request).1 = (s.perform request).1 ∧
      ((s.hideMethods k).perform request).2.2 = (s.perform request).2.2 ∧
      ((s.hideMethods k).perform request).2.1 = (s.perform request).2.1.hideMethods k ∧
      (s.perform request).2.1.Dormant k) := by
  refine ⟨keepsInactive_runs, keepsInactive_answer, fun k frames dt serials u => forM_updateTurn_filter frames dt serials u,
    fun k cbs u => forM_callbackTurn_filter cbs u, fun k frames payload pairs => dispatch_filter frames payload pairs,
    fun k s request dormant quiet kept => ?_⟩
  obtain ⟨reply, logged, later⟩ := (Hidden.hide dormant).perform request quiet kept
  exact ⟨reply, logged, later.hides, later.dormant⟩

/-- A destroyed instance asked to update: the same reply whatever its methods, and dormant after. -/
theorem destroyed_instance_update_unheard :
    let s : Session := { Session.create {} default with
      store := #[⟨"a", "A", [], [("update", ⟨"update", [], [], 1⟩)], false⟩],
      registry := [("a", 0)] }
    ((s.hideMethods 0).perform (.update "a" none)).1 = (s.perform (.update "a" none)).1 ∧
      (s.perform (.update "a" none)).2.1.Dormant 0 := by
  intro s
  have dormant : s.Dormant 0 := ⟨by decide, rfl, List.not_mem_nil, fun _ found => absurd found List.not_mem_nil⟩
  obtain ⟨reply, _, _, still⟩ := inactive_instance_silenced.2.2.2.2.2 0 s (.update "a" none) dormant rfl rfl
  exact ⟨reply, still⟩

end Session

end GameScript

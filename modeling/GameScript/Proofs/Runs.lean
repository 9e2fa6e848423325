import GameScript.Session.Run
import GameScript.Proofs.Steady

/-!
# What running a script can raise, and what it leaves in place

Every function of the interpreter takes the frames of host stack it has
left. This module proves, for every number of frames, every function of the
interpreter and every argument, two things about its run from any session:

* it keeps `Session.Steady`: the call stack, the entities being destroyed,
  the tick flag, the clocks and the pending removals are handed back as they
  were found, and the table stays settled;
* it raises only a fault of a class of its own: an expression or a statement
  only arithmetic faults, the host stack and, for a statement, a call nested
  too deep; a built-in call only the host stack, all else being logged; a
  method run for the host, an event or an entity's end only arithmetic
  faults, and the host stack only when it was started with almost none left.

The functions call one another with fewer frames, or with as many frames on
a shorter list. `Safe frames` collects the statements at one number of frames;
one step lemma per function proves its statement from `Safe` at fewer frames
(and from its same-frame callees), and `safe` assembles them by induction on
the frames.
-/

namespace GameScript

/-- Whether a fault is a method call nested past the configured depth. -/
def Fault.isCallDepth : Fault → Bool
  | .callDepth _ _ => true
  | _ => false

namespace Sim

open Session

/-! ## Fault classes -/

/-- What an expression can raise: the host stack, or arithmetic on the values it computes. -/
def ExprFault (fault : Fault) : Prop := fault = .hostStack ∨ fault.isArithmetic

/-- What a statement can raise: also a method call nested past the depth limit. -/
def StmtFault (fault : Fault) : Prop := ExprFault fault ∨ fault.isCallDepth

/--
What a run that reports the host stack and nested calls itself passes on, started with
`frames` frames: arithmetic faults, and the host stack only when fewer than `low` were left.
-/
def Escapes (low frames : Nat) (fault : Fault) : Prop :=
  fault.isArithmetic ∨ (frames < low ∧ fault = .hostStack)

/-- What destroying an entity passes on: also a number naming it that is no integer. -/
def DestroyFault (frames : Nat) (fault : Fault) : Prop :=
  Escapes 5 frames fault ∨ fault = .nanToInt ∨ fault = .infinityToInt

theorem ExprFault.hostStack : ExprFault .hostStack := Or.inl rfl

theorem ExprFault.of_isArithmetic {fault : Fault} (arithmetic : fault.isArithmetic) :
    ExprFault fault :=
  Or.inr arithmetic

theorem StmtFault.of_expr {fault : Fault} (raised : ExprFault fault) : StmtFault fault :=
  Or.inl raised

theorem Escapes.widen {low frames low' frames' : Nat} {fault : Fault}
    (fewer : frames < low → frames' < low') (escapes : Escapes low frames fault) :
    Escapes low' frames' fault :=
  escapes.imp id fun ⟨few, stack⟩ => ⟨fewer few, stack⟩

theorem Escapes.builtin {low frames : Nat} {fault : Fault} (escapes : Escapes low frames fault) :
    fault.isBuiltinFailure ∨ fault = .hostStack :=
  escapes.imp Fault.isBuiltinFailure_of_isArithmetic And.right

theorem StmtFault.isArithmetic {fault : Fault} (raised : StmtFault fault)
    (notDeep : ∀ limit name, fault = .callDepth limit name → False)
    (notStack : fault = .hostStack → False) : fault.isArithmetic := by
  rcases raised with (stack | arithmetic) | deep
  · exact absurd stack notStack
  · exact arithmetic
  · cases fault <;> simp_all [Fault.isCallDepth]

/-- What the body of a built-in call can raise: a failure the call reports, or the host stack. -/
def CallFault (fault : Fault) : Prop := fault.isBuiltinFailure ∨ fault = .hostStack

theorem DestroyFault.of_escapes {low frames : Nat} {fault : Fault} (fewer : low ≤ 4)
    (escapes : Escapes low frames fault) : DestroyFault (frames + 1) fault :=
  Or.inl (escapes.widen fun few => by omega)

theorem DestroyFault.builtin {frames : Nat} {fault : Fault} (raised : DestroyFault frames fault) :
    CallFault fault := by
  rcases raised with escapes | nan | infinite
  · exact escapes.builtin
  · exact Or.inl (nan ▸ rfl)
  · exact Or.inl (infinite ▸ rfl)

/-! ## Steps that run no script -/

theorem countEvaluation_keeps (E : Fault → Prop) : Keeps Steady E countEvaluation :=
  Keeps.modify fun _ => Steady.of_frame rfl rfl rfl rfl rfl rfl rfl rfl

theorem countStatement_keeps (E : Fault → Prop) : Keeps Steady E countStatement :=
  Keeps.modify fun _ => Steady.of_frame rfl rfl rfl rfl rfl rfl rfl rfl

theorem spawnPosition_keeps (E : Fault → Prop) : Keeps Steady E spawnPosition := by
  refine get_bind_keeps fun s => ?_
  exact Keeps.bind (uniform_keeps E) fun x => Keeps.bind (uniform_keeps E) fun y => Keeps.pure _

/-- A binary operator raises only arithmetic faults. -/
theorem binary_keeps {E : Fault → Prop} (arithmetic : ∀ fault, fault.isArithmetic → E fault)
    (op : BinOp) (l r : Value) : Keeps Steady E (binary op l r) := by
  refine get_bind_keeps fun s => Keeps.ofExcept ?_
  exact Value.binary_raises E (Session.entityRecord_raises E (arithmetic _ rfl) s _)
    (arithmetic _ rfl) (arithmetic _ rfl) (arithmetic _ rfl) op l r

/-! ## One step of each function -/

/-- Every function of the interpreter, run with `frames` frames, keeps `Steady` and raises only faults of its class. -/
structure Safe (frames : Nat) : Prop where
  evaluate : ∀ scope self e, Keeps Steady ExprFault (evaluate frames scope self e)
  evaluateArgs : ∀ scope self es, Keeps Steady ExprFault (evaluateArgs frames scope self es)
  evaluateTop : ∀ scope self e, Keeps Steady ExprFault (evaluateTop frames scope self e)
  evaluateTops : ∀ scope self es, Keeps Steady ExprFault (evaluateTops frames scope self es)
  callBuiltin : ∀ name args, Keeps Steady (· = .hostStack) (callBuiltin frames name args)
  broadcast : ∀ event payload, Keeps Steady (Escapes 4 frames) (broadcast frames event payload)
  dispatch : ∀ pairs payload, Keeps Steady (Escapes 1 frames) (dispatch frames pairs payload)
  runMethod : ∀ serial m args pfx,
    Keeps Steady (Escapes 1 frames) (runMethod frames serial m args pfx)
  executeMethod : ∀ serial m args, Keeps Steady StmtFault (executeMethod frames serial m args)
  execBlock : ∀ serial scope body, Keeps Steady StmtFault (execBlock frames serial scope body)
  execStmt : ∀ serial scope st, Keeps Steady StmtFault (execStmt frames serial scope st)
  destroyEntity : ∀ target, Keeps Steady (DestroyFault frames) (destroyEntity frames target)
  createEntity : ∀ kind position driver,
    Keeps Steady (Escapes 5 frames) (createEntity frames kind position driver)

section Steps

variable {frames : Nat}

/--
An expression keeps a session steady; a call's arguments and the call itself
each take one frame less.
-/
theorem evaluate_keeps (below : ∀ g < frames, Safe g) (scope : Scope) (self : Option Nat)
    (e : Expr) : Keeps Steady ExprFault (evaluate frames scope self e) := by
  rw [evaluate.eq_def]
  cases frames with
  | zero => exact Keeps.throw ExprFault.hostStack
  | succ f =>
    have safe := below f (Nat.lt_succ_self f)
    cases e with
    | literal => exact Keeps.pure _
    | identifier name =>
      dsimp only
      split
      · exact Keeps.throw_bind ExprFault.hostStack
      · split
        · exact Keeps.pure _
        · split
          · exact Keeps.bind (component_keeps _ _) fun _ => Keeps.pure _
          · exact Keeps.pure _
    | unary op operand =>
      dsimp only
      refine Keeps.bind (safe.evaluate scope self operand) fun v => ?_
      split
      · exact Keeps.throw_bind ExprFault.hostStack
      · exact Keeps.pure _
    | binary op left right =>
      dsimp only
      refine Keeps.bind (safe.evaluate scope self left) fun l => ?_
      refine Keeps.bind (safe.evaluate scope self right) fun r => ?_
      split
      · exact Keeps.throw_bind ExprFault.hostStack
      · exact binary_keeps (fun _ => ExprFault.of_isArithmetic) op l r
    | call name args =>
      have inner := below (f - 1) (by omega)
      dsimp only
      exact Keeps.bind (inner.evaluateArgs scope self args) fun values =>
        (inner.callBuiltin name values).weaken fun _ => Or.inl

theorem evaluateArgs_keeps
    (evaluates : ∀ scope self e, Keeps Steady ExprFault (evaluate frames scope self e))
    (scope : Scope) (self : Option Nat) (es : List Expr) :
    Keeps Steady ExprFault (evaluateArgs frames scope self es) := by
  induction es with
  | nil =>
    rw [evaluateArgs]
    exact Keeps.pure _
  | cons e rest more =>
    rw [evaluateArgs]
    exact Keeps.bind (evaluates scope self e) fun _ => Keeps.bind more fun _ => Keeps.pure _

theorem evaluateTop_keeps (below : ∀ g < frames, Safe g) (scope : Scope) (self : Option Nat)
    (e : Expr) : Keeps Steady ExprFault (evaluateTop frames scope self e) := by
  cases frames with
  | zero =>
    rw [evaluateTop]
    exact Keeps.throw ExprFault.hostStack
  | succ f =>
    rw [evaluateTop]
    exact Keeps.tryFinally ((below f (Nat.lt_succ_self f)).evaluate scope self e)
      (countEvaluation_keeps _)

theorem evaluateTops_keeps
    (evaluates : ∀ scope self e, Keeps Steady ExprFault (evaluateTop frames scope self e))
    (scope : Scope) (self : Option Nat) (es : List Expr) :
    Keeps Steady ExprFault (evaluateTops frames scope self es) := by
  induction es with
  | nil =>
    rw [evaluateTops]
    exact Keeps.pure _
  | cons e rest more =>
    rw [evaluateTops]
    exact Keeps.bind (evaluates scope self e) fun _ => Keeps.bind more fun _ => Keeps.pure _

/--
A built-in keeps a session steady; those that run scripts take three frames
less, and a failure of the built-in itself is logged and answers 0, so only
the host stack passes on.
-/
theorem callBuiltin_keeps (below : ∀ g < frames, Safe g) (name : String) (args : List Value) :
    Keeps Steady (· = .hostStack) (callBuiltin frames name args) := by
  rw [callBuiltin.eq_def]
  cases frames with
  | zero => exact Keeps.throw rfl
  | succ f =>
    have inner := below (f - 2) (by omega)
    dsimp -zeta only
    split
    · exact Keeps.bind (log_keeps _ _ _ _) fun _ => Keeps.pure _
    refine Keeps.bind (countUse_keeps _ _) fun _ => ?_
    refine Keeps.tryCatch (E := CallFault) ?_ fun fault raised => ?_
    · extract_lets place run
      split
      · exact Keeps.throw_bind (Or.inl rfl)
      simp only [run]
      split
      · have placed : ∀ position, Keeps Steady CallFault (place position) := by
          intro position
          refine get_bind_keeps fun s => ?_
          refine Keeps.ofExcept_bind ((Builtin.format_builtinFault s _).mono fun _ => Or.inl) fun kind => ?_
          exact Keeps.bind ((inner.createEntity kind position none).weaken fun _ => Escapes.builtin)
            fun _ => Keeps.pure _
        split
        · exact Keeps.bind (Keeps.pure _) placed
        · refine get_bind_keeps fun s => Keeps.bind ?_ placed
          exact Keeps.map _ (Keeps.ofExcept ((Builtin.vectorView_builtinFault s _).mono fun _ => Or.inl))
      · exact Keeps.bind ((inner.destroyEntity _).weaken fun _ => DestroyFault.builtin)
          fun _ => Keeps.pure _
      · refine get_bind_keeps fun s => ?_
        refine Keeps.ofExcept_bind ((Builtin.format_builtinFault s _).mono fun _ => Or.inl) fun event => ?_
        exact Keeps.bind ((inner.broadcast event _).weaken fun _ => Escapes.builtin)
          fun _ => Keeps.pure _
      · exact (Builtin.leaf_keeps name args).weaken fun _ => Or.inl
    · split
      · exact Keeps.bind (log_keeps _ _ _ _) fun _ => Keeps.pure _
      · exact Keeps.throw (raised.resolve_left ‹_›)

/--
A broadcast keeps a session steady: counting it changes only the event bus,
and its handlers run with three frames less.
-/
theorem broadcast_keeps (below : ∀ g < frames, Safe g) (event : String) (payload : Value) :
    Keeps Steady (Escapes 4 frames) (broadcast frames event payload) := by
  cases frames with
  | zero =>
    rw [broadcast]
    exact Keeps.throw (Or.inr ⟨by omega, rfl⟩)
  | succ f =>
    have handlers := (below (f - 2) (by omega)).dispatch
    rw [broadcast]
    refine Keeps.bind (share_keeps _ _) fun shared => ?_
    intro s
    dsimp only
    rw [ends_bind, ends_get, ends_bind, ends_set]
    exact ((handlers _ shared).weaken fun _ => Escapes.widen (by omega)).after
      (Steady.of_frame rfl rfl rfl rfl rfl rfl rfl rfl)

theorem dispatch_keeps
    (runs : ∀ serial m args pfx, Keeps Steady (Escapes 1 frames) (runMethod frames serial m args pfx))
    (pairs : List (String × Nat)) (payload : Value) :
    Keeps Steady (Escapes 1 frames) (dispatch frames pairs payload) := by
  induction pairs with
  | nil =>
    rw [dispatch]
    exact Keeps.pure _
  | cons pair rest more =>
    obtain ⟨handler, serial⟩ := pair
    rw [dispatch]
    refine Keeps.bind (component_keeps _ serial) fun c => ?_
    extract_lets next
    have counted : ∀ here, Keeps Steady (Escapes 1 frames) (next here) := fun here =>
      Keeps.bind more fun _ => Keeps.pure _
    split
    · exact Keeps.bind (runs _ _ _ _) fun _ => Keeps.bind (Keeps.pure _) counted
    · exact Keeps.bind (Keeps.pure _) counted

/--
A method run keeps a session steady; a call nested too deep and the host stack
are logged, so only arithmetic passes on.
-/
theorem runMethod_keeps (below : ∀ g < frames, Safe g) (serial : Nat) (m : MethodDecl)
    (args : List Value) (pfx : String) :
    Keeps Steady (Escapes 1 frames) (runMethod frames serial m args pfx) := by
  cases frames with
  | zero =>
    rw [runMethod]
    exact Keeps.throw (Or.inr ⟨Nat.zero_lt_one, rfl⟩)
  | succ f =>
    rw [runMethod]
    refine Keeps.tryCatch ((below f (Nat.lt_succ_self f)).executeMethod serial m args)
      fun fault raised => ?_
    split
    · exact log_keeps _ _ _ _
    · exact log_keeps _ _ _ _
    · exact Keeps.throw (Or.inl (raised.isArithmetic ‹_› ‹_›))

/--
A method keeps a session steady; its component stays on the call stack while
the body runs, and is popped on both outcomes.
-/
theorem executeMethod_keeps (below : ∀ g < frames, Safe g) (serial : Nat) (m : MethodDecl)
    (args : List Value) : Keeps Steady StmtFault (executeMethod frames serial m args) := by
  cases frames with
  | zero =>
    rw [executeMethod]
    exact Keeps.throw (StmtFault.of_expr ExprFault.hostStack)
  | succ f =>
    have body := (below f (Nat.lt_succ_self f)).execBlock serial
    rw [executeMethod]
    refine Keeps.bind (Keeps.mapM fun v => share_keeps _ v) fun shared => ?_
    intro s
    rw [ends_bind, ends_get]
    dsimp only
    split
    · exact Keeps.throw_bind (Or.inr rfl) s
    simp only [ends_bind, ends_set, ends_tryFinally, ends_modify]
    exact (body _ m.body).discard.ends _ (fun _ _ steady => Steady.pop steady)
      fun _ _ raised steady => ⟨raised, Steady.pop steady⟩

/--
A block keeps a session steady; its statements run one after another, each
with one frame less than the block.
-/
theorem execBlock_keeps (below : ∀ g < frames, Safe g) (serial : Nat) (scope : Scope)
    (body : List Stmt) : Keeps Steady StmtFault (execBlock frames serial scope body) := by
  cases frames with
  | zero =>
    rw [execBlock]
    exact Keeps.throw (StmtFault.of_expr ExprFault.hostStack)
  | succ f =>
    have statement := (below f (Nat.lt_succ_self f)).execStmt serial
    induction body generalizing scope with
    | nil =>
      rw [execBlock.eq_2 _ _ _ (Nat.succ_ne_zero f)]
      exact Keeps.pure _
    | cons st rest more =>
      rw [execBlock]
      exact Keeps.bind (statement scope st) more

/--
A statement keeps a session steady; its expressions run with three frames
less, its calls with two.
-/
theorem execStmt_keeps (below : ∀ g < frames, Safe g) (serial : Nat) (scope : Scope) (st : Stmt) :
    Keeps Steady StmtFault (execStmt frames serial scope st) := by
  rw [execStmt.eq_def]
  cases frames with
  | zero => exact Keeps.throw (StmtFault.of_expr ExprFault.hostStack)
  | succ f =>
    have expressions := below (f - 2) (by omega)
    have calls := below (f - 1) (by omega)
    have evaluates : ∀ e, Keeps Steady StmtFault (evaluateTop (f - 2) scope (some serial) e) :=
      fun e => (expressions.evaluateTop scope (some serial) e).weaken fun _ => StmtFault.of_expr
    have arithmetic : ∀ fault : Fault, fault.isArithmetic → StmtFault fault :=
      fun _ a => StmtFault.of_expr (ExprFault.of_isArithmetic a)
    dsimp -zeta only
    refine Keeps.bind (countStatement_keeps _) fun _ => ?_
    cases st with
    | assign target op value =>
      dsimp -zeta only
      refine Keeps.bind (component_keeps _ serial) fun c => ?_
      extract_lets current store
      refine Keeps.bind (evaluates value) fun v => ?_
      have stored : ∀ result, Keeps Steady StmtFault (store result) := by
        intro result
        simp only [store]
        refine Keeps.bind (share_keeps _ result) fun shared => ?_
        refine Keeps.bind (component_keeps _ serial) fun c => ?_
        split
        · exact Keeps.bind (modifyComponent_keeps _ _ _) fun _ => Keeps.pure _
        · exact Keeps.pure _
      cases op with
      | set => exact Keeps.bind (Keeps.pure _) stored
      | compound bop => exact Keeps.bind (binary_keeps arithmetic _ _ _) stored
    | ifThen condition body =>
      dsimp only
      refine Keeps.bind (evaluates condition) fun v => ?_
      split
      · exact calls.execBlock serial scope body
      · exact Keeps.pure _
    | call name args =>
      dsimp -zeta only
      split
      · refine Keeps.bind (modifyComponent_keeps _ _ _) fun _ => ?_
        exact Keeps.bind (component_keeps _ serial) fun _ =>
          Keeps.bind (log_keeps _ _ _ _) fun _ => Keeps.pure _
      split
      · extract_lets done
        split
        · refine Keeps.bind (evaluates _) fun v => ?_
          refine get_bind_keeps fun s => ?_
          refine Keeps.ofExcept_bind (Session.format_raises _ (arithmetic _ rfl) s v) fun shown => ?_
          exact Keeps.bind (log_keeps _ _ _ _) fun _ => Keeps.pure _
        · exact Keeps.pure _
      refine Keeps.bind ((expressions.evaluateTops scope (some serial) args).weaken
        fun _ => StmtFault.of_expr) fun values => ?_
      split
      · refine Keeps.bind (Keeps.discard ((calls.callBuiltin name values).weaken ?_)) fun _ => Keeps.pure _
        exact fun _ stack => StmtFault.of_expr (Or.inl stack)
      refine Keeps.bind (component_keeps _ serial) fun c => ?_
      split
      · exact Keeps.bind (calls.executeMethod serial _ values) fun _ => Keeps.pure _
      · refine Keeps.bind (Keeps.modify fun _ => Steady.of_frame rfl rfl rfl rfl rfl rfl rfl rfl)
          fun _ => ?_
        exact Keeps.bind (log_keeps _ _ _ _) fun _ => Keeps.pure _
    | unknown => exact Keeps.pure _

/--
A destruction keeps a session steady: `onDestroy` runs with the entity marked
as being destroyed, the mark comes off on both outcomes, and then the
announcement, and the entity deactivated and queued or taken out.
-/
theorem destroyEntity_keeps (below : ∀ g < frames, Safe g) (target : Value) :
    Keeps Steady (DestroyFault frames) (destroyEntity frames target) := by
  rw [destroyEntity.eq_def]
  cases frames with
  | zero => exact Keeps.throw (Or.inl (Or.inr ⟨by omega, rfl⟩))
  | succ f =>
    have inner := below f (Nat.lt_succ_self f)
    dsimp -zeta only
    extract_lets named
    have destroys : ∀ id, Keeps Steady (DestroyFault (f + 1)) (named id) := by
      intro id s
      simp -zeta only [named]
      rw [ends_bind, ends_get]
      split
      · exact Keeps.pure _ s
      split
      · exact Keeps.pure _ s
      rename_i e found fresh
      extract_lets finish
      have finished : ∀ r, Keeps Steady (DestroyFault (f + 1)) (finish r) := by
        intro r
        simp -zeta only [finish]
        refine get_bind_keeps fun u => ?_
        refine Keeps.bind ((inner.broadcast _ _).weaken fun _ => DestroyFault.of_escapes (by omega))
          fun _ => ?_
        refine Keeps.bind (Keeps.modify fun u => Steady.retire e.id ?_) fun _ =>
          Keeps.bind (log_keeps _ _ _ _) fun _ => Keeps.pure _
        split <;> rfl
      split
      · split
        · have unmarked : s.destroying.contains e.id = false := by
            simp only [Bool.or_eq_true, Bool.not_eq_true', not_or] at fresh
            exact Bool.eq_false_iff.mpr fresh.2
          rw [ends_bind, ends_modify, ends_bind, ends_tryFinally]
          refine ((inner.runMethod _ _ _ _).weaken fun _ => DestroyFault.of_escapes (by omega)).ends _
            (fun r t steady => ?_) fun fault t raised steady => ?_
          · rw [ends_modify]
            exact (finished r).after (Steady.unmark unmarked steady)
          · rw [ends_modify]
            exact ⟨raised, Steady.unmark unmarked steady⟩
        · exact finished () s
      · exact finished () s
    split
    · exact Keeps.bind (Keeps.pure _) destroys
    · exact Keeps.ofExcept_bind (Number.truncate_raises _ (Or.inr (Or.inl rfl)) (Or.inr (Or.inr rfl)) _)
        destroys

/--
Creating an entity keeps a session steady: the new entity is active, so the
table stays settled while it is announced.
-/
theorem createEntity_keeps (below : ∀ g < frames, Safe g) (kind : String) (position : Option Vec2)
    (driver : Option Nat) :
    Keeps Steady (Escapes 5 frames) (createEntity frames kind position driver) := by
  rw [createEntity.eq_def]
  cases frames with
  | zero => exact Keeps.throw (Or.inr ⟨by omega, rfl⟩)
  | succ f =>
    have announce := (below f (Nat.lt_succ_self f)).broadcast
    dsimp -zeta only
    extract_lets place
    have placed : ∀ p, Keeps Steady (Escapes 5 (f + 1)) (place p) := by
      intro p
      simp -zeta only [place]
      refine Keeps.bind (shareVec2_keeps _ p) fun p => ?_
      intro s
      rw [ends_bind, ends_get, ends_bind, ends_set]
      refine (Keeps.bind ((announce _ _).weaken fun _ => Escapes.widen (by omega)) fun _ => ?_).after
        (Steady.create s kind p driver)
      exact get_bind_keeps fun _ => Keeps.bind (log_keeps _ _ _ _) fun _ => Keeps.pure _
    split
    · exact Keeps.bind (Keeps.pure _) placed
    · exact Keeps.bind (spawnPosition_keeps _) placed

end Steps

/-- Every function of the interpreter, run with any number of frames, is safe. -/
theorem safe (frames : Nat) : Safe frames := by
  induction frames using Nat.strongRecOn with
  | ind frames below =>
    have evaluates := evaluate_keeps below
    have tops := evaluateTop_keeps below
    have runs := runMethod_keeps below
    exact
      { evaluate := evaluates
        evaluateArgs := evaluateArgs_keeps evaluates
        evaluateTop := tops
        evaluateTops := evaluateTops_keeps tops
        callBuiltin := callBuiltin_keeps below
        broadcast := broadcast_keeps below
        dispatch := dispatch_keeps runs
        runMethod := runs
        executeMethod := executeMethod_keeps below
        execBlock := execBlock_keeps below
        execStmt := execStmt_keeps below
        destroyEntity := destroyEntity_keeps below
        createEntity := createEntity_keeps below }

end Sim

end GameScript

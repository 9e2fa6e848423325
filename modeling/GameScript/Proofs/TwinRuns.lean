import GameScript.Proofs.TwinBuiltins
import GameScript.Proofs.Frames

/-!
# Scripts on twin sessions

Every function of the interpreter runs alike on twin sessions: given the
scope and the arguments of one twin moved, it ends as its run in the other
twin does, with its answer moved (a value, a list of values, a scope) or equal
(a count, a flag, an entity id), or with the same fault, and in twin sessions
again.

The proof follows the interpreter's recursion on the frames of host stack, as
`Sim.safe` does: `RunsAlike o frames` collects the statements at one number
of frames, one step lemma per function proves its statement from `RunsAlike`
at fewer frames (and from its callees at the same frames), and `runsAlike`
assembles them by induction on the frames.  Local scopes are moved entry by
entry (`shiftNamed`); reading a name and binding one commute with moving.
-/

namespace GameScript

namespace Scope

variable {d : Nat}

theorem get?_shift (scope : Scope) (name : String) :
    Scope.get? (shiftNamed d scope) name = (Scope.get? scope name).map (Value.shift d) := by
  simp only [get?, find?_shiftNamed, Option.map_map]
  rfl

theorem bind_shift (scope : Scope) (name : String) (v : Value) :
    Scope.bind (shiftNamed d scope) name (v.shift d) = shiftNamed d (Scope.bind scope name v) := by
  unfold bind
  rw [any_shiftNamed]
  split
  · exact shiftNamed_write scope name v
  · rw [shiftNamed_append, shiftNamed_singleton]

/-- Binding names one after another commutes with moving the values bound. -/
theorem foldl_bind_shift {α : Type} (xs : List α) (name : α → String) (value : α → Value) :
    ∀ scope : Scope, xs.foldl (fun scope x => Scope.bind scope (name x) ((value x).shift d))
        (shiftNamed d scope) =
      shiftNamed d (xs.foldl (fun scope x => Scope.bind scope (name x) (value x)) scope) := by
  induction xs with
  | nil => intro _; rfl
  | cons x rest more =>
    intro scope
    rw [List.foldl_cons, List.foldl_cons, bind_shift]
    exact more _

end Scope

theorem Value.zero_shift {d : Nat} (dataType : String) : (Value.zero dataType).shift d = Value.zero dataType := by
  unfold Value.zero
  repeat' split
  all_goals rfl

theorem Scope.ofCall_shift {d : Nat} (params : List Param) (args : List Value) :
    ofCall params (args.map (Value.shift d)) = shiftNamed d (ofCall params args) := by
  have moved : ∀ (i : Nat) (p : Param), (args.map (Value.shift d)).getD i (Value.zero p.dataType) =
      (args.getD i (Value.zero p.dataType)).shift d :=
    fun i p => Builtin.getD_shift args i (Value.zero_shift _)
  unfold ofCall
  simp only [moved]
  exact foldl_bind_shift _ (fun x : Param × Nat => x.1.name)
    (fun x : Param × Nat => args.getD x.2 (Value.zero x.1.dataType)) []

theorem Literal.value_shift {d : Nat} (lit : Literal) : lit.value.shift d = lit.value := by
  cases lit <;> rfl

/-- Only an entity moves to an entity, and it stays where it is. -/
theorem Value.shift_eq_entity {d : Nat} {v : Value} {id : Nat} : v.shift d = .entity id ↔ v = .entity id := by
  cases v <;> simp [Value.shift]

namespace Session

/--
Retiring an entity in both twins, the entity moved in one. The entity is
deactivated, then its component; then it waits for the end of the tick or
leaves.
-/
theorem Twin.retire {o : Offset} {s t : Session} (twin : s.Twin o t) (e : Entity) :
    (s.retire (e.shift o.ident)).Twin o (t.retire e) := by
  have deactivated : (s.world.modify e.id fun e => { e with active := false }) =
      (t.world.modify e.id fun e => { e with active := false }).shift o.ident := by
    rw [twin.world]
    exact World.modify_shift _ _ fun _ => rfl
  obtain ⟨id, kind, position, properties, _ | serial, active, lifespan, listed⟩ := e
  · unfold Session.retire
    dsimp only [Entity.shift] at deactivated ⊢
    rw [twin.inTick]
    split
    · exact { twin with world := deactivated, inTick := rfl, pendingEntities := by rw [twin.pendingEntities] }
    · exact { twin with world := by rw [deactivated, World.remove_shift], inTick := rfl }
  · have component := twin.modifyComponent serial (f := fun c => { c with active := false })
      (g := fun c => { c with active := false }) fun c => Component.shift_deactivate c
    unfold Session.retire
    dsimp only [Entity.shift, Session.modifyComponent] at deactivated component ⊢
    rw [twin.inTick]
    split
    · exact { component with world := deactivated, inTick := rfl, pendingEntities := by rw [twin.pendingEntities] }
    · exact { component with world := by rw [deactivated, World.remove_shift], inTick := rfl }

end Session

namespace Sim

open Session

variable {o : Offset}

/-- Lists of values of two twins: the first is the second moved. -/
abbrev MovedAll (o : Offset) (as bs : List Value) : Prop := as = bs.map (Value.shift o.ident)

/-- Scopes of two twins: the first is the second moved. -/
abbrev MovedScope (o : Offset) (a b : Scope) : Prop := a = shiftNamed o.ident b

/-! ## Steps that run no script -/

theorem countEvaluation_alike : Alike o Eq countEvaluation countEvaluation :=
  Alike.modify fun _ _ twin => { twin with }

theorem countStatement_alike : Alike o Eq countStatement countStatement :=
  Alike.modify fun _ _ twin => { twin with }

/-- A spawn position is a new vector, which moving leaves as it is. -/
theorem spawnPosition_alike :
    Alike o (fun a b => a = Vec2.shift o.ident b) spawnPosition spawnPosition := by
  refine Alike.get_bind fun s t twin => ?_
  rw [twin.settings]
  exact uniform_alike.bind_same fun x => uniform_alike.bind_same fun y => Alike.pure rfl

/--
A binary operator on moved operands gives the same new value. What an operator
builds is new, so moving leaves it as it is.
-/
theorem binary_alike (op : BinOp) (l r : Value) :
    Alike o (Moved o) (binary op (l.shift o.ident) (r.shift o.ident)) (binary op l r) := by
  refine Alike.get_bind fun s t twin => ?_
  rw [Value.binary_shift twin.textsAgree]
  have fresh := Alike.ofExcept_map (o := o) (Value.shift o.ident) (Value.binary t.entityText op l r)
  rwa [Value.shift_map_binary] at fresh

/-! ## One step of each function -/

/-- Every function of the interpreter, run with `frames` frames, runs alike on twins. -/
structure RunsAlike (o : Offset) (frames : Nat) : Prop where
  evaluate : ∀ scope self e, Alike o (Moved o)
    (evaluate frames (shiftNamed o.ident scope) self e) (evaluate frames scope self e)
  evaluateArgs : ∀ scope self es, Alike o (MovedAll o)
    (evaluateArgs frames (shiftNamed o.ident scope) self es) (evaluateArgs frames scope self es)
  evaluateTop : ∀ scope self e, Alike o (Moved o)
    (evaluateTop frames (shiftNamed o.ident scope) self e) (evaluateTop frames scope self e)
  evaluateTops : ∀ scope self es, Alike o (MovedAll o)
    (evaluateTops frames (shiftNamed o.ident scope) self es) (evaluateTops frames scope self es)
  callBuiltin : ∀ name args, Alike o (Moved o)
    (callBuiltin frames name (args.map (Value.shift o.ident))) (callBuiltin frames name args)
  broadcast : ∀ event payload, Alike o Eq
    (broadcast frames event (payload.shift o.ident)) (broadcast frames event payload)
  dispatch : ∀ pairs payload, Alike o Eq
    (dispatch frames pairs (payload.shift o.ident)) (dispatch frames pairs payload)
  runMethod : ∀ serial m args pfx, Alike o Eq
    (runMethod frames serial m (args.map (Value.shift o.ident)) pfx) (runMethod frames serial m args pfx)
  executeMethod : ∀ serial m args, Alike o Eq
    (executeMethod frames serial m (args.map (Value.shift o.ident))) (executeMethod frames serial m args)
  execBlock : ∀ serial scope body, Alike o (MovedScope o)
    (execBlock frames serial (shiftNamed o.ident scope) body) (execBlock frames serial scope body)
  execStmt : ∀ serial scope st, Alike o (MovedScope o)
    (execStmt frames serial (shiftNamed o.ident scope) st) (execStmt frames serial scope st)
  destroyEntity : ∀ target, Alike o Eq
    (destroyEntity frames (target.shift o.ident)) (destroyEntity frames target)
  createEntity : ∀ kind position driver, Alike o Eq
    (createEntity frames kind (position.map (Vec2.shift o.ident)) driver)
    (createEntity frames kind position driver)

section Steps

variable {frames : Nat}

/--
An expression evaluates alike in twins, its scope moved; a call's arguments
and the call itself each take one frame less.
-/
theorem evaluate_alike (below : ∀ g < frames, RunsAlike o g) (scope : Scope) (self : Option Nat)
    (e : Expr) :
    Alike o (Moved o) (evaluate frames (shiftNamed o.ident scope) self e) (evaluate frames scope self e) := by
  rw [evaluate.eq_def, evaluate.eq_def]
  cases frames with
  | zero => exact Alike.throw _
  | succ f =>
    have alike := below f (Nat.lt_succ_self f)
    cases e with
    | literal lit => exact Alike.pure (Literal.value_shift lit).symm
    | identifier name =>
      dsimp only
      refine Alike.ite _ (fun _ => Alike.throw_bind _) fun _ => ?_
      rw [Scope.get?_shift]
      cases scope.get? name with
      | some v => exact Alike.pure rfl
      | none =>
        cases self with
        | some serial =>
          refine (component_alike serial).bind_moved fun c => Alike.pure ?_
          rw [Component.field?_shift]
          cases c.field? name <;> rfl
        | none => exact Alike.pure rfl
    | unary op operand =>
      dsimp only
      refine (alike.evaluate scope self operand).bind_moved fun v => ?_
      exact Alike.ite _ (fun _ => Alike.throw_bind _) fun _ => Alike.pure (Value.unary_shift op v)
    | binary op left right =>
      dsimp only
      refine (alike.evaluate scope self left).bind_moved fun l => ?_
      refine (alike.evaluate scope self right).bind_moved fun r => ?_
      exact Alike.ite _ (fun _ => Alike.throw_bind _) fun _ => binary_alike op l r
    | call name args =>
      have inner := below (f - 1) (by omega)
      dsimp only
      exact (inner.evaluateArgs scope self args).bind_moved fun values => inner.callBuiltin name values

theorem evaluateArgs_alike
    (evaluates : ∀ scope self e, Alike o (Moved o)
      (evaluate frames (shiftNamed o.ident scope) self e) (evaluate frames scope self e))
    (scope : Scope) (self : Option Nat) (es : List Expr) :
    Alike o (MovedAll o) (evaluateArgs frames (shiftNamed o.ident scope) self es)
      (evaluateArgs frames scope self es) := by
  induction es with
  | nil =>
    rw [evaluateArgs, evaluateArgs]
    exact Alike.pure rfl
  | cons e rest more =>
    rw [evaluateArgs, evaluateArgs]
    exact (evaluates scope self e).bind_moved fun v => more.bind_moved fun vs => Alike.pure rfl

theorem evaluateTop_alike (below : ∀ g < frames, RunsAlike o g) (scope : Scope) (self : Option Nat)
    (e : Expr) :
    Alike o (Moved o) (evaluateTop frames (shiftNamed o.ident scope) self e)
      (evaluateTop frames scope self e) := by
  cases frames with
  | zero =>
    rw [evaluateTop, evaluateTop]
    exact Alike.throw _
  | succ f =>
    rw [evaluateTop, evaluateTop]
    exact Alike.tryFinally ((below f (Nat.lt_succ_self f)).evaluate scope self e) countEvaluation_alike

theorem evaluateTops_alike
    (evaluates : ∀ scope self e, Alike o (Moved o)
      (evaluateTop frames (shiftNamed o.ident scope) self e) (evaluateTop frames scope self e))
    (scope : Scope) (self : Option Nat) (es : List Expr) :
    Alike o (MovedAll o) (evaluateTops frames (shiftNamed o.ident scope) self es)
      (evaluateTops frames scope self es) := by
  induction es with
  | nil =>
    rw [evaluateTops, evaluateTops]
    exact Alike.pure rfl
  | cons e rest more =>
    rw [evaluateTops, evaluateTops]
    exact (evaluates scope self e).bind_moved fun v => more.bind_moved fun vs => Alike.pure rfl

/--
A built-in runs alike in twins, its arguments moved; those that run scripts
take three frames less, a failure of the built-in itself is logged and answers
0 in both twins, and an entity is made at the position moved in one twin, its
kind read alike.
-/
theorem callBuiltin_alike (below : ∀ g < frames, RunsAlike o g) (name : String) (args : List Value) :
    Alike o (Moved o) (callBuiltin frames name (args.map (Value.shift o.ident)))
      (callBuiltin frames name args) := by
  rw [callBuiltin.eq_def, callBuiltin.eq_def]
  cases frames with
  | zero => exact Alike.throw _
  | succ f =>
    have inner := below (f - 2) (by omega)
    dsimp only
    refine Alike.ite _ (fun _ => (log_alike _ _ _).bind_same fun _ => Alike.pure rfl) fun _ => ?_
    refine (countUse_alike name).bind_same fun _ => ?_
    refine Alike.tryCatch ?_ fun fault =>
      Alike.ite _ (fun _ => (log_alike _ _ _).bind_same fun _ => Alike.pure rfl) fun _ => Alike.throw _
    rw [List.length_map]
    refine Alike.ite _ (fun _ => Alike.throw_bind _) fun _ => ?_
    simp only [Builtin.arg_shift, Builtin.given?_shift]
    split
    · have placed : ∀ position : Option Vec2, Alike o (Moved o)
          (get >>= fun s => ofExcept (s.format ((Builtin.arg args 0).shift o.ident)) >>= fun kind =>
            createEntity (f - 2) kind (position.map (Vec2.shift o.ident)) none >>= fun id =>
              pure (Value.entity id))
          (get >>= fun s => ofExcept (s.format (Builtin.arg args 0)) >>= fun kind =>
            createEntity (f - 2) kind position none >>= fun id => pure (Value.entity id)) := by
        intro position
        refine Alike.get_bind fun s t twin => ?_
        rw [twin.format]
        exact (Alike.ofExcept _).bind_same fun kind =>
          (inner.createEntity kind position none).bind_same fun id => Alike.pure rfl
      cases Builtin.given? args 1 with
      | none =>
        dsimp only [Option.map]
        refine (Alike.pure (R := fun a b => a = Option.map (Vec2.shift o.ident) b) (b := none) rfl).bind_moved
          fun position => ?_
        exact placed position
      | some v =>
        dsimp only [Option.map]
        refine Alike.get_bind fun s t twin => ?_
        rw [Builtin.vectorView_shift twin]
        refine ((Alike.ofExcept_map _ _).map (S := fun a b => a = Option.map (Vec2.shift o.ident) b)
          fun a b moved => ?_).bind_moved fun position => ?_
        · rw [moved]
          rfl
        · exact placed position
    · exact (inner.destroyEntity _).bind_same fun _ => Alike.pure rfl
    · refine Alike.get_bind fun s t twin => ?_
      rw [twin.format]
      exact (Alike.ofExcept _).bind_same fun event =>
        (inner.broadcast event _).bind_same fun _ => Alike.pure rfl
    · exact Builtin.leaf_alike name args

/-- A broadcast runs alike in twins, its payload moved; its handlers run with three frames less. -/
theorem broadcast_alike (below : ∀ g < frames, RunsAlike o g) (event : String) (payload : Value) :
    Alike o Eq (broadcast frames event (payload.shift o.ident)) (broadcast frames event payload) := by
  cases frames with
  | zero =>
    rw [broadcast, broadcast]
    exact Alike.throw _
  | succ f =>
    have handlers := (below (f - 2) (by omega)).dispatch
    rw [broadcast, broadcast]
    refine (share_alike payload).bind_moved fun shared => ?_
    refine Alike.get_bind fun s t twin => ?_
    rw [twin.activeSerials, twin.events]
    refine (Alike.set ?_).bind_same fun _ => handlers _ shared
    exact { twin with events := rfl }

theorem dispatch_alike
    (runs : ∀ serial m args pfx, Alike o Eq
      (runMethod frames serial m (args.map (Value.shift o.ident)) pfx) (runMethod frames serial m args pfx))
    (pairs : List (String × Nat)) (payload : Value) :
    Alike o Eq (dispatch frames pairs (payload.shift o.ident)) (dispatch frames pairs payload) := by
  induction pairs with
  | nil =>
    rw [dispatch, dispatch]
    exact Alike.pure rfl
  | cons pair rest more =>
    obtain ⟨handler, serial⟩ := pair
    rw [dispatch, dispatch]
    refine (component_alike serial).bind_moved fun c => ?_
    simp only [Component.shift_active, Component.method?_shift, Component.shift_name]
    have counted : ∀ here : Nat, Alike o Eq
        (dispatch frames rest (payload.shift o.ident) >>= fun more => pure (here + more))
        (dispatch frames rest payload >>= fun more => pure (here + more)) :=
      fun here => more.bind_same fun _ => Alike.pure rfl
    split
    · exact (runs serial _ [payload] _).bind_same fun _ => (Alike.pure rfl).bind_same counted
    · exact (Alike.pure rfl).bind_same counted

/--
A method run goes alike in twins, its arguments moved; a call nested too deep
and the host stack are logged alike, and other faults pass on.
-/
theorem runMethod_alike (below : ∀ g < frames, RunsAlike o g) (serial : Nat) (m : MethodDecl)
    (args : List Value) (pfx : String) :
    Alike o Eq (runMethod frames serial m (args.map (Value.shift o.ident)) pfx)
      (runMethod frames serial m args pfx) := by
  cases frames with
  | zero =>
    rw [runMethod, runMethod]
    exact Alike.throw _
  | succ f =>
    rw [runMethod, runMethod]
    refine Alike.tryCatch ((below f (Nat.lt_succ_self f)).executeMethod serial m args) fun fault => ?_
    split
    · exact log_alike _ _ _
    · exact log_alike _ _ _
    · exact Alike.throw _

/--
A method goes alike in twins, its arguments moved; its component stays on the
call stack while the body runs, and is popped on both outcomes.
-/
theorem executeMethod_alike (below : ∀ g < frames, RunsAlike o g) (serial : Nat) (m : MethodDecl)
    (args : List Value) :
    Alike o Eq (executeMethod frames serial m (args.map (Value.shift o.ident)))
      (executeMethod frames serial m args) := by
  cases frames with
  | zero =>
    rw [executeMethod, executeMethod]
    exact Alike.throw _
  | succ f =>
    have body := (below f (Nat.lt_succ_self f)).execBlock serial
    rw [executeMethod, executeMethod]
    refine (Alike.mapM fun v => share_alike v).bind_moved fun shared => ?_
    refine Alike.get_bind fun s t twin => ?_
    rw [twin.callStack, twin.settings]
    refine Alike.ite _ (fun _ => Alike.throw_bind _) fun _ => ?_
    refine (Alike.set ?_).bind_same fun _ => ?_
    · exact { twin with settings := rfl, callStack := rfl }
    refine Alike.tryFinally ?_ (Alike.modify fun s t twin => { twin with callStack := by rw [twin.callStack] })
    rw [Scope.ofCall_shift]
    exact (body _ m.body).discard

/--
A block goes alike in twins, its scope moved; its statements run one after
another, each with one frame less than the block.
-/
theorem execBlock_alike (below : ∀ g < frames, RunsAlike o g) (serial : Nat) (scope : Scope)
    (body : List Stmt) :
    Alike o (MovedScope o) (execBlock frames serial (shiftNamed o.ident scope) body)
      (execBlock frames serial scope body) := by
  cases frames with
  | zero =>
    rw [execBlock, execBlock]
    exact Alike.throw _
  | succ f =>
    have statement := (below f (Nat.lt_succ_self f)).execStmt serial
    induction body generalizing scope with
    | nil =>
      rw [execBlock.eq_2 _ _ _ (Nat.succ_ne_zero f), execBlock.eq_2 _ _ _ (Nat.succ_ne_zero f)]
      exact Alike.pure rfl
    | cons st rest more =>
      rw [execBlock, execBlock]
      exact (statement scope st).bind_moved fun scope => more scope

/-- A value read with the integer 0 as default, moved: moving leaves the default as it is. -/
theorem getD_int_shift (x : Option Value) :
    (x.map (Value.shift o.ident)).getD (.int 0) = (x.getD (.int 0)).shift o.ident := by
  cases x <;> rfl

/--
A statement goes alike in twins, its scope moved.  Its expressions run with
three frames less, its calls with two; an assignment's result is stamped and
written to a field or the scope; a component that destroys itself is
deactivated, a spawn is only logged, and an unknown function is counted in the
books and logged.
-/
theorem execStmt_alike (below : ∀ g < frames, RunsAlike o g) (serial : Nat) (scope : Scope) (st : Stmt) :
    Alike o (MovedScope o) (execStmt frames serial (shiftNamed o.ident scope) st)
      (execStmt frames serial scope st) := by
  rw [execStmt.eq_def, execStmt.eq_def]
  cases frames with
  | zero => exact Alike.throw _
  | succ f =>
    have expressions := below (f - 2) (by omega)
    have calls := below (f - 1) (by omega)
    dsimp only
    refine countStatement_alike.bind_same fun _ => ?_
    cases st with
    | assign target op value =>
      dsimp only
      have stored : ∀ result : Value, Alike o (MovedScope o)
          (do
            let result ← share (result.shift o.ident)
            if (← component serial).hasField target then
              modifyComponent serial (·.setField target result)
              return shiftNamed o.ident scope
            else return Scope.bind (shiftNamed o.ident scope) target result)
          (do
            let result ← share result
            if (← component serial).hasField target then
              modifyComponent serial (·.setField target result)
              return scope
            else return Scope.bind scope target result) := by
        intro result
        refine (share_alike result).bind_moved fun shared => ?_
        refine (component_alike serial).bind_moved fun c => ?_
        rw [Component.hasField_shift]
        refine Alike.ite _ (fun _ => ?_) fun _ => Alike.pure (Scope.bind_shift _ _ _)
        exact (modifyComponent_alike serial fun c => Component.setField_shift c target shared).bind_same
          fun _ => Alike.pure rfl
      refine (component_alike serial).bind_moved fun c => ?_
      refine (expressions.evaluateTop scope (some serial) value).bind_moved fun v => ?_
      cases op with
      | set =>
        refine (Alike.pure (R := Moved o) (b := v) rfl).bind_moved fun result => ?_
        exact stored result
      | compound bop =>
        simp only [Component.hasField_shift, Component.field?_shift, Scope.get?_shift, getD_int_shift,
          Builtin.ite_shift]
        refine (binary_alike bop _ v).bind_moved fun result => ?_
        exact stored result
    | ifThen condition body =>
      dsimp only
      refine (expressions.evaluateTop scope (some serial) condition).bind_moved fun v => ?_
      rw [Value.truthy_shift]
      exact Alike.ite _ (fun _ => calls.execBlock serial scope body) fun _ => Alike.pure rfl
    | call name args =>
      dsimp only
      refine Alike.ite _ (fun _ => ?_) fun _ => Alike.ite _ (fun _ => ?_) fun _ => ?_
      · refine (modifyComponent_alike serial ?_).bind_same fun _ => ?_
        · exact fun c => Component.shift_deactivate c
        refine (component_alike serial).bind_moved fun c => ?_
        rw [Component.shift_name]
        exact (log_alike _ _ _).bind_same fun _ => Alike.pure rfl
      · cases args with
        | nil => exact Alike.pure rfl
        | cons a _ =>
          refine (expressions.evaluateTop scope (some serial) a).bind_moved fun v => ?_
          refine Alike.get_bind fun s t twin => ?_
          rw [twin.format, twin.component, Component.shift_name]
          exact (Alike.ofExcept _).bind_same fun shown => (log_alike _ _ _).bind_same fun _ => Alike.pure rfl
      · refine (expressions.evaluateTops scope (some serial) args).bind_moved fun values => ?_
        refine Alike.ite _ (fun _ => (calls.callBuiltin name values).discard.bind_same fun _ =>
          Alike.pure rfl) fun _ => ?_
        refine (component_alike serial).bind_moved fun c => ?_
        rw [Component.method?_shift]
        split
        · exact (calls.executeMethod serial _ values).bind_same fun _ => Alike.pure rfl
        · refine (Alike.modify fun _ _ twin => ?_).bind_same fun _ =>
            (log_alike _ _ _).bind_same fun _ => Alike.pure rfl
          exact { twin with }
    | unknown => exact Alike.pure rfl

/--
A destruction goes alike in twins, its target moved.  An entity names itself
and any other value reads as the same number in both twins; `onDestroy` runs
with the entity marked as being destroyed, the mark comes off on both
outcomes, and then come the announcement and the entity retired and logged.
-/
theorem destroyEntity_alike (below : ∀ g < frames, RunsAlike o g) (target : Value) :
    Alike o Eq (destroyEntity frames (target.shift o.ident)) (destroyEntity frames target) := by
  rw [destroyEntity.eq_def, destroyEntity.eq_def]
  cases frames with
  | zero => exact Alike.throw _
  | succ f =>
    have inner := below f (Nat.lt_succ_self f)
    dsimp -zeta only
    extract_lets named
    have finish : ∀ e : Entity, Alike o Eq
        (do
          let now := ((← get).world.find? e.id).getD (e.shift o.ident)
          let _ ← broadcast f "entityDestroyed"
            (.map 0 [(.str "id", .int now.id), (.str "type", .str now.kind),
              (.str "position", .vec2 now.position), (.str "lifespan", .float now.lifespan 0)])
          modify fun s => s.retire (e.shift o.ident)
          log .info ("Entity destroyed: " ++ e.name) (some e.id)
          return true)
        (do
          let now := ((← get).world.find? e.id).getD e
          let _ ← broadcast f "entityDestroyed"
            (.map 0 [(.str "id", .int now.id), (.str "type", .str now.kind),
              (.str "position", .vec2 now.position), (.str "lifespan", .float now.lifespan 0)])
          modify fun s => s.retire e
          log .info ("Entity destroyed: " ++ e.name) (some e.id)
          return true) := by
      intro e
      refine Alike.get_bind fun u v twin => ?_
      rw [twin.world, World.find?_shift, Option.getD_map]
      dsimp only
      simp only [Entity.shift_id, Entity.shift_kind, Entity.shift_position, Entity.shift_lifespan]
      refine (inner.broadcast "entityDestroyed" (.map 0 [(.str "id", .int _), (.str "type", .str _),
        (.str "position", .vec2 _), (.str "lifespan", .float _ 0)])).bind_same fun _ => ?_
      refine (Alike.modify fun s t twin => twin.retire e).bind_same fun _ => ?_
      exact (log_alike _ _ _).bind_same fun _ => Alike.pure rfl
    have destroys : ∀ id, Alike o Eq (named id) (named id) := by
      intro id
      simp -zeta only [named]
      refine Alike.get_bind fun s t twin => ?_
      rw [twin.world, World.get?_shift]
      by_cases negative : id < 0
      · simp only [negative, if_true]
        exact Alike.pure rfl
      simp only [negative, if_false]
      cases t.world.get? id.toNat with
      | none => exact Alike.pure rfl
      | some e =>
        dsimp only [Option.map]
        simp only [Entity.shift_active, Entity.shift_id, twin.destroying]
        refine Alike.ite _ (fun _ => Alike.pure rfl) fun _ => ?_
        simp only [Entity.shift_component, Entity.shift_name]
        obtain ⟨id, kind, position, properties, _ | serial, active, lifespan, listed⟩ := e
        · exact finish ⟨id, kind, position, properties, none, active, lifespan, listed⟩
        · dsimp only
          rw [twin.component, Component.method?_shift]
          split
          · refine (Alike.modify fun s t twin => ?_).bind_same fun _ => ?_
            · exact { twin with destroying := by rw [twin.destroying] }
            refine (Alike.tryFinally (inner.runMethod _ _ [] _) (Alike.modify fun s t twin => ?_)).bind_same
              fun _ => ?_
            · exact { twin with destroying := by rw [twin.destroying] }
            exact finish ⟨id, kind, position, properties, some serial, active, lifespan, listed⟩
          · exact finish ⟨id, kind, position, properties, some serial, active, lifespan, listed⟩
    split
    · rename_i id moved
      obtain rfl := Value.shift_eq_entity.1 moved
      exact (Alike.pure rfl).bind_same destroys
    · rename_i other
      split
      · exact (other _ rfl).elim
      · rw [Value.toNumber_shift]
        exact (Alike.ofExcept _).bind_same destroys

/--
Creating an entity goes alike in twins, its position moved: a position given
or drawn is moved on the left and shared afresh in both twins, both sides go
on with the one join point once the position is chosen, and the position the
log reports reads the same on both sides.
-/
theorem createEntity_alike (below : ∀ g < frames, RunsAlike o g) (kind : String)
    (position : Option Vec2) (driver : Option Nat) :
    Alike o Eq (createEntity frames kind (position.map (Vec2.shift o.ident)) driver)
      (createEntity frames kind position driver) := by
  rw [createEntity.eq_def, createEntity.eq_def]
  cases frames with
  | zero => exact Alike.throw _
  | succ f =>
    have inner := below f (Nat.lt_succ_self f)
    dsimp -zeta only
    extract_lets placing
    have placed : ∀ p, Alike o Eq (placing (p.shift o.ident)) (placing p) := by
      intro p
      simp -zeta only [placing]
      refine (shareVec2_alike p).bind_moved fun q => ?_
      refine Alike.get_bind fun s t twin => ?_
      rw [twin.world, World.create_shift]
      rcases t.world.create kind q driver with ⟨e, world⟩
      dsimp only
      refine (Alike.set ?_).bind_same fun _ => ?_
      · exact { twin with world := rfl }
      simp only [Entity.shift_id]
      refine (inner.broadcast "entityCreated" (.map 0 [(.str "id", .int _), (.str "type", .str _),
        (.str "position", .vec2 _)])).bind_same fun _ => ?_
      refine Alike.get_bind fun u v twin => ?_
      rw [twin.world, World.find?_shift]
      cases v.world.find? e.id with
      | none => exact (log_alike _ _ _).bind_same fun _ => Alike.pure rfl
      | some now => exact (log_alike _ _ _).bind_same fun _ => Alike.pure rfl
    cases position with
    | none => exact spawnPosition_alike.bind_moved placed
    | some p => exact (Alike.pure_moved _ p).bind_moved placed

end Steps

/-- Every function of the interpreter, run with any number of frames, keeps twins alike. -/
theorem runsAlike (frames : Nat) : RunsAlike o frames := by
  induction frames using Nat.strongRecOn with
  | ind frames below =>
    have evaluates := evaluate_alike below
    have tops := evaluateTop_alike below
    have runs := runMethod_alike below
    exact
      { evaluate := evaluates
        evaluateArgs := evaluateArgs_alike evaluates
        evaluateTop := tops
        evaluateTops := evaluateTops_alike tops
        callBuiltin := callBuiltin_alike below
        broadcast := broadcast_alike below
        dispatch := dispatch_alike runs
        runMethod := runs
        executeMethod := executeMethod_alike below
        execBlock := execBlock_alike below
        execStmt := execStmt_alike below
        destroyEntity := destroyEntity_alike below
        createEntity := createEntity_alike below }
end Sim
end GameScript

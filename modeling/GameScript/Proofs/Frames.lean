import GameScript.Session.Run
import GameScript.Proofs.Quiet

/-!
# Relations that every run of a script keeps

Beyond its books (`Session.Quiet`), a running script changes a session in five
ways only: it writes a field or the activity of a component instance, it
enters a method (pushing the call stack) and leaves it again, it marks an
entity as being destroyed while its `onDestroy` runs, it creates an entity,
and at the end of a destruction it retires the entity (deactivates it and its
component, and queues it for removal or takes it out of the table).

`Sim.StepsKeep R` asks of a preorder `R` on sessions that each of these keeps
it. `StepsKeep.runs` then proves, by induction on the frames of host stack,
that every function of the interpreter keeps `R` from every session, whether
it answers or fails. Each invariant of script runs is thus proved once per
kind of step, never by walking the interpreter again.
-/

namespace GameScript

/-- Writing a field keeps a component's name. -/
@[simp]
theorem Component.setField_name (c : Component) (name : String) (v : Value) :
    (c.setField name v).name = c.name := by
  unfold Component.setField
  split <;> rfl

/-- Writing a field keeps whether a component is active. -/
@[simp]
theorem Component.setField_active (c : Component) (name : String) (v : Value) :
    (c.setField name v).active = c.active := by
  unfold Component.setField
  split <;> rfl

/-- Writing a field keeps a component's methods. -/
@[simp]
theorem Component.setField_methods (c : Component) (name : String) (v : Value) :
    (c.setField name v).methods = c.methods := by
  unfold Component.setField
  split <;> rfl

/-- Writing a field the component has keeps the names of its fields, in order. -/
theorem Component.setField_names {c : Component} {name : String} (present : c.hasField name = true)
    (v : Value) : (c.setField name v).fields.map (·.1) = c.fields.map (·.1) := by
  simp only [Component.setField, present, if_true, List.map_map]
  refine List.map_congr_left fun f _ => ?_
  by_cases same : f.1 = name
  · simp [same]
  · simp [same]

/-- The entity of the table with an id is one of the world's entities. -/
theorem World.mem_of_get? {w : World} {id : Nat} {e : Entity} (found : w.get? id = some e) :
    e ∈ w.entities :=
  List.mem_of_find?_eq_some found

namespace Session

/--
The end of a destruction: the entity and its driving component are
deactivated, and the entity waits for the end of the running tick, or leaves
the table at once outside a tick.
-/
def retire (s : Session) (e : Entity) : Session :=
  let s := { s with world := s.world.modify e.id fun e => { e with active := false } }
  let s := match e.component with
    | some serial => s.modifyComponent serial fun c => { c with active := false }
    | none => s
  if s.inTick then { s with pendingEntities := s.pendingEntities ++ [e.id] }
  else { s with world := s.world.remove e.id }

end Session

open Session

namespace Sim

/-- Every kind of step a running script takes, other than keeping books, keeps `R`. -/
structure StepsKeep (R : Session → Session → Prop) : Prop where
  quiet : ∀ s t, Quiet s t → R s t
  /--
  A component instance changes, keeping its name and methods, never becoming active again, and
  keeping the names of its fields as the session holds them.
  -/
  modifyComponent : ∀ s serial (f : Component → Component), (∀ c, (f c).name = c.name) →
    (∀ c, (f c).active = true → c.active = true) → (∀ c, (f c).methods = c.methods) →
    (f (s.component serial)).fields.map (·.1) = (s.component serial).fields.map (·.1) →
    R s (s.modifyComponent serial f)
  /-- A method runs with its component pushed on the call stack, and pops it on both outcomes. -/
  enter : ∀ s t serial stats, R { s with callStack := serial :: s.callStack, stats } t →
    R s { t with callStack := t.callStack.tail }
  /-- `onDestroy` runs with its entity marked as being destroyed, and the mark comes off again. -/
  mark : ∀ s t id, s.destroying.contains id = false →
    R { s with destroying := id :: s.destroying } t →
    R s { t with destroying := t.destroying.filter (· != id) }
  create : ∀ s kind position driver, R s { s with world := (s.world.create kind position driver).2 }
  /-- A destruction ends by retiring an entity that the world held when it began. -/
  retire : ∀ s t e, e ∈ s.world.entities → R s t → R s (t.retire e)

/-- Every function of the interpreter, run with `frames` frames, keeps `R`, whatever it raises. -/
structure RunsKeep (R : Session → Session → Prop) (frames : Nat) : Prop where
  evaluate : ∀ scope self e, Keeps R (fun _ => True) (evaluate frames scope self e)
  evaluateArgs : ∀ scope self es, Keeps R (fun _ => True) (evaluateArgs frames scope self es)
  evaluateTop : ∀ scope self e, Keeps R (fun _ => True) (evaluateTop frames scope self e)
  evaluateTops : ∀ scope self es, Keeps R (fun _ => True) (evaluateTops frames scope self es)
  callBuiltin : ∀ name args, Keeps R (fun _ => True) (callBuiltin frames name args)
  broadcast : ∀ event payload, Keeps R (fun _ => True) (broadcast frames event payload)
  dispatch : ∀ pairs payload, Keeps R (fun _ => True) (dispatch frames pairs payload)
  runMethod : ∀ serial m args pfx, Keeps R (fun _ => True) (runMethod frames serial m args pfx)
  executeMethod : ∀ serial m args, Keeps R (fun _ => True) (executeMethod frames serial m args)
  execBlock : ∀ serial scope body, Keeps R (fun _ => True) (execBlock frames serial scope body)
  execStmt : ∀ serial scope st, Keeps R (fun _ => True) (execStmt frames serial scope st)
  destroyEntity : ∀ target, Keeps R (fun _ => True) (destroyEntity frames target)
  createEntity : ∀ kind position driver,
    Keeps R (fun _ => True) (createEntity frames kind position driver)

/-- Reading an instance answers the instance of the session it is read in, and changes nothing. -/
theorem ends_component {ok : Component → Session → Prop} {err : Fault → Session → Prop} {s : Session}
    (serial : Nat) : Ends (component serial) s ok err ↔ ok (s.component serial) s := Iff.rfl

namespace StepsKeep

variable {R : Session → Session → Prop}

/-- A quiet step keeps `R`. -/
theorem quietly (steps : StepsKeep R) {E : Fault → Prop} {m : Sim α} (keeps : Keeps Quiet E m) :
    Keeps R (fun _ => True) m :=
  (keeps.relax steps.quiet).weaken fun _ _ => trivial

theorem modify_books (steps : StepsKeep R) {g : Session → Session} (quiet : ∀ s, Quiet s (g s)) :
    Keeps R (fun _ => True) (modify g) :=
  Keeps.modify fun s => steps.quiet s _ (quiet s)

/-- A step that reads an instance and goes on from the session it read it in. -/
theorem component_bind_keeps {E : Fault → Prop} {k : Component → Sim α} (serial : Nat)
    (each : ∀ s, Ends (k (s.component serial)) s (fun _ t => R s t) (fun fault t => E fault ∧ R s t)) :
    Keeps R E (component serial >>= k) := fun s => by
  rw [ends_bind, ends_component]
  exact each s

theorem log_keeps (steps : StepsKeep R) (level : LogLevel) (message : String) (entity : Option Nat) :
    Keeps R (fun _ => True) (log level message entity) :=
  steps.quietly (log_quiet (fun _ => True) level message entity)

variable [IsPreorder Session R]

theorem binary_keeps (op : BinOp) (l r : Value) : Keeps R (fun _ => True) (binary op l r) :=
  get_bind_keeps fun _ => Keeps.ofExcept fun _ _ => trivial

theorem spawnPosition_keeps (steps : StepsKeep R) : Keeps R (fun _ => True) spawnPosition := by
  refine get_bind_keeps fun s => ?_
  exact Keeps.bind (steps.quietly (uniform_quiet (fun _ => True))) fun x =>
    Keeps.bind (steps.quietly (uniform_quiet (fun _ => True))) fun y => Keeps.pure _

/-! ## One step of each function -/

section Steps

variable {frames : Nat}

theorem evaluate_keeps (steps : StepsKeep R) (below : ∀ g < frames, RunsKeep R g) (scope : Scope) (self : Option Nat)
    (e : Expr) : Keeps R (fun _ => True) (evaluate frames scope self e) := by
  rw [evaluate.eq_def]
  cases frames with
  | zero => exact Keeps.throw trivial
  | succ f =>
    have inner := below f (Nat.lt_succ_self f)
    cases e with
    | literal => exact Keeps.pure _
    | identifier name =>
      dsimp only
      split
      · exact Keeps.throw_bind trivial
      · split
        · exact Keeps.pure _
        · split
          · exact Keeps.bind (steps.quietly (component_quiet (fun _ => True) _)) fun _ =>
              Keeps.pure _
          · exact Keeps.pure _
    | unary op operand =>
      dsimp only
      refine Keeps.bind (inner.evaluate scope self operand) fun v => ?_
      split
      · exact Keeps.throw_bind trivial
      · exact Keeps.pure _
    | binary op left right =>
      dsimp only
      refine Keeps.bind (inner.evaluate scope self left) fun l => ?_
      refine Keeps.bind (inner.evaluate scope self right) fun r => ?_
      split
      · exact Keeps.throw_bind trivial
      · exact binary_keeps op l r
    | call name args =>
      have calls := below (f - 1) (by omega)
      dsimp only
      exact Keeps.bind (calls.evaluateArgs scope self args) fun values =>
        calls.callBuiltin name values

theorem evaluateArgs_keeps
    (evaluates : ∀ scope self e, Keeps R (fun _ => True) (evaluate frames scope self e))
    (scope : Scope) (self : Option Nat) (es : List Expr) :
    Keeps R (fun _ => True) (evaluateArgs frames scope self es) := by
  induction es with
  | nil =>
    rw [evaluateArgs]
    exact Keeps.pure _
  | cons e rest more =>
    rw [evaluateArgs]
    exact Keeps.bind (evaluates scope self e) fun _ => Keeps.bind more fun _ => Keeps.pure _

theorem evaluateTop_keeps (steps : StepsKeep R) (below : ∀ g < frames, RunsKeep R g) (scope : Scope) (self : Option Nat)
    (e : Expr) : Keeps R (fun _ => True) (evaluateTop frames scope self e) := by
  cases frames with
  | zero =>
    rw [evaluateTop]
    exact Keeps.throw trivial
  | succ f =>
    rw [evaluateTop]
    exact Keeps.tryFinally ((below f (Nat.lt_succ_self f)).evaluate scope self e)
      (steps.modify_books fun s => Quiet.of_books s)

theorem evaluateTops_keeps
    (evaluates : ∀ scope self e, Keeps R (fun _ => True) (evaluateTop frames scope self e))
    (scope : Scope) (self : Option Nat) (es : List Expr) :
    Keeps R (fun _ => True) (evaluateTops frames scope self es) := by
  induction es with
  | nil =>
    rw [evaluateTops]
    exact Keeps.pure _
  | cons e rest more =>
    rw [evaluateTops]
    exact Keeps.bind (evaluates scope self e) fun _ => Keeps.bind more fun _ => Keeps.pure _

theorem callBuiltin_keeps (steps : StepsKeep R) (below : ∀ g < frames, RunsKeep R g) (name : String) (args : List Value) :
    Keeps R (fun _ => True) (callBuiltin frames name args) := by
  rw [callBuiltin.eq_def]
  cases frames with
  | zero => exact Keeps.throw trivial
  | succ f =>
    have inner := below (f - 2) (by omega)
    dsimp -zeta only
    split
    · exact Keeps.bind (steps.log_keeps _ _ _) fun _ => Keeps.pure _
    refine Keeps.bind (steps.quietly (countUse_quiet (fun _ => True) _)) fun _ => ?_
    refine Keeps.tryCatch (E := fun _ => True) ?_ fun fault _ => ?_
    · extract_lets place run
      split
      · exact Keeps.throw_bind trivial
      simp only [run]
      split
      · have placed : ∀ position, Keeps R (fun _ => True) (place position) := by
          intro position
          refine get_bind_keeps fun s => ?_
          refine Keeps.ofExcept_bind (fun _ _ => trivial) fun kind => ?_
          exact Keeps.bind (inner.createEntity kind position none) fun _ => Keeps.pure _
        split
        · exact Keeps.bind (Keeps.pure _) placed
        · refine get_bind_keeps fun s => Keeps.bind ?_ placed
          exact Keeps.map _ (Keeps.ofExcept fun _ _ => trivial)
      · exact Keeps.bind (inner.destroyEntity _) fun _ => Keeps.pure _
      · refine get_bind_keeps fun s => ?_
        refine Keeps.ofExcept_bind (fun _ _ => trivial) fun event => ?_
        exact Keeps.bind (inner.broadcast event _) fun _ => Keeps.pure _
      · exact steps.quietly (Builtin.leaf_quiet (fun _ _ => trivial) name args)
    · split
      · exact Keeps.bind (steps.log_keeps _ _ _) fun _ => Keeps.pure _
      · exact Keeps.throw trivial

/--
A broadcast keeps `R`: counting it changes only the event bus, and its
handlers run with fewer frames.
-/
theorem broadcast_keeps (steps : StepsKeep R) (below : ∀ g < frames, RunsKeep R g) (event : String) (payload : Value) :
    Keeps R (fun _ => True) (broadcast frames event payload) := by
  cases frames with
  | zero =>
    rw [broadcast]
    exact Keeps.throw trivial
  | succ f =>
    have handlers := (below (f - 2) (by omega)).dispatch
    rw [broadcast]
    refine Keeps.bind (steps.quietly (share_quiet (fun _ => True) _)) fun shared => ?_
    intro s
    dsimp only
    rw [ends_bind, ends_get, ends_bind, ends_set]
    exact (handlers _ shared).after (steps.quiet s _ (Quiet.of_books s))

theorem dispatch_keeps (steps : StepsKeep R)
    (runs : ∀ serial m args pfx, Keeps R (fun _ => True) (runMethod frames serial m args pfx))
    (pairs : List (String × Nat)) (payload : Value) :
    Keeps R (fun _ => True) (dispatch frames pairs payload) := by
  induction pairs with
  | nil =>
    rw [dispatch]
    exact Keeps.pure _
  | cons pair rest more =>
    obtain ⟨handler, serial⟩ := pair
    rw [dispatch]
    refine Keeps.bind (steps.quietly (component_quiet (fun _ => True) serial)) fun c => ?_
    extract_lets next
    have counted : ∀ here, Keeps R (fun _ => True) (next here) := fun here =>
      Keeps.bind more fun _ => Keeps.pure _
    split
    · exact Keeps.bind (runs _ _ _ _) fun _ => Keeps.bind (Keeps.pure _) counted
    · exact Keeps.bind (Keeps.pure _) counted

theorem runMethod_keeps (steps : StepsKeep R) (below : ∀ g < frames, RunsKeep R g) (serial : Nat) (m : MethodDecl)
    (args : List Value) (pfx : String) :
    Keeps R (fun _ => True) (runMethod frames serial m args pfx) := by
  cases frames with
  | zero =>
    rw [runMethod]
    exact Keeps.throw trivial
  | succ f =>
    rw [runMethod]
    refine Keeps.tryCatch ((below f (Nat.lt_succ_self f)).executeMethod serial m args)
      fun fault _ => ?_
    split
    · exact steps.log_keeps _ _ _
    · exact steps.log_keeps _ _ _
    · exact Keeps.throw trivial

theorem executeMethod_keeps (steps : StepsKeep R) (below : ∀ g < frames, RunsKeep R g) (serial : Nat) (m : MethodDecl)
    (args : List Value) : Keeps R (fun _ => True) (executeMethod frames serial m args) := by
  cases frames with
  | zero =>
    rw [executeMethod]
    exact Keeps.throw trivial
  | succ f =>
    have body := (below f (Nat.lt_succ_self f)).execBlock serial
    rw [executeMethod]
    refine Keeps.bind (Keeps.mapM fun v => steps.quietly (share_quiet (fun _ => True) v))
      fun shared => ?_
    intro s
    rw [ends_bind, ends_get]
    dsimp only
    split
    · exact Keeps.throw_bind trivial s
    simp only [ends_bind, ends_set, ends_tryFinally, ends_modify]
    exact (body _ m.body).discard.ends _ (fun _ t related => steps.enter s t serial _ related)
      fun _ t _ related => ⟨trivial, steps.enter s t serial _ related⟩

theorem execBlock_keeps (below : ∀ g < frames, RunsKeep R g) (serial : Nat) (scope : Scope)
    (body : List Stmt) : Keeps R (fun _ => True) (execBlock frames serial scope body) := by
  cases frames with
  | zero =>
    rw [execBlock]
    exact Keeps.throw trivial
  | succ f =>
    have statement := (below f (Nat.lt_succ_self f)).execStmt serial
    induction body generalizing scope with
    | nil =>
      rw [execBlock.eq_2 _ _ _ (Nat.succ_ne_zero f)]
      exact Keeps.pure _
    | cons st rest more =>
      rw [execBlock]
      exact Keeps.bind (statement scope st) more

/--
A statement keeps `R`; a field is written only when the instance, read in that
same session, has it.
-/
theorem execStmt_keeps (steps : StepsKeep R) (below : ∀ g < frames, RunsKeep R g) (serial : Nat) (scope : Scope) (st : Stmt) :
    Keeps R (fun _ => True) (execStmt frames serial scope st) := by
  rw [execStmt.eq_def]
  cases frames with
  | zero => exact Keeps.throw trivial
  | succ f =>
    have expressions := below (f - 2) (by omega)
    have calls := below (f - 1) (by omega)
    have reads : ∀ serial, Keeps R (fun _ => True) (component serial) := fun serial =>
      steps.quietly (component_quiet (fun _ => True) serial)
    dsimp -zeta only
    refine Keeps.bind (steps.modify_books fun s => Quiet.of_books s) fun _ => ?_
    cases st with
    | assign target op value =>
      dsimp -zeta only
      refine Keeps.bind (reads serial) fun c => ?_
      extract_lets current store
      refine Keeps.bind (expressions.evaluateTop scope (some serial) value) fun v => ?_
      have stored : ∀ result, Keeps R (fun _ => True) (store result) := by
        intro result
        simp only [store]
        refine Keeps.bind (steps.quietly (share_quiet (fun _ => True) result)) fun shared => ?_
        refine component_bind_keeps serial fun s => ?_
        split
        · next present =>
          rw [ends_bind, Sim.modifyComponent, ends_modify]
          exact (Keeps.pure _).after (steps.modifyComponent s serial _ (fun c => c.setField_name _ _)
            (fun c => by simp) (fun c => c.setField_methods _ _) (Component.setField_names present _))
        · exact Keeps.pure _ s
      cases op with
      | set => exact Keeps.bind (Keeps.pure _) stored
      | compound bop => exact Keeps.bind (binary_keeps _ _ _) stored
    | ifThen condition body =>
      dsimp only
      refine Keeps.bind (expressions.evaluateTop scope (some serial) condition) fun v => ?_
      split
      · exact calls.execBlock serial scope body
      · exact Keeps.pure _
    | call name args =>
      dsimp -zeta only
      split
      · refine Keeps.bind (Keeps.modify fun s => steps.modifyComponent s serial _ (fun _ => rfl)
          (fun _ raised => nomatch raised) (fun _ => rfl) rfl) fun _ => ?_
        exact Keeps.bind (reads serial) fun _ => Keeps.bind (steps.log_keeps _ _ _) fun _ => Keeps.pure _
      split
      · extract_lets done
        split
        · refine Keeps.bind (expressions.evaluateTop scope (some serial) _) fun v => ?_
          refine get_bind_keeps fun s => ?_
          refine Keeps.ofExcept_bind (fun _ _ => trivial) fun shown => ?_
          exact Keeps.bind (steps.log_keeps _ _ _) fun _ => Keeps.pure _
        · exact Keeps.pure _
      refine Keeps.bind (expressions.evaluateTops scope (some serial) args) fun values => ?_
      split
      · exact Keeps.bind (Keeps.discard (calls.callBuiltin name values)) fun _ => Keeps.pure _
      refine Keeps.bind (reads serial) fun c => ?_
      split
      · exact Keeps.bind (calls.executeMethod serial _ values) fun _ => Keeps.pure _
      · refine Keeps.bind (steps.modify_books fun s => Quiet.of_books s) fun _ => ?_
        exact Keeps.bind (steps.log_keeps _ _ _) fun _ => Keeps.pure _
    | unknown => exact Keeps.pure _

/--
A destruction keeps `R`: `onDestroy` runs with the entity marked as being
destroyed, the mark comes off on both outcomes, and the announcement and the
retirement end related to where the destruction began.
-/
theorem destroyEntity_keeps (steps : StepsKeep R) (below : ∀ g < frames, RunsKeep R g) (target : Value) :
    Keeps R (fun _ => True) (destroyEntity frames target) := by
  rw [destroyEntity.eq_def]
  cases frames with
  | zero => exact Keeps.throw trivial
  | succ f =>
    have inner := below f (Nat.lt_succ_self f)
    dsimp -zeta only
    extract_lets named
    have destroys : ∀ id, Keeps R (fun _ => True) (named id) := by
      intro id s
      simp -zeta only [named]
      rw [ends_bind, ends_get]
      split
      · exact Keeps.pure _ s
      split
      · exact Keeps.pure _ s
      rename_i e found fresh
      have present : e ∈ s.world.entities := by
        split at found
        · cases found
        · exact World.mem_of_get? found
      extract_lets finish
      have finished : ∀ r t, R s t →
          Ends (finish r) t (fun _ u => R s u) (fun _ u => True ∧ R s u) := by
        intro r t related
        simp -zeta only [finish]
        rw [ends_bind, ends_get, ends_bind]
        refine (inner.broadcast _ _).ends t (fun _ u announced => ?_)
          fun _ u _ announced => ⟨trivial, trans_of R related announced⟩
        rw [ends_bind, ends_modify]
        exact (Keeps.bind (steps.log_keeps _ _ _) fun _ => Keeps.pure _).after
          (steps.retire s u e present (trans_of R related announced))
      split
      · split
        · have unmarked : s.destroying.contains e.id = false := by
            simp only [Bool.or_eq_true, Bool.not_eq_true', not_or] at fresh
            exact Bool.eq_false_iff.mpr fresh.2
          rw [ends_bind, ends_modify, ends_bind, ends_tryFinally]
          refine (inner.runMethod _ _ _ _).ends _ (fun r t related => ?_)
            fun fault t _ related => ?_
          · rw [ends_modify]
            exact finished r _ (steps.mark s t e.id unmarked related)
          · rw [ends_modify]
            exact ⟨trivial, steps.mark s t e.id unmarked related⟩
        · exact finished () s (refl_of R s)
      · exact finished () s (refl_of R s)
    split
    · exact Keeps.bind (Keeps.pure _) destroys
    · exact Keeps.ofExcept_bind (fun _ _ => trivial) destroys

theorem createEntity_keeps (steps : StepsKeep R) (below : ∀ g < frames, RunsKeep R g) (kind : String)
    (position : Option Vec2) (driver : Option Nat) :
    Keeps R (fun _ => True) (createEntity frames kind position driver) := by
  rw [createEntity.eq_def]
  cases frames with
  | zero => exact Keeps.throw trivial
  | succ f =>
    have announce := (below f (Nat.lt_succ_self f)).broadcast
    dsimp -zeta only
    extract_lets place
    have placed : ∀ p, Keeps R (fun _ => True) (place p) := by
      intro p
      simp -zeta only [place]
      refine Keeps.bind (steps.quietly (shareVec2_quiet (fun _ => True) p)) fun p => ?_
      intro s
      rw [ends_bind, ends_get, ends_bind, ends_set]
      refine (Keeps.bind (announce _ _) fun _ => ?_).after (steps.create s kind p driver)
      exact get_bind_keeps fun _ => Keeps.bind (steps.log_keeps _ _ _) fun _ => Keeps.pure _
    split
    · exact Keeps.bind (Keeps.pure _) placed
    · exact Keeps.bind steps.spawnPosition_keeps placed

end Steps

/-- If every kind of step keeps `R`, every function of the interpreter does, with any number of frames. -/
theorem runs (steps : StepsKeep R) (frames : Nat) : RunsKeep R frames := by
  induction frames using Nat.strongRecOn with
  | ind frames below =>
    have evaluates := steps.evaluate_keeps below
    have tops := steps.evaluateTop_keeps below
    have methods := steps.runMethod_keeps below
    exact
      { evaluate := evaluates
        evaluateArgs := evaluateArgs_keeps evaluates
        evaluateTop := tops
        evaluateTops := evaluateTops_keeps tops
        callBuiltin := steps.callBuiltin_keeps below
        broadcast := steps.broadcast_keeps below
        dispatch := steps.dispatch_keeps methods
        runMethod := methods
        executeMethod := steps.executeMethod_keeps below
        execBlock := execBlock_keeps below
        execStmt := steps.execStmt_keeps below
        destroyEntity := steps.destroyEntity_keeps below
        createEntity := steps.createEntity_keeps below }

end StepsKeep

end Sim

end GameScript

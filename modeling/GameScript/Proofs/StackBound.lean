import Mathlib.Data.List.MinMax
import GameScript.Proofs.Frames
import GameScript.Proofs.ReadBound
import GameScript.Session.Host

/-!
# Every run needs a bounded host stack

The interpreter counts the host stack in frames (`GameScript.Session.Run`), and
every function of it is total because each call uses a frame or walks a
shorter list.  That alone would allow a run whose work grows with the stack it
is given: a method that calls itself, or a handler that broadcasts the event
it handles, until the frames run out.  This module proves that it is not so.
Every nesting of one method run inside another goes through `executeMethod`,
which refuses to nest deeper than the configured call depth, and every other
recursion walks a finite expression, statement list or argument list.  So from
every session there is a number of frames past which more frames change
nothing: the answer, the fault and the final session are the same.

The number is computed.  `Expr.need`, `Stmt.need` and `Stmt.needBlock` count
the frames that evaluating an expression or executing statements takes, given
the frames that one method run takes; `methodNeed bodies r` counts those of a
method whose body is among `bodies` when calls may nest `r` deeper.  A session
is `Within r bodies` when calls may nest `r` deeper there and every method body
of its store is among `bodies`; every run keeps the depth of the call stack,
its limit and the method bodies (`sameReach_steps`), so what a run can reach
from a session it can reach from any session it passes through.

`Stable frames` says that every function gives the same run with one frame more
than `frames` once `frames` covers its need; one step lemma per function proves
it from `Stable` at fewer frames, and `stable` assembles them by induction on
the frames.
-/

namespace GameScript

/-! ## What a run can reach -/

namespace Session

/-- The bodies of the methods of every component instance, the whole store over. -/
def methodBodies (s : Session) : List (List Stmt) :=
  ((s.store.toList.map Component.methods).flatten).map (·.2.body)

/-- How many method calls may still nest inside the running ones. -/
def depthLeft (s : Session) : Nat := s.settings.maxCallDepth - s.callStack.length

/--
The method an instance finds by name has its body in the store. An instance
that was never made is the default one, which has no methods.
-/
theorem body_mem_methodBodies {s : Session} {serial : Nat} {name : String} {m : MethodDecl}
    (found : (s.component serial).method? name = some m) : m.body ∈ s.methodBodies := by
  unfold Component.method? at found
  obtain ⟨p, present, rfl⟩ := Option.map_eq_some_iff.1 found
  have member := List.mem_of_find?_eq_some present
  unfold Session.component at member
  rw [Array.getD_eq_getD_getElem?] at member
  cases stored : s.store[serial]? with
  | none =>
    rw [stored] at member
    exact absurd member List.not_mem_nil
  | some c =>
    rw [stored, Option.getD_some] at member
    simp only [methodBodies, List.mem_map, List.mem_flatten]
    exact ⟨p, ⟨c.methods, ⟨c, Array.mem_toList_iff.2 (Array.mem_of_getElem? stored), rfl⟩, member⟩,
      rfl⟩

/-- Changing an instance in a way that keeps its methods keeps every method body. -/
theorem methodBodies_modifyComponent (s : Session) (serial : Nat) {f : Component → Component}
    (kept : ∀ c, (f c).methods = c.methods) :
    (s.modifyComponent serial f).methodBodies = s.methodBodies := by
  have methods : (s.store.toList.modify serial f).map Component.methods =
      s.store.toList.map Component.methods := by
    apply List.ext_getElem (by simp)
    intro i _ _
    simp only [List.getElem_map, List.getElem_modify]
    split <;> simp [kept]
  simp only [methodBodies, modifyComponent, Array.toList_modify, methods]

/-- `t` lets calls nest as deep as `s` does, under the same limit, and holds the same method bodies. -/
structure SameReach (s t : Session) : Prop where
  limit : t.settings.maxCallDepth = s.settings.maxCallDepth
  depth : t.callStack.length = s.callStack.length
  bodies : t.methodBodies = s.methodBodies

instance : IsPreorder Session SameReach where
  refl _ := ⟨rfl, rfl, rfl⟩
  trans _ _ _ first second :=
    ⟨second.limit.trans first.limit, second.depth.trans first.depth, second.bodies.trans first.bodies⟩

/-- Retiring an entity deactivates its component, which keeps the component's methods. -/
theorem SameReach.retire (s : Session) (e : Entity) : SameReach s (s.retire e) := by
  unfold Session.retire
  cases e.component with
  | none => dsimp only; split <;> exact ⟨rfl, rfl, rfl⟩
  | some serial =>
    dsimp only
    split <;> exact ⟨rfl, rfl, methodBodies_modifyComponent _ serial fun _ => rfl⟩

/-- Calls may nest `r` deeper, and the body of every method of the store is among `bodies`. -/
structure Within (r : Nat) (bodies : List (List Stmt)) (s : Session) : Prop where
  left : s.depthLeft = r
  stored : ∀ body ∈ s.methodBodies, body ∈ bodies

/-- Entering a method: calls may nest one less deep. -/
theorem Within.enter {r : Nat} {bodies : List (List Stmt)} {s : Session} (within : Within (r + 1) bodies s)
    (serial : Nat) (stats : RunStats) : Within r bodies { s with callStack := serial :: s.callStack, stats } where
  left := by
    have left := within.left
    simp only [depthLeft, List.length_cons] at left ⊢
    omega
  stored := within.stored

/-- A new instance whose method bodies are among `bodies` keeps a session within reach. -/
theorem Within.push {r : Nat} {bodies : List (List Stmt)} {s : Session} (within : Within r bodies s)
    (c : Component) (methods : ∀ p ∈ c.methods, p.2.body ∈ bodies) :
    Within r bodies { s with store := s.store.push c } where
  left := within.left
  stored body member := by
    have pushed : ({ s with store := s.store.push c } : Session).methodBodies =
        s.methodBodies ++ c.methods.map (·.2.body) := by
      simp [methodBodies]
    rw [pushed, List.mem_append] at member
    rcases member with old | new
    · exact within.stored _ old
    · obtain ⟨p, present, rfl⟩ := List.mem_map.1 new
      exact methods p present

/-- A session is within its own reach. -/
theorem Within.self (s : Session) : Within s.depthLeft s.methodBodies s := ⟨rfl, fun _ member => member⟩

/-- A session is within reach of its method bodies and more. -/
theorem Within.more {r : Nat} {bodies : List (List Stmt)} {s : Session} (within : Within r bodies s)
    (more : List (List Stmt)) : Within r (bodies ++ more) s :=
  ⟨within.left, fun body member => List.mem_append_left more (within.stored body member)⟩

theorem Within.reach {r : Nat} {bodies : List (List Stmt)} {s t : Session} (within : Within r bodies s)
    (reach : SameReach s t) : Within r bodies t where
  left := by rw [← within.left, depthLeft, depthLeft, reach.limit, reach.depth]
  stored := reach.bodies ▸ within.stored

end Session

open Session

namespace Sim

/-- Every kind of step a running script takes keeps the depth of the call stack, its limit and the method bodies. -/
theorem sameReach_steps : StepsKeep SameReach where
  quiet s t quiet := ⟨by rw [quiet.settings], by rw [quiet.callStack], by
    simp only [methodBodies, quiet.store]⟩
  modifyComponent s serial _ _ _ kept _ := ⟨rfl, rfl, methodBodies_modifyComponent s serial kept⟩
  enter s t serial stats inner := ⟨inner.limit, by
    have deeper : t.callStack.length = s.callStack.length + 1 := inner.depth
    simp only [List.length_tail, deeper, Nat.add_sub_cancel], inner.bodies⟩
  mark _ _ _ _ inner := ⟨inner.limit, inner.depth, inner.bodies⟩
  create _ _ _ _ := ⟨rfl, rfl, rfl⟩
  retire _ t e _ related := trans_of SameReach related (SameReach.retire t e)

/-- Every function of the interpreter keeps what a run can reach. -/
theorem sameReach_runs (frames : Nat) : RunsKeep SameReach frames :=
  sameReach_steps.runs frames

theorem pure_reach (a : α) : Keeps SameReach (fun _ => True) (pure a : Sim α) := Keeps.pure a

theorem modify_reach {g : Session → Session} (step : ∀ s, SameReach s (g s)) :
    Keeps SameReach (fun _ => True) (modify g) :=
  Keeps.modify step

theorem component_reach (serial : Nat) : Keeps SameReach (fun _ => True) (component serial) :=
  sameReach_steps.quietly (component_quiet (fun _ => True) serial)

theorem countStatement_reach : Keeps SameReach (fun _ => True) countStatement :=
  sameReach_steps.modify_books fun s => Quiet.of_books s

/-- A step that fails without touching the session keeps what a run can reach. -/
theorem ofExcept_reach (x : Except Fault α) : Keeps SameReach (fun _ => True) (ofExcept x) :=
  Keeps.ofExcept fun _ _ => trivial

/-! ## Runs that agree -/

/-- Two computations run alike, answer, fault and final session, from every session within reach `r` of `bodies`. -/
def Agree (r : Nat) (bodies : List (List Stmt)) (x y : Sim α) : Prop :=
  ∀ s, Within r bodies s → x.run s = y.run s

section Agree

variable {r : Nat} {bodies : List (List Stmt)} {x y : Sim α}

theorem Agree.refl (x : Sim α) : Agree r bodies x x := fun _ _ => rfl

/-- Runs that agree stay in agreement through continuations that agree, when the run on the right stays within reach. -/
theorem Agree.bind_within {E : Fault → Prop} {k k' : α → Sim β} (first : Agree r bodies x y)
    (stays : Keeps (Preserves (Within r bodies)) E y) (rest : ∀ a, Agree r bodies (k a) (k' a)) :
    Agree r bodies (x >>= k) (y >>= k') := by
  intro s within
  rw [EStateM.run_bind, EStateM.run_bind, first s within]
  cases ran : y.run s with
  | ok a t => exact rest a t (stays.of_run ran within)
  | error fault t => rfl

/-- What keeps the reach of a run keeps every session within reach. -/
theorem Keeps.within {E : Fault → Prop} (keeps : Keeps SameReach E x) : Keeps (Preserves (Within r bodies)) E x :=
  keeps.relax fun _ _ reach within => within.reach reach

/-- Runs that agree stay in agreement through continuations that agree within the same reach. -/
theorem Agree.bind {E : Fault → Prop} {k k' : α → Sim β} (first : Agree r bodies x y)
    (keeps : Keeps SameReach E y) (rest : ∀ a, Agree r bodies (k a) (k' a)) :
    Agree r bodies (x >>= k) (y >>= k') :=
  first.bind_within keeps.within rest

/-- A step that runs alike on both sides, then continuations that agree. -/
theorem Agree.bind_same {E : Fault → Prop} {k k' : α → Sim β} (keeps : Keeps SameReach E x)
    (rest : ∀ a, Agree r bodies (k a) (k' a)) : Agree r bodies (x >>= k) (x >>= k') :=
  (Agree.refl x).bind keeps rest

/-- A step that answers the same from every session, then continuations that agree at that answer. -/
theorem Agree.bind_answer {E : Fault → Prop} {a : α} {k k' : α → Sim β} (keeps : Keeps SameReach E x)
    (answers : ∀ s, ∃ t, x.run s = .ok a t) (rest : Agree r bodies (k a) (k' a)) :
    Agree r bodies (x >>= k) (x >>= k') := by
  intro s within
  obtain ⟨t, ran⟩ := answers s
  rw [EStateM.run_bind, EStateM.run_bind, ran]
  exact rest t (within.reach (keeps.of_run ran))

theorem Agree.tryCatch (first : Agree r bodies x y) (handler : Fault → Sim α) :
    Agree r bodies (tryCatch x handler) (tryCatch y handler) := by
  intro s within
  have same := first s within
  unfold EStateM.run at same ⊢
  change EStateM.tryCatch x handler s = EStateM.tryCatch y handler s
  unfold EStateM.tryCatch
  rw [same]

theorem Agree.withFinally (first : Agree r bodies x y) (final : Sim β) :
    Agree r bodies (tryFinally x final) (tryFinally y final) := by
  intro s within
  have same := first s within
  unfold EStateM.run at same ⊢
  simp only [tryFinally, tryFinally', Functor.map, EStateM.map]
  rw [same]

/-- Reading the session, then continuations that agree wherever the session read is within reach. -/
theorem Agree.get_bind {k k' : Session → Sim α}
    (rest : ∀ s, Within r bodies s → Agree r bodies (k s) (k' s)) :
    Agree r bodies (get >>= k) (get >>= k') :=
  fun s within => rest s within s within

/-- Reading an instance, then continuations that agree on the instance a session within reach holds. -/
theorem Agree.component_bind {k k' : Component → Sim α} (serial : Nat)
    (rest : ∀ s, Within r bodies s → Agree r bodies (k (s.component serial)) (k' (s.component serial))) :
    Agree r bodies (component serial >>= k) (component serial >>= k') :=
  fun s within => rest s within s within

/-- Moving to a session within reach `r'` of `bodies`, where the continuations agree. -/
theorem Agree.set_bind {r' : Nat} {t : Session} {k k' : PUnit → Sim α} (within : Within r' bodies t)
    (rest : Agree r' bodies (k ⟨⟩) (k' ⟨⟩)) : Agree r bodies (set t >>= k) (set t >>= k') :=
  fun _ _ => rest t within

theorem Agree.ite (c : Prop) [Decidable c] {x x' y y' : Sim α} (yes : c → Agree r bodies x x')
    (no : ¬ c → Agree r bodies y y') : Agree r bodies (if c then x else y) (if c then x' else y') := by
  by_cases holds : c
  · rw [if_pos holds, if_pos holds]
    exact yes holds
  · rw [if_neg holds, if_neg holds]
    exact no holds

/-- Runs that agree, then one continuation. -/
theorem Agree.bind_left (first : Agree r bodies x y) (k : α → Sim β) :
    Agree r bodies (x >>= k) (y >>= k) := by
  intro s within
  rw [EStateM.run_bind, EStateM.run_bind, first s within]

/-- A fault ends both runs at once. -/
theorem Agree.throw_bind (fault : Fault) (k k' : α → Sim β) :
    Agree r bodies (throw fault >>= k) (throw fault >>= k') :=
  fun _ _ => rfl

theorem Agree.map (f : α → β) (first : Agree r bodies x y) : Agree r bodies (f <$> x) (f <$> y) := by
  intro s within
  have same := first s within
  unfold EStateM.run at same ⊢
  simp only [Functor.map, EStateM.map]
  rw [same]

theorem Agree.discard (first : Agree r bodies x y) : Agree r bodies (discard x) (discard y) :=
  first.map _

end Agree

end Sim

/-! ## The frames a run needs -/

mutual

/--
The frames evaluating an expression takes when a call of a built-in function
takes `call`: one for a literal, two for a name, one more than its operands and
at least three for an operation, and two more than its arguments and the
built-in for a call.
-/
def Expr.need (call : Nat) : Expr → Nat
  | .literal .. => 1
  | .identifier .. => 2
  | .unary _ operand _ => max (operand.need call + 1) 3
  | .binary _ left right _ => max (max (left.need call) (right.need call) + 1) 3
  | .call _ args _ => max (Expr.needList call args) call + 2

/-- The frames evaluating arguments takes: those of the deepest one. -/
def Expr.needList (call : Nat) : List Expr → Nat
  | [] => 0
  | e :: rest => max (e.need call) (Expr.needList call rest)

end

theorem Expr.one_le_need (call : Nat) (e : Expr) : 1 ≤ e.need call := by
  cases e <;> simp only [Expr.need] <;> omega

theorem Expr.needList_cons (call : Nat) (e : Expr) (rest : List Expr) :
    Expr.needList call (e :: rest) = max (e.need call) (Expr.needList call rest) := rfl

mutual

/--
The frames executing a statement takes when executing a method of the store
takes `method` (a built-in call then takes `method + 8`): four more than the
expressions it evaluates, two more than the body of a condition, and ten more
than a method for a call.
-/
def Stmt.need (method : Nat) : Stmt → Nat
  | .assign _ _ value _ => value.need (method + 8) + 4
  | .ifThen condition body _ =>
    max (condition.need (method + 8) + 4) (Stmt.needBlock method body + 2)
  | .call _ args _ => max (Expr.needList (method + 8) args + 4) (method + 10)
  | .unknown .. => 1

/-- The frames executing statements in order takes: one more than the deepest one, and at least one. -/
def Stmt.needBlock (method : Nat) : List Stmt → Nat
  | [] => 1
  | st :: rest => max (st.need method + 1) (Stmt.needBlock method rest)

end

theorem Stmt.one_le_need (method : Nat) (st : Stmt) : 1 ≤ st.need method := by
  cases st <;> simp only [Stmt.need] <;> omega

theorem Stmt.one_le_needBlock (method : Nat) (body : List Stmt) : 1 ≤ Stmt.needBlock method body := by
  cases body <;> simp only [Stmt.needBlock] <;> omega

/--
The frames executing a method whose body is among `bodies` takes when calls
may nest `r` deeper: one to be refused at the limit, else one more than its
body, whose own calls may nest one less deep.
-/
def methodNeed (bodies : List (List Stmt)) : Nat → Nat
  | 0 => 1
  | r + 1 => (bodies.map (Stmt.needBlock (methodNeed bodies r))).foldr max 0 + 1

theorem Expr.need_le_needList (call : Nat) {e : Expr} {es : List Expr} (member : e ∈ es) :
    e.need call ≤ Expr.needList call es := by
  induction es with
  | nil => exact absurd member List.not_mem_nil
  | cons a rest more =>
    rw [Expr.needList_cons]
    rcases List.mem_cons.1 member with rfl | later
    · exact le_max_left _ _
    · exact le_trans (more later) (le_max_right _ _)

/-- The expressions a declaration's fields start from. -/
def Declaration.inits (d : Declaration) : List Expr := d.fields.filterMap (·.init)

theorem needBlock_le_methodNeed {bodies : List (List Stmt)} {body : List Stmt} (stored : body ∈ bodies)
    (r : Nat) : Stmt.needBlock (methodNeed bodies r) body + 1 ≤ methodNeed bodies (r + 1) := by
  have deepest := List.le_max_of_le' 0 (List.mem_map_of_mem stored) (le_refl
    (Stmt.needBlock (methodNeed bodies r) body))
  simp only [methodNeed]
  omega

namespace Sim

/-! ## One step of each function -/

/--
Every function of the interpreter gives the same run with one frame more than
`frames`, from every session within reach `r` of `bodies`, once `frames` covers
what it needs there; a method it executes has its body among `bodies`.
-/
structure Stable (frames : Nat) : Prop where
  evaluate : ∀ r bodies scope self e, e.need (methodNeed bodies r + 8) ≤ frames →
    Agree r bodies (evaluate (frames + 1) scope self e) (evaluate frames scope self e)
  evaluateArgs : ∀ r bodies scope self es, Expr.needList (methodNeed bodies r + 8) es ≤ frames →
    Agree r bodies (evaluateArgs (frames + 1) scope self es) (evaluateArgs frames scope self es)
  evaluateTop : ∀ r bodies scope self e, e.need (methodNeed bodies r + 8) + 1 ≤ frames →
    Agree r bodies (evaluateTop (frames + 1) scope self e) (evaluateTop frames scope self e)
  evaluateTops : ∀ r bodies scope self es,
    Expr.needList (methodNeed bodies r + 8) es + 1 ≤ frames →
    Agree r bodies (evaluateTops (frames + 1) scope self es) (evaluateTops frames scope self es)
  callBuiltin : ∀ r bodies name args, methodNeed bodies r + 8 ≤ frames →
    Agree r bodies (callBuiltin (frames + 1) name args) (callBuiltin frames name args)
  broadcast : ∀ r bodies event payload, methodNeed bodies r + 4 ≤ frames →
    Agree r bodies (broadcast (frames + 1) event payload) (broadcast frames event payload)
  dispatch : ∀ r bodies pairs payload, methodNeed bodies r + 1 ≤ frames →
    Agree r bodies (dispatch (frames + 1) pairs payload) (dispatch frames pairs payload)
  runMethod : ∀ r bodies serial m args pfx, m.body ∈ bodies → methodNeed bodies r + 1 ≤ frames →
    Agree r bodies (runMethod (frames + 1) serial m args pfx) (runMethod frames serial m args pfx)
  executeMethod : ∀ r bodies serial m args, m.body ∈ bodies → methodNeed bodies r ≤ frames →
    Agree r bodies (executeMethod (frames + 1) serial m args) (executeMethod frames serial m args)
  execBlock : ∀ r bodies serial scope body, Stmt.needBlock (methodNeed bodies r) body ≤ frames →
    Agree r bodies (execBlock (frames + 1) serial scope body) (execBlock frames serial scope body)
  execStmt : ∀ r bodies serial scope st, st.need (methodNeed bodies r) ≤ frames →
    Agree r bodies (execStmt (frames + 1) serial scope st) (execStmt frames serial scope st)
  destroyEntity : ∀ r bodies target, methodNeed bodies r + 5 ≤ frames →
    Agree r bodies (destroyEntity (frames + 1) target) (destroyEntity frames target)
  createEntity : ∀ r bodies kind position driver, methodNeed bodies r + 5 ≤ frames →
    Agree r bodies (createEntity (frames + 1) kind position driver)
      (createEntity frames kind position driver)

section Steps

variable {frames : Nat} {r : Nat} {bodies : List (List Stmt)}

/--
An expression gives the same run with one frame more; both runs have a frame
left for the lookup of a name.
-/
theorem evaluate_stable (below : ∀ g < frames, Stable g) (scope : Scope) (self : Option Nat) (e : Expr)
    (enough : e.need (methodNeed bodies r + 8) ≤ frames) :
    Agree r bodies (evaluate (frames + 1) scope self e) (evaluate frames scope self e) := by
  obtain ⟨f, rfl⟩ : ∃ f, frames = f + 1 :=
    ⟨frames - 1, by have := Expr.one_le_need (methodNeed bodies r + 8) e; omega⟩
  have inner := below f (Nat.lt_succ_self f)
  rw [evaluate.eq_def, evaluate.eq_def]
  cases e with
  | literal => exact Agree.refl _
  | identifier name =>
    simp only [Expr.need] at enough
    have roomy : f ≠ 0 := by omega
    simp only [roomy, Nat.add_one_ne_zero, if_false]
    exact Agree.refl _
  | unary op operand =>
    simp only [Expr.need] at enough
    have roomy : ¬ f < 2 := by omega
    dsimp only
    refine (inner.evaluate r bodies scope self operand (by omega)).bind
      ((sameReach_runs f).evaluate scope self operand) fun v => ?_
    simp only [roomy, show ¬ f + 1 < 2 by omega, if_false]
    exact Agree.refl _
  | binary op left right =>
    simp only [Expr.need] at enough
    have roomy : ¬ f < 2 := by omega
    dsimp only
    refine (inner.evaluate r bodies scope self left (by omega)).bind
      ((sameReach_runs f).evaluate scope self left) fun l => ?_
    refine (inner.evaluate r bodies scope self right (by omega)).bind
      ((sameReach_runs f).evaluate scope self right) fun v => ?_
    simp only [roomy, show ¬ f + 1 < 2 by omega, if_false]
    exact Agree.refl _
  | call name args =>
    simp only [Expr.need] at enough
    obtain ⟨g, rfl⟩ : ∃ g, f = g + 1 := ⟨f - 1, by omega⟩
    have calls := below g (by omega)
    dsimp only
    simp only [Nat.add_sub_cancel]
    exact (calls.evaluateArgs r bodies scope self args (by omega)).bind
      ((sameReach_runs g).evaluateArgs scope self args) fun values =>
        calls.callBuiltin r bodies name values (by omega)

theorem evaluateArgs_stable
    (evaluates : ∀ scope self e, e.need (methodNeed bodies r + 8) ≤ frames →
      Agree r bodies (evaluate (frames + 1) scope self e) (evaluate frames scope self e))
    (scope : Scope) (self : Option Nat) (es : List Expr)
    (enough : Expr.needList (methodNeed bodies r + 8) es ≤ frames) :
    Agree r bodies (evaluateArgs (frames + 1) scope self es) (evaluateArgs frames scope self es) := by
  induction es with
  | nil =>
    rw [evaluateArgs, evaluateArgs]
    exact Agree.refl _
  | cons e rest more =>
    rw [Expr.needList_cons] at enough
    rw [evaluateArgs, evaluateArgs]
    exact (evaluates scope self e (by omega)).bind ((sameReach_runs frames).evaluate scope self e)
      fun v => (more (by omega)).bind ((sameReach_runs frames).evaluateArgs scope self rest)
        fun vs => Agree.refl _

theorem evaluateTop_stable (below : ∀ g < frames, Stable g) (scope : Scope) (self : Option Nat)
    (e : Expr) (enough : e.need (methodNeed bodies r + 8) + 1 ≤ frames) :
    Agree r bodies (evaluateTop (frames + 1) scope self e) (evaluateTop frames scope self e) := by
  obtain ⟨f, rfl⟩ : ∃ f, frames = f + 1 := ⟨frames - 1, by omega⟩
  rw [evaluateTop, evaluateTop]
  exact ((below f (Nat.lt_succ_self f)).evaluate r bodies scope self e (by omega)).withFinally _

theorem evaluateTops_stable
    (evaluates : ∀ scope self e, e.need (methodNeed bodies r + 8) + 1 ≤ frames →
      Agree r bodies (evaluateTop (frames + 1) scope self e) (evaluateTop frames scope self e))
    (scope : Scope) (self : Option Nat) (es : List Expr)
    (enough : Expr.needList (methodNeed bodies r + 8) es + 1 ≤ frames) :
    Agree r bodies (evaluateTops (frames + 1) scope self es) (evaluateTops frames scope self es) := by
  induction es with
  | nil =>
    rw [evaluateTops, evaluateTops]
    exact Agree.refl _
  | cons e rest more =>
    rw [Expr.needList_cons] at enough
    rw [evaluateTops, evaluateTops]
    exact (evaluates scope self e (by omega)).bind ((sameReach_runs frames).evaluateTop scope self e)
      fun v => (more (by omega)).bind ((sameReach_runs frames).evaluateTops scope self rest)
        fun vs => Agree.refl _

/--
A built-in gives the same run with one frame more; one that creates an entity
does so at the position given or at a spawn position.
-/
theorem callBuiltin_stable (below : ∀ g < frames, Stable g) (name : String) (args : List Value)
    (enough : methodNeed bodies r + 8 ≤ frames) :
    Agree r bodies (callBuiltin (frames + 1) name args) (callBuiltin frames name args) := by
  obtain ⟨g, rfl⟩ : ∃ g, frames = g + 3 := ⟨frames - 3, by omega⟩
  have inner := below g (by omega)
  rw [callBuiltin.eq_def, callBuiltin.eq_def]
  dsimp only
  by_cases known : isBuiltin name = true
  · simp only [known, Bool.not_true, Bool.false_eq_true, if_false]
    refine Agree.bind_same (sameReach_steps.quietly (countUse_quiet (fun _ => True) name)) fun _ => ?_
    refine Agree.tryCatch ?_ _
    by_cases accepted : Builtin.accepts name args.length = true
    · simp only [accepted, Bool.not_true, Bool.false_eq_true, if_false]
      simp only [show g + 3 - 2 = g + 1 by omega, show g + 2 - 2 = g by omega]
      have created := fun kind position => inner.createEntity r bodies kind position none (by omega)
      split
      · have make : ∀ position, Agree r bodies
            (do
              let kind ← ofExcept ((← get).format (Builtin.arg args 0))
              pure (Value.entity (← createEntity (g + 1) kind position none)))
            (do
              let kind ← ofExcept ((← get).format (Builtin.arg args 0))
              pure (Value.entity (← createEntity g kind position none))) := fun position =>
          Agree.get_bind fun _ _ => Agree.bind_same (ofExcept_reach _) fun kind =>
            (created kind position).bind ((sameReach_runs g).createEntity kind position none)
              fun _ => Agree.refl _
        split
        · exact make none
        · refine Agree.get_bind fun _ _ => ?_
          exact Agree.bind_same (Keeps.map _ (ofExcept_reach _)) make
      · exact (inner.destroyEntity r bodies _ (by omega)).bind ((sameReach_runs g).destroyEntity _)
          fun _ => Agree.refl _
      · refine Agree.get_bind fun _ _ => Agree.bind_same (ofExcept_reach _) fun event => ?_
        exact (inner.broadcast r bodies event _ (by omega)).bind ((sameReach_runs g).broadcast event _)
          fun _ => Agree.refl _
      · exact Agree.refl _
    · simp only [accepted, Bool.not_false, if_true]
      exact Agree.refl _
  · simp only [known, Bool.not_false, if_true]
    exact Agree.refl _

/-- A broadcast gives the same run with one frame more; counting it changes only the event bus. -/
theorem broadcast_stable (below : ∀ g < frames, Stable g) (event : String) (payload : Value)
    (enough : methodNeed bodies r + 4 ≤ frames) :
    Agree r bodies (broadcast (frames + 1) event payload) (broadcast frames event payload) := by
  obtain ⟨g, rfl⟩ : ∃ g, frames = g + 3 := ⟨frames - 3, by omega⟩
  rw [broadcast, broadcast]
  simp only [show g + 3 - 2 = g + 1 by omega, show g + 2 - 2 = g by omega]
  refine Agree.bind_same (sameReach_steps.quietly (share_quiet (fun _ => True) payload)) fun shared => ?_
  refine Agree.get_bind fun s within => ?_
  exact Agree.set_bind (within.reach ⟨rfl, rfl, rfl⟩)
    ((below g (by omega)).dispatch r bodies _ shared (by omega))

/--
The turns of a broadcast give the same run with one frame more; each handler
is a method of the store.
-/
theorem dispatch_stable
    (runs : ∀ serial m args pfx, m.body ∈ bodies →
      Agree r bodies (runMethod (frames + 1) serial m args pfx) (runMethod frames serial m args pfx))
    (pairs : List (String × Nat)) (payload : Value) :
    Agree r bodies (dispatch (frames + 1) pairs payload) (dispatch frames pairs payload) := by
  induction pairs with
  | nil =>
    rw [dispatch, dispatch]
    exact Agree.refl _
  | cons pair rest more =>
    obtain ⟨handler, serial⟩ := pair
    rw [dispatch, dispatch]
    refine Agree.component_bind serial fun s within => ?_
    have counted : ∀ here : Nat, Agree r bodies
        (do let more ← dispatch (frames + 1) rest payload; pure (here + more))
        (do let more ← dispatch frames rest payload; pure (here + more)) := fun here =>
      more.bind ((sameReach_runs frames).dispatch rest payload) fun _ => Agree.refl _
    dsimp only
    split
    · next m _ found =>
      have stored := within.stored _ (body_mem_methodBodies found)
      exact (runs serial m _ _ stored).bind ((sameReach_runs frames).runMethod serial m _ _)
        fun _ => Agree.bind_same (pure_reach _) counted
    · exact Agree.bind_same (pure_reach _) counted

theorem runMethod_stable (below : ∀ g < frames, Stable g) (serial : Nat) (m : MethodDecl)
    (args : List Value) (pfx : String) (stored : m.body ∈ bodies)
    (enough : methodNeed bodies r + 1 ≤ frames) :
    Agree r bodies (runMethod (frames + 1) serial m args pfx) (runMethod frames serial m args pfx) := by
  obtain ⟨f, rfl⟩ : ∃ f, frames = f + 1 := ⟨frames - 1, by omega⟩
  rw [runMethod, runMethod]
  exact ((below f (Nat.lt_succ_self f)).executeMethod r bodies serial m args stored (by omega)).tryCatch _

/--
A method gives the same run with one frame more: where no call may nest deeper
the limit refuses it, and otherwise its body runs one call deeper, with frames
for its own calls one level down.
-/
theorem executeMethod_stable (below : ∀ g < frames, Stable g) (serial : Nat) (m : MethodDecl)
    (args : List Value) (stored : m.body ∈ bodies) (enough : methodNeed bodies r ≤ frames) :
    Agree r bodies (executeMethod (frames + 1) serial m args) (executeMethod frames serial m args) := by
  obtain ⟨f, rfl⟩ : ∃ f, frames = f + 1 := ⟨frames - 1, by cases r <;> simp only [methodNeed] at enough <;> omega⟩
  rw [executeMethod, executeMethod]
  refine Agree.bind_same (Keeps.mapM fun v => sameReach_steps.quietly (share_quiet (fun _ => True) v))
    fun shared => Agree.get_bind fun s within => ?_
  refine Agree.ite _ (fun _ => Agree.refl _) fun fits => ?_
  cases r with
  | zero =>
    have left := within.left
    simp only [depthLeft] at left
    omega
  | succ r =>
    have body := needBlock_le_methodNeed stored r
    exact Agree.set_bind (within.enter serial _)
      (((below f (Nat.lt_succ_self f)).execBlock r bodies serial _ m.body (by omega)).discard.withFinally _)

theorem execBlock_stable (below : ∀ g < frames, Stable g) (serial : Nat) (scope : Scope)
    (body : List Stmt) (enough : Stmt.needBlock (methodNeed bodies r) body ≤ frames) :
    Agree r bodies (execBlock (frames + 1) serial scope body) (execBlock frames serial scope body) := by
  obtain ⟨f, rfl⟩ : ∃ f, frames = f + 1 :=
    ⟨frames - 1, by have := Stmt.one_le_needBlock (methodNeed bodies r) body; omega⟩
  have statement := (below f (Nat.lt_succ_self f)).execStmt r bodies serial
  induction body generalizing scope with
  | nil =>
    rw [execBlock.eq_2 _ _ _ (Nat.succ_ne_zero _), execBlock.eq_2 _ _ _ (Nat.succ_ne_zero _)]
    exact Agree.refl _
  | cons st rest more =>
    simp only [Stmt.needBlock] at enough
    rw [execBlock.eq_3, execBlock.eq_3]
    exact (statement scope st (by omega)).bind ((sameReach_runs f).execStmt serial scope st)
      fun scope => more scope (by omega)

/--
A statement gives the same run with one frame more: a value is the one part
that takes frames, storing it is the same on both sides, a spawn evaluates its
first argument only, and a method called is one of the store.
-/
theorem execStmt_stable (below : ∀ g < frames, Stable g) (serial : Nat) (scope : Scope) (st : Stmt)
    (enough : st.need (methodNeed bodies r) ≤ frames) :
    Agree r bodies (execStmt (frames + 1) serial scope st) (execStmt frames serial scope st) := by
  cases st with
  | unknown =>
    obtain ⟨f, rfl⟩ : ∃ f, frames = f + 1 := ⟨frames - 1, by simp only [Stmt.need] at enough; omega⟩
    rw [execStmt.eq_def, execStmt.eq_def]
    exact Agree.refl _
  | assign target op value =>
    simp only [Stmt.need] at enough
    obtain ⟨g, rfl⟩ : ∃ g, frames = g + 3 := ⟨frames - 3, by omega⟩
    rw [execStmt.eq_def, execStmt.eq_def]
    dsimp only
    simp only [show g + 3 - 2 = g + 1 by omega, show g + 2 - 2 = g by omega]
    refine Agree.bind_same countStatement_reach fun _ => Agree.bind_same (component_reach serial) fun c => ?_
    exact ((below g (by omega)).evaluateTop r bodies scope (some serial) value (by omega)).bind
      ((sameReach_runs g).evaluateTop scope (some serial) value) fun v => Agree.refl _
  | ifThen condition body =>
    simp only [Stmt.need] at enough
    obtain ⟨g, rfl⟩ : ∃ g, frames = g + 3 := ⟨frames - 3, by omega⟩
    rw [execStmt.eq_def, execStmt.eq_def]
    dsimp only
    simp only [show g + 3 - 2 = g + 1 by omega, show g + 2 - 2 = g by omega,
      show g + 3 - 1 = g + 2 by omega, show g + 2 - 1 = g + 1 by omega]
    refine Agree.bind_same countStatement_reach fun _ => ?_
    refine ((below g (by omega)).evaluateTop r bodies scope (some serial) condition (by omega)).bind
      ((sameReach_runs g).evaluateTop scope (some serial) condition) fun v => ?_
    exact Agree.ite _ (fun _ => (below (g + 1) (by omega)).execBlock r bodies serial scope body (by omega))
      fun _ => Agree.refl _
  | call name args =>
    simp only [Stmt.need] at enough
    obtain ⟨g, rfl⟩ : ∃ g, frames = g + 3 := ⟨frames - 3, by omega⟩
    rw [execStmt.eq_def, execStmt.eq_def]
    dsimp only
    simp only [show g + 3 - 2 = g + 1 by omega, show g + 2 - 2 = g by omega,
      show g + 3 - 1 = g + 2 by omega, show g + 2 - 1 = g + 1 by omega]
    have expressions := below g (by omega)
    have calls := below (g + 1) (by omega)
    refine Agree.bind_same countStatement_reach fun _ => ?_
    refine Agree.ite _ (fun _ => Agree.refl _) fun _ => Agree.ite _ (fun _ => ?_) fun _ => ?_
    · cases args with
      | nil => exact Agree.refl _
      | cons a _ =>
        rw [Expr.needList_cons] at enough
        exact (expressions.evaluateTop r bodies scope (some serial) a (by omega)).bind
          ((sameReach_runs g).evaluateTop scope (some serial) a) fun v => Agree.refl _
    · refine (expressions.evaluateTops r bodies scope (some serial) args (by omega)).bind
        ((sameReach_runs g).evaluateTops scope (some serial) args) fun values => ?_
      refine Agree.ite _ (fun _ => ((calls.callBuiltin r bodies name values (by omega)).discard).bind
        ((sameReach_runs (g + 1)).callBuiltin name values).discard fun _ => Agree.refl _) fun _ => ?_
      refine Agree.component_bind serial fun s within => ?_
      split
      · next m found =>
        exact (calls.executeMethod r bodies serial m values (within.stored _ (body_mem_methodBodies found))
          (by omega)).bind ((sameReach_runs (g + 1)).executeMethod serial m values) fun _ => Agree.refl _
      · exact Agree.refl _

/--
A destruction gives the same run with one frame more: `onDestroy` is a method
of the store, and the announcement and the retirement follow it whether it ran
or not.
-/
theorem destroyEntity_stable (below : ∀ g < frames, Stable g) (target : Value)
    (enough : methodNeed bodies r + 5 ≤ frames) :
    Agree r bodies (destroyEntity (frames + 1) target) (destroyEntity frames target) := by
  obtain ⟨f, rfl⟩ : ∃ f, frames = f + 1 := ⟨frames - 1, by omega⟩
  have inner := below f (Nat.lt_succ_self f)
  rw [destroyEntity.eq_def, destroyEntity.eq_def]
  dsimp -zeta only
  extract_lets named named'
  have destroys : ∀ id, Agree r bodies (named id) (named' id) := by
    intro id
    simp -zeta only [named, named']
    refine Agree.get_bind fun s within => ?_
    split
    · exact Agree.refl _
    refine Agree.ite _ (fun _ => Agree.refl _) fun _ => ?_
    extract_lets announce announce'
    have announced : ∀ u, Agree r bodies (announce u) (announce' u) := by
      intro u
      simp only [announce, announce']
      exact Agree.get_bind fun _ _ => (inner.broadcast r bodies _ _ (by omega)).bind
        ((sameReach_runs f).broadcast _ _) fun _ => Agree.refl _
    split
    · split
      · next m found =>
        have stored := within.stored _ (body_mem_methodBodies found)
        exact Agree.bind_same (modify_reach fun _ => ⟨rfl, rfl, rfl⟩) fun _ =>
          ((inner.runMethod r bodies _ m [] _ stored (by omega)).withFinally _).bind
            (((sameReach_runs f).runMethod _ m [] _).tryFinally (modify_reach fun _ => ⟨rfl, rfl, rfl⟩))
            announced
      · exact announced ()
    · exact announced ()
  split
  · exact Agree.bind_same (pure_reach _) destroys
  · exact Agree.bind_same (ofExcept_reach _) destroys

/--
Creating an entity gives the same run with one frame more: the entity is made
at its position, then announced.
-/
theorem createEntity_stable (below : ∀ g < frames, Stable g) (kind : String) (position : Option Vec2)
    (driver : Option Nat) (enough : methodNeed bodies r + 5 ≤ frames) :
    Agree r bodies (createEntity (frames + 1) kind position driver)
      (createEntity frames kind position driver) := by
  obtain ⟨f, rfl⟩ : ∃ f, frames = f + 1 := ⟨frames - 1, by omega⟩
  have inner := below f (Nat.lt_succ_self f)
  rw [createEntity.eq_def, createEntity.eq_def]
  dsimp -zeta only
  extract_lets place place'
  have placed : ∀ p, Agree r bodies (place p) (place' p) := by
    intro p
    simp only [place, place']
    refine Agree.bind_same (sameReach_steps.quietly (shareVec2_quiet (fun _ => True) p))
      fun p => Agree.get_bind fun s within => ?_
    exact Agree.set_bind (within.reach ⟨rfl, rfl, rfl⟩)
      ((inner.broadcast r bodies _ _ (by omega)).bind ((sameReach_runs f).broadcast _ _)
        fun _ => Agree.refl _)
  split
  · exact Agree.bind_same (pure_reach _) placed
  · exact Agree.bind_same sameReach_steps.spawnPosition_keeps placed

end Steps

/-- With one frame more than it needs, every function of the interpreter runs as with what it needs. -/
theorem stable (frames : Nat) : Stable frames := by
  induction frames using Nat.strongRecOn with
  | ind frames below =>
    have evaluates := fun r bodies => @evaluate_stable frames r bodies below
    have tops := fun r bodies => @evaluateTop_stable frames r bodies below
    have runs := fun r bodies => @runMethod_stable frames r bodies below
    exact
      { evaluate := evaluates
        evaluateArgs := fun r bodies => evaluateArgs_stable (evaluates r bodies)
        evaluateTop := tops
        evaluateTops := fun r bodies => evaluateTops_stable (tops r bodies)
        callBuiltin := fun r bodies => @callBuiltin_stable frames r bodies below
        broadcast := fun r bodies => @broadcast_stable frames r bodies below
        dispatch := fun r bodies pairs payload enough =>
          dispatch_stable (fun serial m args pfx stored => runs r bodies serial m args pfx stored enough)
            pairs payload
        runMethod := runs
        executeMethod := fun r bodies => @executeMethod_stable frames r bodies below
        execBlock := fun r bodies => @execBlock_stable frames r bodies below
        execStmt := fun r bodies => @execStmt_stable frames r bodies below
        destroyEntity := fun r bodies => @destroyEntity_stable frames r bodies below
        createEntity := fun r bodies => @createEntity_stable frames r bodies below }

/-! ## Host operations -/

section Host

variable {r : Nat} {bodies : List (List Stmt)}

/-- Rounds of a loop that agree, each staying within reach, make loops that agree. -/
theorem Agree.forIn_within {E : Fault → Prop} {xs : List γ} {init : β} {body body' : γ → β → Sim (ForInStep β)}
    (round : ∀ x ∈ xs, ∀ b, Agree r bodies (body x b) (body' x b))
    (stays : ∀ x ∈ xs, ∀ b, Keeps (Preserves (Within r bodies)) E (body' x b)) :
    Agree r bodies (forIn xs init body) (forIn xs init body') := by
  induction xs generalizing init with
  | nil => exact Agree.refl _
  | cons x xs more =>
    rw [List.forIn_cons, List.forIn_cons]
    refine (round x List.mem_cons_self init).bind_within (stays x List.mem_cons_self init) fun step => ?_
    cases step with
    | done b => exact Agree.refl _
    | yield b =>
      exact more (fun x member => round x (List.mem_cons_of_mem _ member))
        fun x member => stays x (List.mem_cons_of_mem _ member)

/-- Rounds of a loop that agree, each within reach, make loops that agree. -/
theorem Agree.forIn {E : Fault → Prop} {xs : List γ} {init : β} {body body' : γ → β → Sim (ForInStep β)}
    (round : ∀ x ∈ xs, ∀ b, Agree r bodies (body x b) (body' x b))
    (keeps : ∀ x b, Keeps SameReach E (body' x b)) :
    Agree r bodies (forIn xs init body) (forIn xs init body') :=
  Agree.forIn_within round fun x _ b => (keeps x b).within

theorem updateComponent_reach (frames : Nat) (name : String) (dt : Number) :
    Keeps SameReach (fun _ => True) (updateComponent frames name dt) := by
  unfold updateComponent
  refine get_bind_keeps fun s => ?_
  dsimp only
  split
  · exact Keeps.pure _
  · split
    · split
      · exact (sameReach_runs frames).runMethod _ _ _ _
      · exact Keeps.pure _
    · exact Keeps.pure _

/--
Updating one component gives the same run with one frame more; `update` is a
method of the store.
-/
theorem updateComponent_stable {frames : Nat} (name : String) (dt : Number)
    (enough : methodNeed bodies r + 1 ≤ frames) :
    Agree r bodies (updateComponent (frames + 1) name dt) (updateComponent frames name dt) := by
  unfold updateComponent
  refine Agree.get_bind fun s within => ?_
  dsimp only
  split
  · exact Agree.refl _
  · refine Agree.ite _ (fun _ => ?_) fun _ => Agree.refl _
    split
    · next m found =>
      exact (stable frames).runMethod r bodies _ m _ _ (within.stored _ (body_mem_methodBodies found)) enough
    · exact Agree.refl _

theorem updateAll_reach (frames : Nat) (dt : Number) : Keeps SameReach (fun _ => True) (updateAll frames dt) := by
  unfold updateAll
  exact get_bind_keeps fun _ => Keeps.bind (Keeps.forIn fun _ _ =>
    Keeps.bind (updateComponent_reach frames _ dt) fun _ => pure_reach _) fun _ => pure_reach _

theorem updateAll_stable {frames : Nat} (dt : Number) (enough : methodNeed bodies r + 1 ≤ frames) :
    Agree r bodies (updateAll (frames + 1) dt) (updateAll frames dt) := by
  unfold updateAll
  refine Agree.get_bind fun s _ => ?_
  refine (Agree.forIn (fun serial _ _ => ?_) fun _ _ =>
    Keeps.bind (updateComponent_reach frames _ dt) fun _ => pure_reach _).bind
    (Keeps.forIn fun _ _ => Keeps.bind (updateComponent_reach frames _ dt) fun _ => pure_reach _)
    fun _ => Agree.refl _
  exact (updateComponent_stable _ dt enough).bind (updateComponent_reach frames _ dt) fun _ => Agree.refl _

/--
Making an instance gives the same run with one frame more: the instance is
stored, then each field takes its initial value in order, written by a step
that keeps every method.
-/
theorem instantiate_stable {frames : Nat} (d : Declaration) (instanceName : Option String)
    (methods : ∀ p ∈ d.methodTable, p.2.body ∈ bodies)
    (enough : Expr.needList (methodNeed bodies r + 8) d.inits + 1 ≤ frames) :
    Agree r bodies (instantiate d instanceName (frames + 1)) (instantiate d instanceName frames) := by
  unfold instantiate
  refine Agree.get_bind fun s within => ?_
  extract_lets name serial make make'
  have made : Agree r bodies (make ()) (make' ()) := by
    simp only [make, make']
    refine Agree.set_bind (within.push _ methods) ((Agree.forIn (fun fd member _ => ?_)
      fun fd _ => (?_ : Keeps SameReach (fun _ => True) _)).bind_left _)
    · split
      · exact Agree.refl _
      · next e initial =>
        have started : e ∈ d.inits := List.mem_filterMap.2 ⟨fd, member, initial⟩
        have deepest := Expr.need_le_needList (methodNeed bodies r + 8) started
        exact (((stable frames).evaluateTop r bodies [] (some serial) e (by omega)).tryCatch _).bind_left _
    · have written : ∀ v, Keeps SameReach (fun _ => True)
          (do modifyComponent serial (·.setField fd.name v); pure (ForInStep.yield PUnit.unit)) :=
        fun v => Keeps.bind (modify_reach fun s => ⟨rfl, rfl, methodBodies_modifyComponent s serial
          fun c => c.setField_methods _ _⟩) fun _ => pure_reach _
      split
      · exact Keeps.bind (pure_reach _) written
      · refine Keeps.bind (Keeps.tryCatch ((sameReach_runs frames).evaluateTop [] (some serial) _)
          fun fault _ => ?_) written
        split
        · exact Keeps.bind (sameReach_steps.log_keeps _ _ _) fun _ => pure_reach _
        · exact Keeps.throw trivial
  split
  · split
    · exact Agree.throw_bind _ _ _
    · exact made
  · exact made

/-- Making an instance whose method bodies are among `bodies` keeps every session within reach. -/
theorem instantiate_within (d : Declaration) (instanceName : Option String) (frames : Nat)
    (methods : ∀ p ∈ d.methodTable, p.2.body ∈ bodies) :
    Keeps (Preserves (Within r bodies)) (fun _ => True) (instantiate d instanceName frames) := by
  intro s
  rw [instantiate, ends_bind, ends_get]
  extract_lets name serial make
  have made : ∀ u, Ends (make u) s (fun _ t => Preserves (Within r bodies) s t)
      (fun _ t => True ∧ Preserves (Within r bodies) s t) := by
    intro u
    simp only [make]
    rw [ends_bind, ends_set]
    refine (Keeps.bind (Keeps.forIn fun fd _ => ?_) fun _ => ?_).within.after
      fun within => within.push _ methods
    · have written : ∀ v, Keeps SameReach (fun _ => True)
          (do modifyComponent serial (·.setField fd.name v); pure (ForInStep.yield PUnit.unit)) :=
        fun v => Keeps.bind (modify_reach fun s => ⟨rfl, rfl, methodBodies_modifyComponent s serial
          fun c => c.setField_methods _ _⟩) fun _ => pure_reach _
      split
      · exact Keeps.bind (pure_reach _) written
      · refine Keeps.bind (Keeps.tryCatch ((sameReach_runs frames).evaluateTop [] (some serial) _)
          fun fault _ => ?_) written
        split
        · exact Keeps.bind (sameReach_steps.log_keeps _ _ _) fun _ => pure_reach _
        · exact Keeps.throw trivial
    · exact Keeps.bind (modify_reach fun _ => ⟨rfl, rfl, rfl⟩) fun _ =>
        Keeps.bind (sameReach_steps.quietly (note_quiet (fun _ => True) _ _ _)) fun _ =>
          Keeps.bind (sameReach_steps.log_keeps _ _ _) fun _ => pure_reach _
  split
  · split
    · exact Keeps.throw_bind trivial s
    · exact made ()
  · exact made ()

end Host

/-- Runs indexed by frames that agree from each number of frames past `need` to the next agree with the run at `need`. -/
theorem Agree.of_succ {r : Nat} {bodies : List (List Stmt)} {run : Nat → Sim α} {need : Nat}
    (step : ∀ f, need ≤ f → Agree r bodies (run (f + 1)) (run f)) :
    ∀ f, need ≤ f → Agree r bodies (run f) (run need) := by
  intro f enough
  induction f, enough using Nat.le_induction with
  | base => exact Agree.refl _
  | succ f enough same => exact fun s within => (step f enough s within).trans (same s within)

/-- From a session within reach, a run that agrees from each number of frames past `need` to the next settles at `need`. -/
theorem Agree.settles {r : Nat} {bodies : List (List Stmt)} {run : Nat → Sim α} {need : Nat}
    {s : Session} (within : Within r bodies s) (step : ∀ f, need ≤ f → Agree r bodies (run (f + 1)) (run f)) :
    ∃ N, ∀ f ≥ N, (run f).run s = (run N).run s :=
  ⟨need, fun f enough => Agree.of_succ step f enough s within⟩

end Sim

end GameScript

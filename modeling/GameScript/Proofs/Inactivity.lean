import GameScript.Proofs.Delivery
import GameScript.Proofs.HostFrames
import GameScript.Proofs.CallbackTargets

/-!
# An inactive instance stays inactive, and the dispatchers pass it over

A component instance starts active and is deactivated by `destroy()`, by the
destruction of the entity it drives, or by the host destroying or removing
it.  Nothing makes it active again: every kind of step a running script
takes, and every request of a host but a reset (which drops all instances),
keeps each inactive instance inactive (`Session.KeepsInactive`).

Three dispatchers run methods of instances that did not ask for it: the
update phase of a tick (`Sim.updateTurn`), the due callbacks
(`Sim.callbackTurn`) and the turns of a broadcast (`Sim.deliverTurn`).  Each
looks at the instance's activity when its turn comes and, for an inactive
one, does nothing at all.  So once an instance is inactive, none of them runs
any of its methods again.  What can still run one is a call the host makes,
the `onDestroy` of the entity it drives, its `init` while it is being
loaded, and the rest of a method already running, with the methods that one
calls: none of these looks at activity.
-/

namespace GameScript

namespace Session

/-- `t` still holds every instance of `s`, and each one inactive in `s` is inactive in `t`. -/
structure KeepsInactive (s t : Session) : Prop where
  grows : s.store.size ≤ t.store.size
  inactive : ∀ serial < s.store.size, (s.component serial).active = false →
    (t.component serial).active = false

theorem KeepsInactive.refl (s : Session) : KeepsInactive s s :=
  ⟨Nat.le_refl _, fun _ _ => id⟩

theorem KeepsInactive.trans {s t u : Session} (first : KeepsInactive s t)
    (second : KeepsInactive t u) : KeepsInactive s u where
  grows := Nat.le_trans first.grows second.grows
  inactive serial below inactive :=
    second.inactive serial (Nat.lt_of_lt_of_le below first.grows) (first.inactive serial below inactive)

instance : IsPreorder Session KeepsInactive where
  refl := KeepsInactive.refl
  trans _ _ _ := KeepsInactive.trans

/-- A step that leaves the instances alone keeps them inactive. -/
theorem KeepsInactive.of_store {s t : Session} (same : t.store = s.store) : KeepsInactive s t where
  grows := Nat.le_of_eq (congrArg Array.size same.symm)
  inactive serial _ inactive := by rwa [Session.component, same]

/-- Changing an instance in a way that never activates it keeps every instance inactive. -/
theorem KeepsInactive.modifyComponent (s : Session) (serial : Nat) (f : Component → Component)
    (kept : ∀ c, (f c).active = true → c.active = true) :
    KeepsInactive s (s.modifyComponent serial f) := by
  refine ⟨Nat.le_of_eq Array.size_modify.symm, fun other below inactive => ?_⟩
  obtain ⟨c, found⟩ : ∃ c, s.store[other]? = some c := ⟨_, Array.getElem?_eq_getElem below⟩
  unfold Session.component Session.modifyComponent at *
  rw [Array.getD_eq_getD_getElem?, found] at inactive
  rw [Array.getD_eq_getD_getElem?, Array.getElem?_modify, found]
  split
  · exact Bool.eq_false_iff.2 fun active => by simp_all [kept c active]
  · exact inactive

/-- A new instance goes after all others, so every one already there keeps its activity. -/
theorem KeepsInactive.push (s : Session) (c : Component) :
    KeepsInactive s { s with store := s.store.push c } := by
  refine ⟨by simp, fun serial below inactive => ?_⟩
  unfold Session.component at *
  rwa [Array.getD_eq_getD_getElem?, Array.getElem?_push, if_neg below.ne,
    ← Array.getD_eq_getD_getElem?]

/-- Retiring an entity deactivates the instance driving it, and nothing else of the instances. -/
theorem KeepsInactive.retire (s : Session) (e : Entity) : KeepsInactive s (s.retire e) := by
  have deactivate := fun serial => KeepsInactive.modifyComponent s serial
    (fun c => { c with active := false }) fun _ raised => absurd raised Bool.false_ne_true
  unfold Session.retire
  cases e.component with
  | none => cases s.inTick <;> exact .of_store rfl
  | some serial => cases s.inTick <;> exact ⟨(deactivate serial).grows, (deactivate serial).inactive⟩

/-- An instance inactive in `s` is still in the store, and inactive, in every session `s` keeps it in. -/
theorem KeepsInactive.still {s t : Session} (kept : KeepsInactive s t) {serial : Nat}
    (idle : serial < s.store.size ∧ (s.component serial).active = false) :
    serial < t.store.size ∧ (t.component serial).active = false :=
  ⟨Nat.lt_of_lt_of_le idle.1 kept.grows, kept.inactive serial idle.1 idle.2⟩

end Session

open Session

namespace Sim

/-- Every kind of step a running script takes keeps every inactive instance inactive. -/
theorem keepsInactive_steps : StepsKeep KeepsInactive where
  quiet _ _ quiet := .of_store quiet.store
  modifyComponent s serial f _ kept _ _ := .modifyComponent s serial f kept
  enter _ _ _ _ kept := ⟨kept.grows, kept.inactive⟩
  mark _ _ _ _ kept := ⟨kept.grows, kept.inactive⟩
  create _ _ _ _ := .of_store rfl
  retire _ t e _ kept := kept.trans (KeepsInactive.retire t e)

theorem keepsInactive_runs (frames : Nat) : RunsKeep KeepsInactive frames :=
  keepsInactive_steps.runs frames

/-! ## Every request but a reset keeps inactive instances inactive -/

/--
Making an instance puts a new active one after all others, and writes only its
fields. A field takes its initial value, or its zero when that runs out of
host stack.
-/
theorem keepsInactive_instantiate (d : Declaration) (instanceName : Option String) (frames : Nat) :
    Keeps KeepsInactive (fun _ => True) (instantiate d instanceName frames) := by
  intro s
  rw [instantiate, ends_bind, ends_get]
  extract_lets name serial make
  have made : ∀ r, Ends (make r) s (fun _ t => KeepsInactive s t)
      (fun _ t => True ∧ KeepsInactive s t) := by
    intro r
    simp only [make]
    rw [ends_bind, ends_set]
    refine (Keeps.bind (Keeps.forIn fun fd _ => ?_) fun _ => ?_).after (KeepsInactive.push s _)
    · have stored : ∀ v, Keeps KeepsInactive (fun _ => True)
          (do modifyComponent serial (·.setField fd.name v); pure (ForInStep.yield PUnit.unit)) :=
        fun v => Keeps.bind (Keeps.modify fun s => KeepsInactive.modifyComponent s serial _
          fun c => by simp) fun _ => Keeps.pure _
      split
      · exact Keeps.bind (Keeps.pure _) stored
      · refine Keeps.bind (Keeps.tryCatch ((keepsInactive_runs frames).evaluateTop [] (some serial) _)
          fun fault _ => ?_) stored
        split
        · exact Keeps.bind (keepsInactive_steps.log_keeps _ _ _) fun _ => Keeps.pure _
        · exact Keeps.throw trivial
    · refine Keeps.bind (Keeps.modify fun _ => .of_store rfl) fun _ => ?_
      exact Keeps.bind (Keeps.modify fun _ => .of_store rfl) fun _ =>
        Keeps.bind (keepsInactive_steps.log_keeps _ _ _) fun _ => Keeps.pure _
  split
  · split
    · exact Keeps.throw_bind trivial s
    · exact made ()
  · exact made ()

/-- Every kind of step a host request takes, but starting over, keeps every inactive instance inactive. -/
theorem keepsInactive_host : HostKeeps KeepsInactive where
  steps := keepsInactive_steps
  still _ _ same := .of_store same
  deactivate s serial _ same :=
    (KeepsInactive.modifyComponent s serial (fun c => { c with active := false })
      fun _ raised => absurd raised Bool.false_ne_true).trans (.of_store same)
  instantiate := keepsInactive_instantiate

/-- Every request but a reset keeps every inactive instance inactive, whether it answers or fails. -/
theorem keepsInactive_answer (request : Request) (kept : request.resets = false) :
    Keeps KeepsInactive (fun _ => True) (answer request) :=
  keepsInactive_host.answer_keeps request kept

/-! ## The dispatchers pass an inactive instance over -/

/--
A loop whose turns at the items failing `p` change nothing while `I` holds,
and whose every turn keeps `I`, runs as the loop over the items passing `p`.
-/
theorem forM_filter_run {α : Type} {turn : α → Sim PUnit} {I : Session → Prop} (p : α → Bool)
    (passed : ∀ a v, p a = false → I v → (turn a).run v = .ok ⟨⟩ v)
    (kept : ∀ a v w, I v → (turn a).run v = .ok ⟨⟩ w → I w) :
    ∀ (xs : List α) (u : Session), I u → (xs.forM turn).run u = ((xs.filter p).forM turn).run u := by
  intro xs
  induction xs with
  | nil => intro _ _; rfl
  | cons a rest more =>
    intro u holds
    simp only [List.forM_eq_forM, List.forM_cons] at more ⊢
    by_cases keep : p a = true
    · rw [List.filter_cons_of_pos keep, List.forM_cons, EStateM.run_bind, EStateM.run_bind]
      cases ran : (turn a).run u with
      | ok _ v => exact more v (kept a u v holds ran)
      | error => rfl
    · rw [List.filter_cons_of_neg keep, EStateM.run_bind, passed a u (Bool.eq_false_iff.2 keep) holds]
      exact more u holds

section Dispatch

variable {k : Nat}

theorem updateTurn_of_inactive {s : Session} (inactive : (s.component k).active = false) (frames : Nat)
    (dt : Number) : (updateTurn frames dt k).run s = .ok () s := by
  simp [updateTurn, component, inactive]

theorem updateTurn_keepsInactive (frames : Nat) (dt : Number) (serial : Nat) :
    Keeps KeepsInactive (fun _ => True) (updateTurn frames dt serial) := by
  unfold updateTurn
  refine Keeps.bind (keepsInactive_steps.quietly (component_quiet (fun _ => True) serial)) fun c => ?_
  split
  · split
    · exact (keepsInactive_runs frames).runMethod _ _ _ _
    · exact Keeps.pure _
  · exact Keeps.pure _

/-- From a session where instance `k` is inactive, updating a list of instances is updating the others. -/
theorem forM_updateTurn_filter (frames : Nat) (dt : Number) (serials : List Nat) (u : Session)
    (below : k < u.store.size) (inactive : (u.component k).active = false) :
    (serials.forM (updateTurn frames dt)).run u =
      ((serials.filter (· != k)).forM (updateTurn frames dt)).run u := by
  refine forM_filter_run (I := fun v => k < v.store.size ∧ (v.component k).active = false) _
    (fun serial v skip idle => ?_) (fun serial v w idle ran => ?_) serials u ⟨below, inactive⟩
  · rw [bne_eq_false_iff_eq.1 skip]
    exact updateTurn_of_inactive idle.2 frames dt
  · exact ((updateTurn_keepsInactive frames dt serial).of_run ran).still idle

theorem callbackAt_keepsInactive (target : Option Nat) (cb : Callback) :
    Keeps KeepsInactive (fun _ => True) (callbackAt target cb) := by
  cases target with
  | none => exact Keeps.pure _
  | some serial =>
    unfold callbackAt callbackOn
    refine Keeps.bind (keepsInactive_steps.quietly (component_quiet (fun _ => True) serial)) fun c => ?_
    split
    · split
      · exact keepsInactive_steps.log_keeps _ _ _
      · exact (keepsInactive_runs _).runMethod _ _ _ _
    · exact Keeps.pure _

/--
From a session where instance `k` is inactive, running due calls is running
those whose name finds another instance: the registry stays as it is along
the loop, so a call naming `k` still finds `k` at its turn, inactive.
-/
theorem forM_callbackTurn_filter (cbs : List Callback) (u : Session) (below : k < u.store.size)
    (inactive : (u.component k).active = false) :
    (cbs.forM callbackTurn).run u =
      ((cbs.filter fun cb => u.lookup? cb.component != some k).forM callbackTurn).run u := by
  rw [forM_callbackTurn_run u cbs u rfl, forM_callbackTurn_run u _ u rfl]
  refine forM_filter_run (I := fun v => k < v.store.size ∧ (v.component k).active = false) _
    (fun cb v skip idle => ?_) (fun cb v w idle ran => ?_) cbs u ⟨below, inactive⟩
  · rw [bne_eq_false_iff_eq.1 skip]
    exact callbackOn_of_inactive idle.2 cb
  · exact ((callbackAt_keepsInactive _ cb).of_run ran).still idle

/-- From a session where instance `k` is inactive, delivering to a list of pairs is delivering to the others. -/
theorem dispatch_filter (frames : Nat) (payload : Value) (pairs : List (String × Nat)) :
    ∀ u : Session, k < u.store.size → (u.component k).active = false →
      (dispatch frames pairs payload).run u = (dispatch frames (pairs.filter (·.2 != k)) payload).run u := by
  induction pairs with
  | nil => intro _ _ _; rfl
  | cons pair rest more =>
    obtain ⟨handler, serial⟩ := pair
    intro u below inactive
    by_cases at_k : serial = k
    · subst at_k
      rw [dispatch_cons_passed (fun active => absurd active (by rw [inactive]; decide)),
        List.filter_cons_of_neg (by simp)]
      exact more u below inactive
    rw [List.filter_cons_of_pos (by simpa using at_k)]
    by_cases callable : ∃ m, (u.component serial).active = true ∧ (u.component serial).method? handler = some m
    · obtain ⟨m, active, defined⟩ := callable
      rw [dispatch_cons_called active defined, dispatch_cons_called active defined, EStateM.run_bind,
        EStateM.run_bind]
      cases ran : (runMethod frames serial m [payload]
          ("Event handler error in " ++ (u.component serial).name ++ "." ++ handler)).run u with
      | ok _ v =>
        have idle := (((keepsInactive_runs frames).runMethod _ _ _ _).of_run ran).still ⟨below, inactive⟩
        simp only [EStateM.run_bind, more v idle.1 idle.2]
      | error => rfl
    · have skipped : (u.component serial).active = true → (u.component serial).method? handler = none := by
        intro active
        cases defined : (u.component serial).method? handler with
        | none => rfl
        | some m => exact absurd ⟨m, active, defined⟩ callable
      rw [dispatch_cons_passed skipped, dispatch_cons_passed skipped]
      exact more u below inactive

end Dispatch

end Sim

end GameScript

import GameScript.Proofs.HostFrames

/-!
# The field names of an instance are fixed when it is made

An instance is made of a declaration with no fields, and its fields are then
written in the declaration's order (`Sim.instantiate`). A field is written in
place when the instance has it and added last otherwise
(`Component.setField`), so an instance is registered with its declaration's
field names, each once, in the order of their first declaration
(`instantiate_ends`).

From then on no write adds or drops a name. An assignment writes a field only
when its instance has one of that name, and binds a local of the running
method otherwise (`assign_ends`); the built-ins, the host and the end of a
destruction only deactivate instances. So every kind of step keeps the field
names of every instance (`Session.FieldsFixed`), and with it every function of
the interpreter and every request of a host but a reset. A method runs in a
scope of its own, made of its parameters: a call statement hands its caller's
scope back as it was (`call_returns_scope`).
-/

namespace GameScript

namespace Component

/-- The names of an instance's fields, in order. -/
def fieldNames (c : Component) : List String := c.fields.map (·.1)

theorem hasField_iff_mem (c : Component) (name : String) :
    c.hasField name = true ↔ name ∈ c.fieldNames := by
  simp [hasField, fieldNames]

/-- Writing a field keeps the names of an instance that has it, and adds the name last otherwise. -/
theorem setField_fieldNames (c : Component) (name : String) (v : Value) :
    (c.setField name v).fieldNames =
      if name ∈ c.fieldNames then c.fieldNames else c.fieldNames ++ [name] := by
  by_cases present : c.hasField name = true
  · rw [if_pos ((hasField_iff_mem c name).1 present)]
    exact setField_names present v
  · have absent : name ∉ c.fieldNames := fun mem => present ((hasField_iff_mem c name).2 mem)
    rw [if_neg absent]
    simp [setField, present, fieldNames]

/-- One more name erases to the names before it, with the name last unless it was there. -/
theorem eraseDups_concat (names : List String) (name : String) :
    (names ++ [name]).eraseDups = if name ∈ names then names.eraseDups else names.eraseDups ++ [name] := by
  rw [List.eraseDups_append]
  by_cases present : name ∈ names <;> simp [present, List.removeAll, List.eraseDups_cons]

/-- Writing the fields of a list of names in turn leaves each name once, at its first place. -/
theorem setField_eraseDups {c : Component} {written : List String}
    (names : c.fieldNames = written.eraseDups) (name : String) (v : Value) :
    (c.setField name v).fieldNames = (written ++ [name]).eraseDups := by
  simp only [setField_fieldNames, eraseDups_concat, names, List.mem_eraseDups]

end Component

namespace Session

/-- The instance with a serial number after one instance is changed. -/
theorem component_modifyComponent (s : Session) (serial : Nat) (f : Component → Component)
    {other : Nat} (below : other < s.store.size) :
    (s.modifyComponent serial f).component other =
      if serial = other then f (s.component other) else s.component other := by
  simp only [Session.component, Session.modifyComponent, Array.getD_eq_getD_getElem?,
    Array.getElem?_modify, Array.getElem?_eq_getElem below]
  split <;> rfl

/-- `t` still holds every instance of `s`, each with the field names it has in `s`. -/
structure FieldsFixed (s t : Session) : Prop where
  grows : s.store.size ≤ t.store.size
  fixed : ∀ serial < s.store.size, (t.component serial).fieldNames = (s.component serial).fieldNames

theorem FieldsFixed.refl (s : Session) : FieldsFixed s s :=
  ⟨Nat.le_refl _, fun _ _ => rfl⟩

theorem FieldsFixed.trans {s t u : Session} (first : FieldsFixed s t) (second : FieldsFixed t u) :
    FieldsFixed s u where
  grows := Nat.le_trans first.grows second.grows
  fixed serial below :=
    (second.fixed serial (Nat.lt_of_lt_of_le below first.grows)).trans (first.fixed serial below)

instance : IsPreorder Session FieldsFixed where
  refl := FieldsFixed.refl
  trans _ _ _ := FieldsFixed.trans

/-- A step that leaves the instances alone keeps their field names. -/
theorem FieldsFixed.of_store {s t : Session} (same : t.store = s.store) : FieldsFixed s t where
  grows := Nat.le_of_eq (congrArg Array.size same.symm)
  fixed serial _ := by rw [Session.component, same]; rfl

/-- Changing an instance in a way that keeps its field names keeps every instance's. -/
theorem FieldsFixed.modifyComponent (s : Session) (serial : Nat) (f : Component → Component)
    (kept : (f (s.component serial)).fieldNames = (s.component serial).fieldNames) :
    FieldsFixed s (s.modifyComponent serial f) := by
  refine ⟨Nat.le_of_eq Array.size_modify.symm, fun other below => ?_⟩
  rw [component_modifyComponent s serial f below]
  split
  · next same =>
    subst same
    exact kept
  · rfl

/-- Changing an instance made after `s` keeps the field names of every instance of `s`. -/
theorem FieldsFixed.modifyComponent_new {s u : Session} (related : FieldsFixed s u) {serial : Nat}
    (fresh : s.store.size ≤ serial) (f : Component → Component) :
    FieldsFixed s (u.modifyComponent serial f) := by
  refine ⟨Nat.le_trans related.grows (Nat.le_of_eq Array.size_modify.symm), fun other below => ?_⟩
  rw [component_modifyComponent u serial f (Nat.lt_of_lt_of_le below related.grows),
    if_neg (by omega)]
  exact related.fixed other below

/-- A new instance goes after all others, which keep their field names. -/
theorem FieldsFixed.push (s : Session) (c : Component) :
    FieldsFixed s { s with store := s.store.push c } := by
  refine ⟨by simp, fun serial below => ?_⟩
  unfold Session.component
  rw [Array.getD_eq_getD_getElem?, Array.getElem?_push, if_neg (Nat.ne_of_lt below),
    ← Array.getD_eq_getD_getElem?]

/-- Retiring an entity deactivates the instance driving it, which keeps every field name. -/
theorem FieldsFixed.retire (s : Session) (e : Entity) : FieldsFixed s (s.retire e) := by
  have deactivate := fun serial =>
    FieldsFixed.modifyComponent s serial (fun c => { c with active := false }) rfl
  unfold Session.retire
  cases e.component with
  | none => cases s.inTick <;> exact .of_store rfl
  | some serial => cases s.inTick <;> exact ⟨(deactivate serial).grows, (deactivate serial).fixed⟩

end Session

open Session

namespace Sim

/-! ## Every step keeps the field names -/

/-- Every kind of step a running script takes keeps the field names of every instance. -/
theorem fieldsFixed_steps : StepsKeep FieldsFixed where
  quiet _ _ quiet := .of_store quiet.store
  modifyComponent s serial f _ _ _ kept := .modifyComponent s serial f kept
  enter _ _ _ _ kept := ⟨kept.grows, kept.fixed⟩
  mark _ _ _ _ kept := ⟨kept.grows, kept.fixed⟩
  create _ _ _ _ := .of_store rfl
  retire _ t e _ kept := kept.trans (FieldsFixed.retire t e)

theorem fieldsFixed_runs (frames : Nat) : RunsKeep FieldsFixed frames :=
  fieldsFixed_steps.runs frames

/-! ## A new instance takes its declaration's field names -/

section Making

variable {s : Session} {serial : Nat}

/--
The loop that gives a new instance its fields: each round computes a value by
running scripts, which keep every field name, and writes the field, so that
the instance's names are those written so far, each once. The value is
computed by scripts, which leave the names as they were.
-/
theorem forIn_fields_ends (fresh : s.store.size ≤ serial)
    {body : FieldDecl → PUnit → Sim (ForInStep PUnit)}
    (rounds : ∀ fd r, ∃ value : Sim Value, Keeps FieldsFixed (fun _ => True) value ∧
      body fd r = do
        let v ← value
        modifyComponent serial (·.setField fd.name v)
        pure (ForInStep.yield PUnit.unit))
    (fields : List FieldDecl) :
    ∀ (written : List String) (u : Session), FieldsFixed s u → serial < u.store.size →
      (u.component serial).fieldNames = written.eraseDups →
      Ends (forIn fields PUnit.unit body) u
        (fun _ t => FieldsFixed s t ∧ serial < t.store.size ∧
          (t.component serial).fieldNames = (written ++ fields.map (·.name)).eraseDups)
        (fun _ t => FieldsFixed s t) := by
  induction fields with
  | nil =>
    intro written u related valid names
    rw [List.forIn_nil, ends_pure]
    exact ⟨related, valid, by rw [names, List.map_nil, List.append_nil]⟩
  | cons fd rest more =>
    intro written u related valid names
    obtain ⟨value, computes, shape⟩ := rounds fd PUnit.unit
    rw [List.forIn_cons, shape, ends_bind, ends_bind]
    refine computes.ends u (fun v t computed => ?_) fun _ t _ computed => related.trans computed
    have stays : serial < t.store.size := Nat.lt_of_lt_of_le valid computed.grows
    have same : (t.component serial).fieldNames = written.eraseDups :=
      (computed.fixed serial valid).trans names
    rw [ends_bind, Sim.modifyComponent, ends_modify, ends_pure]
    have ended := more (written ++ [fd.name]) (t.modifyComponent serial (·.setField fd.name v))
      ((related.trans computed).modifyComponent_new fresh _)
      (by rwa [Session.modifyComponent, Array.size_modify])
      (by rw [component_modifyComponent _ _ _ stays, if_pos rfl, Component.setField_eraseDups same])
    simpa only [List.map_cons, List.append_assoc, List.singleton_append] using ended

/--
Making an instance of `d` adds it after all others and registers it with the
names of `d`'s fields, each once, in the order of their first declaration;
every instance already there keeps its field names, whether it succeeds or
fails. A field takes its initial value, or its zero when that runs out of host
stack, and registering the instance, the note and the log entry leave its
fields alone.
-/
theorem instantiate_ends (d : Declaration) (instanceName : Option String) (frames : Nat)
    (s : Session) :
    Ends (instantiate d instanceName frames) s
      (fun serial t => FieldsFixed s t ∧ serial = s.store.size ∧
        (t.component serial).fieldNames = (d.fields.map (·.name)).eraseDups ∧
        ∃ name, (name, serial) ∈ t.registry)
      (fun _ t => FieldsFixed s t) := by
  rw [instantiate, ends_bind, ends_get]
  extract_lets name serial make
  have made : ∀ r, Ends (make r) s
      (fun serial t => FieldsFixed s t ∧ serial = s.store.size ∧
        (t.component serial).fieldNames = (d.fields.map (·.name)).eraseDups ∧
        ∃ name, (name, serial) ∈ t.registry)
      (fun _ t => FieldsFixed s t) := by
    intro r
    simp only [make]
    rw [ends_bind, ends_set, ends_bind]
    refine Ends.mono (forIn_fields_ends (Nat.le_refl _) ?rounds d.fields [] _
      (FieldsFixed.push s _) ?valid ?empty) (fun _ u filled => ?_) fun _ _ related => related
    case rounds =>
      intro fd _
      cases fd.init with
      | none => exact ⟨_, Keeps.pure _, rfl⟩
      | some e =>
        refine ⟨_, Keeps.tryCatch ((fieldsFixed_runs frames).evaluateTop [] (some serial) e)
          fun fault _ => ?_, rfl⟩
        split
        · exact Keeps.bind (fieldsFixed_steps.log_keeps _ _ _) fun _ => Keeps.pure _
        · exact Keeps.throw trivial
    case valid => simp
    case empty => simp [Session.component, Component.fieldNames]
    simp only [ends_bind, ends_modify, ends_pure, note, log]
    exact ⟨⟨filled.1.grows, filled.1.fixed⟩, rfl, filled.2.2, name, by simp⟩
  split
  · split
    · exact (ends_bind _).2 (ends_throw _ |>.2 (FieldsFixed.refl s))
    · exact made ()
  · exact made ()

theorem fieldsFixed_instantiate (d : Declaration) (instanceName : Option String) (frames : Nat) :
    Keeps FieldsFixed (fun _ => True) (instantiate d instanceName frames) := fun s =>
  (instantiate_ends d instanceName frames s).mono (fun _ _ made => made.1)
    fun _ _ related => ⟨trivial, related⟩

end Making

/-! ## Where an assignment writes -/

/--
An assignment computes its value by running scripts, which keep every field
name, and then writes the field of its instance when the instance, in the
session the write happens in, has a field of that name: the scope is handed
back as it was. Otherwise it binds the name in the scope, and the write
changes no session. The instance is read again in the session the write
happens in.
-/
theorem assign_ends (frames serial : Nat) (scope : Scope) (target : String) (op : AssignOp)
    (value : Expr) (line : Nat) (s : Session) :
    Ends (execStmt (frames + 1) serial scope (.assign target op value line)) s
      (fun scope' t => ∃ u v, FieldsFixed s u ∧
        if (u.component serial).hasField target then
          scope' = scope ∧ t = u.modifyComponent serial (·.setField target v)
        else scope' = scope.bind target v ∧ t = u)
      (fun _ t => FieldsFixed s t) := by
  rw [execStmt.eq_def]
  dsimp -zeta only
  rw [ends_bind]
  refine (fieldsFixed_steps.modify_books fun s => Quiet.of_books s).ends s (fun _ t counted => ?_)
    fun _ _ _ counted => counted
  rw [ends_bind, ends_component]
  extract_lets current store
  have stored : ∀ result u, FieldsFixed s u → Ends (store result) u
      (fun scope' t => ∃ u v, FieldsFixed s u ∧
        if (u.component serial).hasField target then
          scope' = scope ∧ t = u.modifyComponent serial (·.setField target v)
        else scope' = scope.bind target v ∧ t = u)
      (fun _ t => FieldsFixed s t) := by
    intro result u related
    simp only [store]
    rw [ends_bind]
    refine (fieldsFixed_steps.quietly (share_quiet (fun _ => True) result)).ends u
      (fun shared w stamped => ?_) fun _ _ _ stamped => related.trans stamped
    rw [ends_bind, ends_component]
    have before := related.trans stamped
    split
    · next present =>
      rw [ends_bind, Sim.modifyComponent, ends_modify, ends_pure]
      exact ⟨w, shared, before, by rw [if_pos present]; exact ⟨rfl, rfl⟩⟩
    · next absent =>
      rw [ends_pure]
      exact ⟨w, shared, before, by rw [if_neg absent]; exact ⟨rfl, rfl⟩⟩
  rw [ends_bind]
  refine ((fieldsFixed_runs _).evaluateTop scope (some serial) value).ends t
    (fun v u computed => ?_) fun _ _ _ computed => counted.trans computed
  cases op with
  | set =>
    rw [ends_bind, ends_pure]
    exact stored v u (counted.trans computed)
  | compound bop =>
    rw [ends_bind]
    exact (StepsKeep.binary_keeps bop current v).ends u
      (fun result w combined => stored result w ((counted.trans computed).trans combined))
      fun _ _ _ combined => (counted.trans computed).trans combined

/-! ## A call hands its caller's scope back -/

/-- Every run of `m` that answers, answers `a`. -/
def Answers (a : α) (m : Sim α) : Prop :=
  ∀ s, Ends m s (fun b _ => b = a) (fun _ _ => True)

theorem Answers.pure (a : α) : Answers a (pure a : Sim α) := fun _ => rfl

theorem Answers.throw (a : α) (fault : Fault) : Answers a (throw fault : Sim α) := fun _ => trivial

/-- Whatever a first step does, a run all of whose continuations answer `a` answers `a`. -/
theorem Answers.bind {a : α} {m : Sim β} {k : β → Sim α} (rest : ∀ x, Answers a (k x)) :
    Answers a (m >>= k) := fun s => by
  rw [ends_bind]
  unfold Ends
  cases m.run s with
  | ok x t => exact rest x t
  | error _ _ => trivial

/--
A call statement hands back the scope it was given, whatever the called method
or built-in does: the method runs in a scope of its own, and its assignments
to names that are not fields never reach its caller's. A spawn logs what it
spawns, when it is given something.
-/
theorem call_returns_scope (frames serial : Nat) (scope : Scope) (name : String) (args : List Expr)
    (line : Nat) : Answers scope (execStmt frames serial scope (.call name args line)) := by
  rw [execStmt.eq_def]
  cases frames with
  | zero => exact Answers.throw scope _
  | succ f =>
    dsimp -zeta only
    refine Answers.bind fun _ => ?_
    split
    · exact Answers.bind fun _ => Answers.bind fun _ => Answers.bind fun _ => Answers.pure scope
    split
    · split
      · exact Answers.bind fun _ => Answers.bind fun _ => Answers.bind fun _ =>
          Answers.bind fun _ => Answers.pure scope
      · exact Answers.pure scope
    refine Answers.bind fun _ => ?_
    split
    · exact Answers.bind fun _ => Answers.pure scope
    refine Answers.bind fun c => ?_
    split
    · exact Answers.bind fun _ => Answers.pure scope
    · exact Answers.bind fun _ => Answers.bind fun _ => Answers.pure scope

/-- Every kind of step a host request takes, but starting over, keeps every field name. -/
theorem fieldsFixed_host : HostKeeps FieldsFixed where
  steps := fieldsFixed_steps
  still _ _ same := .of_store same
  deactivate s serial _ same := (FieldsFixed.modifyComponent s serial _ rfl).trans (.of_store same)
  instantiate := fieldsFixed_instantiate

/--
The field names of an instance are fixed when it is made. Making an instance
of a declaration registers it, after all others, with the declaration's field
names, each once, in the order of their first declaration. Every function of
the interpreter (statements, built-ins, event delivery, method runs) and every
request of a host but a reset keeps the field names of every instance, whether
it answers or fails. An assignment writes the field of its instance when the
instance has one of that name, and otherwise binds a local of the running
method and writes no instance; a call statement hands its caller's scope back
as it was.
-/
theorem field_names_fixed_at_creation :
    (∀ d instanceName frames (s : Session) serial t,
      (instantiate d instanceName frames).run s = .ok serial t →
        FieldsFixed s t ∧ serial = s.store.size ∧
          (t.component serial).fieldNames = (d.fields.map (·.name)).eraseDups ∧
          ∃ name, (name, serial) ∈ t.registry) ∧
    (∀ frames, RunsKeep FieldsFixed frames) ∧
    (∀ (s : Session) (request : Request), request.resets = false →
      ∀ serial < s.store.size,
        ((s.perform request).2.1.component serial).fieldNames = (s.component serial).fieldNames) ∧
    (∀ frames serial scope target op value line (s : Session) scope' t,
      (execStmt (frames + 1) serial scope (.assign target op value line)).run s = .ok scope' t →
        ∃ u v, FieldsFixed s u ∧
          if (u.component serial).hasField target then
            scope' = scope ∧ t = u.modifyComponent serial (·.setField target v)
          else scope' = scope.bind target v ∧ t = u) ∧
    ∀ frames serial scope name args line (s : Session) scope' t,
      (execStmt frames serial scope (.call name args line)).run s = .ok scope' t → scope' = scope := by
  refine ⟨fun d instanceName frames s serial t ran => ?_, fieldsFixed_runs,
    fun s request kept serial below => ?_, fun frames serial scope target op value line s _ _ ran => ?_,
    fun frames serial scope name args line s _ _ ran => ?_⟩
  · exact (instantiate_ends d instanceName frames s).of_run ran
  · exact (fieldsFixed_host.perform_related request kept s).fixed serial below
  · exact (assign_ends frames serial scope target op value line s).of_run ran
  · exact (call_returns_scope frames serial scope name args line s).of_run ran

/-- An instance with a field `hp`: a tick leaves it with that one field name. -/
theorem tick_keeps_field_names :
    let s : Session := { Session.create {} default with
      store := #[{ name := "A", declaration := "A", fields := [("hp", .int 3)], methods := [] }]
      registry := [("A", 0)] }
    (Request.tick none).resets = false ∧ 0 < s.store.size ∧
      ((s.perform (.tick none)).2.1.component 0).fieldNames = ["hp"] := by
  intro s
  exact ⟨rfl, by decide, field_names_fixed_at_creation.2.2.1 s (.tick none) rfl 0 (by decide)⟩

end Sim

end GameScript

import GameScript.Proofs.RelatedRuns
import GameScript.Proofs.ReadJoin
import GameScript.Proofs.PrintedRoundTrip
import GameScript.Proofs.TwinSessions
import GameScript.Proofs.Frames

/-!
# Sessions holding the same scene

Where a line or a column sits in the source is never read by a running
script: no value, message or fault shows it.  Two sessions hold the same
scene when they agree on every instance up to the positions in its methods,
and on everything else but the log; the host's trace of each is a lead of its
own followed by one same part.  Loading text in one piece, or in two pieces
one after the other, ends in sessions holding the same scene.

`Component.strip` resets the positions of an instance's methods.
`Session.SameScene` is the relation; its lemmas say what each read of a
session gives on sessions holding the same scene, and that each change of a
session a script makes keeps the relation.  The steps of `Sim` that make those
changes are then proved related (`Sim.Related`) one by one.
-/

namespace GameScript

/-! ## Positions apart, for methods and instances -/

/-- The method with every line and position reset. -/
def MethodDecl.strip (m : MethodDecl) : MethodDecl :=
  { m with body := Stmt.stripList m.body, line := 0 }

/-- The instance with the positions of its methods reset. -/
def Component.strip (c : Component) : Component :=
  { c with methods := c.methods.map fun entry => (entry.1, entry.2.strip) }

namespace Component

variable (c : Component)

@[simp] theorem strip_name : c.strip.name = c.name := rfl
@[simp] theorem strip_declaration : c.strip.declaration = c.declaration := rfl
@[simp] theorem strip_fields : c.strip.fields = c.fields := rfl
@[simp] theorem strip_active : c.strip.active = c.active := rfl

theorem method?_strip (name : String) : c.strip.method? name = (c.method? name).map MethodDecl.strip := by
  simp only [method?, strip, List.find?_map, Option.map_map]
  rfl

theorem hasMethod_strip (name : String) : c.strip.hasMethod name = c.hasMethod name := by
  simp only [hasMethod, strip, List.any_map]
  rfl

theorem strip_deactivate : { c with active := false }.strip = { c.strip with active := false } := rfl

theorem hasField_strip (name : String) : c.strip.hasField name = c.hasField name := rfl

theorem setField_strip (name : String) (v : Value) : (c.setField name v).strip = c.strip.setField name v := by
  unfold setField
  rw [hasField_strip]
  split <;> rfl

section Matched

variable {c c' : Component} (stripped : c.strip = c'.strip)
include stripped

/-! Instances that agree up to positions agree on all but their methods, and on those up to positions. -/

theorem name_of_strip : c.name = c'.name := by
  simpa only [strip_name] using congrArg Component.name stripped
theorem fields_of_strip : c.fields = c'.fields := by
  simpa only [strip_fields] using congrArg Component.fields stripped
theorem active_of_strip : c.active = c'.active := by
  simpa only [strip_active] using congrArg Component.active stripped

theorem hasField_of_strip (name : String) : c.hasField name = c'.hasField name := by
  unfold hasField
  rw [fields_of_strip stripped]

theorem field?_of_strip (name : String) : c.field? name = c'.field? name := by
  unfold field?
  rw [fields_of_strip stripped]

/-- A method of a name is on both instances, agreeing up to positions, or on neither. -/
theorem method?_cases (name : String) :
    (c.method? name = none ∧ c'.method? name = none) ∨
      ∃ m m', c.method? name = some m ∧ c'.method? name = some m' ∧ m.strip = m'.strip := by
  have methods : (c.method? name).map MethodDecl.strip = (c'.method? name).map MethodDecl.strip := by
    rw [← method?_strip, ← method?_strip, stripped]
  cases found : c.method? name with
  | none =>
    rw [found, Option.map_none, eq_comm, Option.map_eq_none_iff] at methods
    exact Or.inl ⟨rfl, methods⟩
  | some m =>
    rw [found, Option.map_some, eq_comm, Option.map_eq_some_iff] at methods
    obtain ⟨m', found', sameBody⟩ := methods
    exact Or.inr ⟨m, m', rfl, found', sameBody.symm⟩

end Matched

end Component

/-! ## Positions moved, then reset -/

mutual

theorem Expr.strip_shiftLines (k : Nat) : ∀ e : Expr, (e.shiftLines k).strip = e.strip
  | .literal .. | .identifier .. => rfl
  | .unary _ operand _ => by
    rw [Expr.shiftLines, Expr.strip, Expr.strip, Expr.strip_shiftLines k operand]
  | .binary _ left right _ => by
    rw [Expr.shiftLines, Expr.strip, Expr.strip, Expr.strip_shiftLines k left,
      Expr.strip_shiftLines k right]
  | .call _ args _ => by
    rw [Expr.shiftLines, Expr.strip, Expr.strip, Expr.stripList_shiftLinesList k args]

theorem Expr.stripList_shiftLinesList (k : Nat) :
    ∀ es : List Expr, Expr.stripList (Expr.shiftLinesList k es) = Expr.stripList es
  | [] => rfl
  | e :: rest => by
    rw [Expr.shiftLinesList, Expr.stripList, Expr.stripList, Expr.strip_shiftLines k e,
      Expr.stripList_shiftLinesList k rest]

end

mutual

theorem Stmt.strip_shiftLines (k : Nat) : ∀ st : Stmt, (st.shiftLines k).strip = st.strip
  | .assign _ _ value _ => by rw [Stmt.shiftLines, Stmt.strip, Stmt.strip, Expr.strip_shiftLines]
  | .ifThen condition body _ => by
    rw [Stmt.shiftLines, Stmt.strip, Stmt.strip, Expr.strip_shiftLines,
      Stmt.stripList_shiftLinesList k body]
  | .call _ args _ => by
    rw [Stmt.shiftLines, Stmt.strip, Stmt.strip, ← Expr.shiftLinesList_eq_map,
      Expr.stripList_shiftLinesList]
  | .unknown .. => rfl

theorem Stmt.stripList_shiftLinesList (k : Nat) :
    ∀ sts : List Stmt, Stmt.stripList (Stmt.shiftLinesList k sts) = Stmt.stripList sts
  | [] => rfl
  | st :: rest => by
    rw [Stmt.shiftLinesList, Stmt.stripList, Stmt.stripList, Stmt.strip_shiftLines k st,
      Stmt.stripList_shiftLinesList k rest]

end

theorem MethodDecl.strip_shiftLines (k : Nat) (m : MethodDecl) : (m.shiftLines k).strip = m.strip := by
  simp only [MethodDecl.strip, MethodDecl.shiftLines, ← Stmt.shiftLinesList_eq_map,
    Stmt.stripList_shiftLinesList]

/--
Changing each method by a change that keeps its name changes the table of
methods alike. One method entered into a changed table gives the changed table
of the method entered.
-/
theorem Declaration.methodTable_map (d : Declaration) {g : MethodDecl → MethodDecl}
    (named : ∀ m, (g m).name = m.name) :
    Declaration.methodTable { d with methods := d.methods.map g } =
      (Declaration.methodTable d).map fun entry => (entry.1, g entry.2) := by
  unfold Declaration.methodTable
  rw [List.foldl_map]
  change List.foldl _ (([] : List (String × MethodDecl)).map fun entry => (entry.1, g entry.2)) _ = _
  refine List.foldl_hom _ fun table m => ?_
  simp only [List.any_map, Function.comp_def, named]
  split
  · simp only [List.map_map, Function.comp_def]
    refine List.map_congr_left fun entry _ => ?_
    split <;> rfl
  · simp only [List.map_append, List.map_cons, List.map_nil]


/-- The methods of a declaration moved down some lines are its own, up to positions. -/
theorem Declaration.methodTable_shiftLines (k : Nat) (d : Declaration) :
    (d.shiftLines k).methodTable.map (fun entry => (entry.1, entry.2.strip)) =
      d.methodTable.map fun entry => (entry.1, entry.2.strip) := by
  have moved := d.methodTable_map (g := MethodDecl.shiftLines k) fun _ => rfl
  change (Declaration.methodTable { d with methods := d.methods.map (MethodDecl.shiftLines k) }).map _ = _
  rw [moved, List.map_map]
  refine List.map_congr_left fun entry _ => ?_
  simp only [Function.comp, MethodDecl.strip_shiftLines]

namespace Session

/--
Sessions that hold the same scene: their instances agree up to the positions
in their methods, their traces go on alike after the leads `lead.1` and
`lead.2`, and everything else but the log is the same.
-/
structure SameScene (lead : Array HostRecord × Array HostRecord) (s t : Session) : Prop where
  settings : s.settings = t.settings
  platform : s.platform = t.platform
  random : s.random = t.random
  trace : ∃ d, s.trace = lead.1 ++ d ∧ t.trace = lead.2 ++ d
  store : s.store.map Component.strip = t.store.map Component.strip
  registry : s.registry = t.registry
  world : s.world = t.world
  events : s.events = t.events
  scheduler : s.scheduler = t.scheduler
  time : s.time = t.time
  ticks : s.ticks = t.ticks
  inTick : s.inTick = t.inTick
  pendingEntities : s.pendingEntities = t.pendingEntities
  pendingComponents : s.pendingComponents = t.pendingComponents
  destroying : s.destroying = t.destroying
  callStack : s.callStack = t.callStack
  stats : s.stats = t.stats
  usage : s.usage = t.usage
  nextIdent : s.nextIdent = t.nextIdent

namespace SameScene

variable {lead : Array HostRecord × Array HostRecord} {s t : Session}

/-- A session holds its own scene. -/
theorem refl (s : Session) : s.SameScene (s.trace, s.trace) s :=
  ⟨rfl, rfl, rfl, ⟨#[], by simp, by simp⟩, rfl, rfl, rfl, rfl, rfl, rfl, rfl, rfl, rfl, rfl, rfl, rfl, rfl, rfl, rfl⟩

/-- The same scene with other logs and traces, the traces now led by the whole of each. -/
theorem retrace (same : s.SameScene lead t) (log log' : LogRing) (trace trace' : Array HostRecord) :
    ({ s with log, trace } : Session).SameScene (trace, trace') { t with log := log', trace := trace' } :=
  { same with trace := ⟨#[], by simp, by simp⟩ }

/-- The same record written on both sides. -/
theorem trace_push (same : s.SameScene lead t) (r : HostRecord) :
    ∃ d, s.trace.push r = lead.1 ++ d ∧ t.trace.push r = lead.2 ++ d := by
  obtain ⟨d, before, after⟩ := same.trace
  exact ⟨d.push r, by rw [before, Array.push_append], by rw [after, Array.push_append]⟩

theorem component (same : s.SameScene lead t) (serial : Nat) :
    (s.component serial).strip = (t.component serial).strip := by
  unfold Session.component
  have stripped : ∀ u : Session, (u.store.getD serial default).strip =
      (u.store.map Component.strip).getD serial default :=
    fun u => (Heap.getD_map u.store serial default).symm
  rw [stripped, stripped, same.store]

theorem storeSize (same : s.SameScene lead t) : s.store.size = t.store.size := by
  simpa only [Array.size_map] using congrArg Array.size same.store

theorem lookup? (same : s.SameScene lead t) (name : String) : s.lookup? name = t.lookup? name := by
  unfold Session.lookup?
  rw [same.registry]

theorem activeSerials (same : s.SameScene lead t) : s.activeSerials = t.activeSerials := by
  unfold Session.activeSerials
  rw [same.registry]
  refine List.filter_congr fun serial _ => ?_
  rw [← Component.strip_active, same.component, Component.strip_active]

theorem entityName (same : s.SameScene lead t) : s.entityName = t.entityName := by
  funext id
  unfold Session.entityName
  rw [same.world]

/-- Records of entities read alike at every depth: they show instances only by name, state and fields. -/
theorem entityRecord (same : s.SameScene lead t) (fuel : Nat) :
    s.entityRecord fuel = t.entityRecord fuel := by
  induction fuel with
  | zero => rfl
  | succ fuel deeper =>
    funext opened id
    rw [Session.entityRecord, Session.entityRecord, same.world, same.entityName, deeper]
    cases t.world.find? id with
    | none => rfl
    | some e =>
      dsimp only
      have shown : ∀ serial, (s.component serial).fields = (t.component serial).fields ∧
          (s.component serial).name = (t.component serial).name ∧
          (s.component serial).active = (t.component serial).active := by
        intro serial
        have stripped := same.component serial
        exact ⟨by simpa using congrArg Component.fields stripped,
          by simpa using congrArg Component.name stripped,
          by simpa using congrArg Component.active stripped⟩
      cases e.component with
      | none => rfl
      | some serial =>
        obtain ⟨fields, name, active⟩ := shown serial
        simp only [fields, name, active]

theorem entityText (same : s.SameScene lead t) : s.entityText = t.entityText := by
  unfold Session.entityText
  rw [same.entityName, same.world, same.storeSize, same.entityRecord]

/-- Sessions holding the same scene read alike through every view a built-in that runs no script takes. -/
theorem readsAlike (same : s.SameScene lead t) : s.ReadsAlike t :=
  ⟨same.settings, same.platform, same.world, same.entityText, same.callStack, same.time, same.scheduler,
    same.events, fun serial => Component.name_of_strip (same.component serial)⟩

/-- Changing one instance on both sides by changes that agree up to positions. -/
theorem modifyComponent (same : s.SameScene lead t) (serial : Nat) {f g : Component → Component}
    (commutes : ∀ c c', c.strip = c'.strip → (f c).strip = (g c').strip) :
    (s.modifyComponent serial f).SameScene lead (t.modifyComponent serial g) := by
  refine { same with store := ?_ }
  show (s.store.modify serial f).map Component.strip = (t.store.modify serial g).map Component.strip
  refine Array.ext_getElem? fun i => ?_
  have entry : (s.store[i]?).map Component.strip = (t.store[i]?).map Component.strip := by
    rw [← Array.getElem?_map, ← Array.getElem?_map, same.store]
  simp only [Array.getElem?_map, Array.getElem?_modify]
  split
  · cases here : s.store[i]? with
    | none =>
      rw [here] at entry
      cases there : t.store[i]? with
      | none => rfl
      | some c' => simp [there] at entry
    | some c =>
      rw [here] at entry
      cases there : t.store[i]? with
      | none => simp [there] at entry
      | some c' =>
        simp only [there, Option.map_some, Option.some.injEq] at entry ⊢
        exact commutes c c' entry
  · exact entry

/-- A new instance on both sides, agreeing up to positions. -/
theorem push (same : s.SameScene lead t) {c c' : Component} (stripped : c.strip = c'.strip) :
    ({ s with store := s.store.push c } : Session).SameScene lead { t with store := t.store.push c' } :=
  { same with store := by simp only [Array.map_push, same.store, stripped] }

/--
Retiring one entity on both sides. The entity is deactivated, then its
component; then it waits for the end of the tick or leaves.
-/
theorem retire (same : s.SameScene lead t) (e : Entity) : (s.retire e).SameScene lead (t.retire e) := by
  have deactivated : ({ s with world := s.world.modify e.id fun e => { e with active := false } } : Session).SameScene
      lead { t with world := t.world.modify e.id fun e => { e with active := false } } :=
    { same with world := by rw [same.world] }
  obtain ⟨id, kind, position, properties, _ | serial, active, lifespan, listed⟩ := e
  · unfold Session.retire
    dsimp only at deactivated ⊢
    rw [same.inTick]
    split
    · exact { deactivated with inTick := rfl, pendingEntities := by rw [same.pendingEntities] }
    · exact { deactivated with inTick := rfl, world := by rw [same.world] }
  · have component := deactivated.modifyComponent serial (f := fun c => { c with active := false })
      (g := fun c => { c with active := false }) fun c c' stripped => by
        rw [Component.strip_deactivate, Component.strip_deactivate, stripped]
    unfold Session.retire
    dsimp only [Session.modifyComponent] at deactivated component ⊢
    rw [same.inTick]
    split
    · exact { component with inTick := rfl, pendingEntities := by rw [same.pendingEntities] }
    · exact { component with inTick := rfl, world := by rw [same.world] }

end SameScene

end Session

namespace Sim

open Session

variable {lead : Array HostRecord × Array HostRecord}

/-! ## Primitive steps -/

theorem log_matched (level : LogLevel) (message : String) (entity : Option Nat) :
    Related (SameScene lead) Eq (log level message entity) (log level message entity) :=
  Related.modify fun _ _ same => { same with trace := same.trace_push _ }

theorem note_matched (level : LogLevel) (channel message : String) :
    Related (SameScene lead) Eq (note level channel message) (note level channel message) :=
  Related.modify fun _ _ same => { same with trace := same.trace_push _ }

theorem countUse_matched (name : String) :
    Related (SameScene lead) Eq (countUse name) (countUse name) := by
  refine Related.modify fun s t same => ?_
  simp only [same.usage]
  split <;> exact { same with usage := rfl }

theorem component_matched (serial : Nat) :
    Related (SameScene lead) (fun c c' => c.strip = c'.strip) (component serial) (component serial) :=
  fun _ _ same => EndsRelated.ok (same.component serial) same

/-- Changing one instance on both sides by changes that agree up to positions. -/
theorem modifyComponent_matched (serial : Nat) {f g : Component → Component}
    (commutes : ∀ c c', c.strip = c'.strip → (f c).strip = (g c').strip) :
    Related (SameScene lead) Eq (modifyComponent serial f) (modifyComponent serial g) :=
  Related.modify fun _ _ same => same.modifyComponent serial commutes

theorem share_matched (v : Value) : Related (SameScene lead) Eq (share v) (share v) := by
  intro s t same
  rw [share_run, share_run, same.nextIdent]
  exact EndsRelated.ok rfl { same with nextIdent := rfl }

theorem shareVec2_matched (v : Vec2) : Related (SameScene lead) Eq (shareVec2 v) (shareVec2 v) := by
  intro s t same
  rw [shareVec2_run, shareVec2_run, same.nextIdent]
  exact EndsRelated.ok rfl { same with nextIdent := rfl }

theorem uniform_matched : Related (SameScene lead) Eq uniform uniform := by
  intro s t same
  change EndsRelated _ Eq (.ok s.random.uniform.1 { s with random := s.random.uniform.2 })
    (.ok t.random.uniform.1 { t with random := t.random.uniform.2 })
  rw [same.random]
  exact EndsRelated.ok rfl { same with random := rfl }

end Sim

end GameScript

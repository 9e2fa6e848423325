import GameScript.Proofs.RelatedRuns
import GameScript.Proofs.Inactivity

/-!
# Sessions that differ in the methods of a dormant instance

An instance is dormant when it is in the store, inactive, no method of it is
running, and every entity it drives is inactive (`Session.Dormant`).  The
dispatchers pass such an instance over, no `onDestroy` of it can start, and
no method of it runs as a call from one of its own: nothing the interpreter
does of its own accord reaches its methods.

`Session.hideMethods s k` is `s` with the methods of instance `k` taken away,
and `Session.Hidden k s t` says that `t` is `s` so changed, `k` being dormant
in `s`.  This module proves that each step a script takes, taken on both
sides, ends alike and keeps the relation: the steps that keep books, reading
and changing instances, and, since a dormant instance is read only by name,
fields and activity, every built-in function that runs no script
(`Sim.hidden_faithful`).
-/

namespace GameScript

/-- Two instances a script cannot tell apart without running a method: one name, fields and activity. -/
structure Component.ReadAlike (c c' : Component) : Prop where
  name : c.name = c'.name
  fields : c.fields = c'.fields
  active : c.active = c'.active

theorem Component.ReadAlike.field? {c c' : Component} (alike : c.ReadAlike c') (name : String) :
    c.field? name = c'.field? name := by
  unfold Component.field?
  rw [alike.fields]

theorem Component.ReadAlike.hasField {c c' : Component} (alike : c.ReadAlike c') (name : String) :
    c.hasField name = c'.hasField name := by
  unfold Component.hasField
  rw [alike.fields]

/-- No active entity of the world is driven by instance `k`. -/
def World.Unbound (w : World) (k : Nat) : Prop :=
  ∀ e ∈ w.entities, e.component = some k → e.active = false

namespace World.Unbound

variable {w : World} {k : Nat}

/-- Changing entities of one id in a way that keeps their driver and never activates them. -/
theorem modify (unbound : w.Unbound k) (id : Nat) {g : Entity → Entity}
    (driver : ∀ e, (g e).component = e.component) (kept : ∀ e, (g e).active = true → e.active = true) :
    (w.modify id g).Unbound k := by
  intro e member driven
  simp only [World.modify, List.mem_map] at member
  obtain ⟨e', member', rfl⟩ := member
  by_cases changed : (e'.id == id) = true
  · rw [if_pos changed] at driven ⊢
    have inactive := unbound e' member' (driver e' ▸ driven)
    exact Bool.eq_false_iff.2 fun active => absurd (kept e' active) (by simp [inactive])
  · rw [if_neg changed] at driven ⊢
    exact unbound e' member' driven

theorem remove (unbound : w.Unbound k) (id : Nat) : (w.remove id).Unbound k :=
  unbound.modify id (fun _ => rfl) fun _ active => active

/-- A new entity driven by another instance, or by none. -/
theorem create (unbound : w.Unbound k) (kind : String) (position : Vec2) {driver : Option Nat}
    (other : driver ≠ some k) : (w.create kind position driver).2.Unbound k := by
  intro e member driven
  simp only [World.create, List.mem_append, List.mem_singleton] at member
  rcases member with old | rfl
  · exact unbound e old driven
  · exact absurd driven other

theorem foldl_remove (unbound : w.Unbound k) (ids : List Nat) : (ids.foldl World.remove w).Unbound k := by
  induction ids generalizing w with
  | nil => exact unbound
  | cons id ids more => exact more (unbound.remove id)

theorem age (unbound : w.Unbound k) (dt : Float) : (w.age dt).Unbound k := by
  intro e member driven
  simp only [World.age, List.mem_map] at member
  obtain ⟨e', member', rfl⟩ := member
  by_cases aging : (e'.listed && e'.active) = true
  · rw [if_pos aging] at driven ⊢
    exact unbound e' member' driven
  · rw [if_neg aging] at driven ⊢
    exact unbound e' member' driven

end World.Unbound

namespace Session

/-- The session with the methods of instance `k` taken away. -/
def hideMethods (s : Session) (k : Nat) : Session :=
  s.modifyComponent k fun c => { c with methods := [] }

/-- Instance `k` is in the store and inactive, no method of it is running, and it drives no active entity. -/
structure Dormant (k : Nat) (s : Session) : Prop where
  below : k < s.store.size
  inactive : (s.component k).active = false
  idle : k ∉ s.callStack
  unbound : s.world.Unbound k

/-- `t` is `s` with the methods of instance `k` taken away, and `k` is dormant in `s`. -/
structure Hidden (k : Nat) (s t : Session) : Prop where
  hides : t = s.hideMethods k
  dormant : s.Dormant k

section Hide

variable (s : Session) (k : Nat)

/-! Hiding methods changes the store alone. -/

@[simp] theorem hideMethods_settings : (s.hideMethods k).settings = s.settings := rfl
@[simp] theorem hideMethods_platform : (s.hideMethods k).platform = s.platform := rfl
@[simp] theorem hideMethods_world : (s.hideMethods k).world = s.world := rfl
@[simp] theorem hideMethods_registry : (s.hideMethods k).registry = s.registry := rfl
@[simp] theorem hideMethods_callStack : (s.hideMethods k).callStack = s.callStack := rfl
@[simp] theorem hideMethods_destroying : (s.hideMethods k).destroying = s.destroying := rfl
@[simp] theorem hideMethods_events : (s.hideMethods k).events = s.events := rfl
@[simp] theorem hideMethods_scheduler : (s.hideMethods k).scheduler = s.scheduler := rfl
@[simp] theorem hideMethods_time : (s.hideMethods k).time = s.time := rfl
@[simp] theorem hideMethods_inTick : (s.hideMethods k).inTick = s.inTick := rfl
@[simp] theorem hideMethods_pendingEntities : (s.hideMethods k).pendingEntities = s.pendingEntities := rfl
@[simp] theorem hideMethods_log : (s.hideMethods k).log = s.log := rfl
@[simp] theorem hideMethods_usage : (s.hideMethods k).usage = s.usage := rfl
@[simp] theorem hideMethods_size : (s.hideMethods k).store.size = s.store.size := Array.size_modify
@[simp] theorem lookup?_hideMethods (name : String) : (s.hideMethods k).lookup? name = s.lookup? name := rfl

theorem component_hideMethods (j : Nat) :
    (s.hideMethods k).component j = if k = j then { s.component j with methods := [] } else s.component j := by
  simp only [component, hideMethods, modifyComponent, Array.getD_eq_getD_getElem?, Array.getElem?_modify]
  split
  · cases s.store[j]? <;> rfl
  · rfl

theorem component_hideMethods_of_ne {j : Nat} (other : j ≠ k) : (s.hideMethods k).component j = s.component j := by
  rw [component_hideMethods, if_neg (Ne.symm other)]

/-- Hiding methods keeps what a script reads of every instance. -/
theorem readAlike_hideMethods (j : Nat) : (s.component j).ReadAlike ((s.hideMethods k).component j) := by
  rw [component_hideMethods]
  split <;> exact ⟨rfl, rfl, rfl⟩

@[simp] theorem hideMethods_name (j : Nat) : ((s.hideMethods k).component j).name = (s.component j).name :=
  (readAlike_hideMethods s k j).name.symm

@[simp] theorem hideMethods_fields (j : Nat) : ((s.hideMethods k).component j).fields = (s.component j).fields :=
  (readAlike_hideMethods s k j).fields.symm

@[simp] theorem hideMethods_active (j : Nat) : ((s.hideMethods k).component j).active = (s.component j).active :=
  (readAlike_hideMethods s k j).active.symm

/-! What a script reads of a session: the texts of entities show instances by name, state and fields only. -/

theorem entityRecord_hideMethods (fuel : Nat) : (s.hideMethods k).entityRecord fuel = s.entityRecord fuel := by
  induction fuel with
  | zero => rfl
  | succ fuel deeper =>
    funext opened id
    rw [entityRecord, entityRecord, deeper]
    simp only [hideMethods_world, hideMethods_fields, hideMethods_name, hideMethods_active]
    rfl

@[simp] theorem entityText_hideMethods : (s.hideMethods k).entityText = s.entityText := by
  unfold entityText
  rw [entityRecord_hideMethods, hideMethods_size]
  rfl

@[simp] theorem activeSerials_hideMethods : (s.hideMethods k).activeSerials = s.activeSerials := by
  simp only [activeSerials, hideMethods_registry, hideMethods_active]

/-! Hiding methods commutes with every change a script makes of the instances. -/

/-- Changing an instance by a change that leaves methods alone, before or after hiding methods. -/
theorem hideMethods_modifyComponent (j : Nat) {f : Component → Component}
    (commutes : ∀ c, f { c with methods := [] } = { f c with methods := [] }) :
    (s.modifyComponent j f).hideMethods k = (s.hideMethods k).modifyComponent j f := by
  simp only [hideMethods, modifyComponent, Session.mk.injEq, and_true, true_and]
  refine Array.ext_getElem? fun i => ?_
  simp only [Array.getElem?_modify]
  by_cases atK : k = i
  · subst atK
    by_cases atJ : j = k
    · subst atJ
      simp only [if_true, Option.map_map]
      congr 1
      funext c
      exact (commutes c).symm
    · simp [atJ]
  · simp [atK]

/-- A new instance after all others, before or after hiding methods of one already there. -/
theorem hideMethods_push (below : k < s.store.size) (c : Component) :
    ({ s with store := s.store.push c } : Session).hideMethods k =
      { s.hideMethods k with store := (s.hideMethods k).store.push c } := by
  simp only [hideMethods, modifyComponent, Session.mk.injEq, and_true, true_and]
  refine Array.ext_getElem? fun i => ?_
  simp only [Array.getElem?_modify, Array.getElem?_push, Array.size_modify]
  by_cases atK : k = i
  · subst atK
    simp [Nat.ne_of_lt below]
  · simp [atK]

end Hide

/-- Retiring an entity: its driver deactivated, with the world and the pending entities the retirement leaves. -/
theorem retire_eq (s : Session) (e : Entity) :
    s.retire e = { e.component.elim s (fun j => s.modifyComponent j fun c => { c with active := false }) with
      world := (s.retire e).world, pendingEntities := (s.retire e).pendingEntities } := by
  rw [retire_world, retire_pendingEntities]
  unfold Session.retire
  by_cases ticking : s.inTick = true
  · cases e.component <;> simp only [ticking, if_true, Option.elim_none, Option.elim_some, modifyComponent]
  · cases e.component <;> simp only [ticking, Option.elim_none, Option.elim_some, modifyComponent] <;> rfl

/-- Retiring an entity, before or after hiding methods. -/
theorem hideMethods_retire (s : Session) (k : Nat) (e : Entity) :
    (s.retire e).hideMethods k = (s.hideMethods k).retire e := by
  have driver : (e.component.elim s fun j => s.modifyComponent j fun c => { c with active := false }).hideMethods k =
      e.component.elim (s.hideMethods k) fun j => (s.hideMethods k).modifyComponent j fun c => { c with active := false } := by
    cases e.component with
    | none => rfl
    | some j => exact hideMethods_modifyComponent s k j fun _ => rfl
  rw [retire_eq s e, retire_eq (s.hideMethods k) e, ← driver, retire_world, retire_world, retire_pendingEntities,
    retire_pendingEntities]
  rfl

theorem retire_callStack (s : Session) (e : Entity) : (s.retire e).callStack = s.callStack := by
  unfold Session.retire
  cases e.component <;> cases s.inTick <;> rfl

/-! ## Changes that keep an instance dormant -/

namespace Dormant

variable {k : Nat} {s t : Session}

/-- Instances kept inactive, the call stack as it was, and no active entity driven by `k`. -/
theorem of_keeps (dormant : s.Dormant k) (kept : KeepsInactive s t) (callStack : t.callStack = s.callStack)
    (unbound : t.world.Unbound k) : t.Dormant k :=
  ⟨(kept.still ⟨dormant.below, dormant.inactive⟩).1, (kept.still ⟨dormant.below, dormant.inactive⟩).2,
    callStack ▸ dormant.idle, unbound⟩

/-- A step that leaves the instances, the call stack and the world alone. -/
theorem of_books (dormant : s.Dormant k) (store : t.store = s.store) (callStack : t.callStack = s.callStack)
    (world : t.world = s.world) : t.Dormant k :=
  dormant.of_keeps (.of_store store) callStack (world ▸ dormant.unbound)

/-- Changing an instance in a way that never activates it. -/
theorem modifyComponent (dormant : s.Dormant k) (j : Nat) {f : Component → Component}
    (kept : ∀ c, (f c).active = true → c.active = true) : (s.modifyComponent j f).Dormant k :=
  dormant.of_keeps (.modifyComponent s j f kept) rfl dormant.unbound

/-- A method of another instance starting. -/
theorem enter (dormant : s.Dormant k) {j : Nat} (other : j ≠ k) (stats : RunStats) :
    ({ s with callStack := j :: s.callStack, stats } : Session).Dormant k :=
  { dormant with idle := by simp [Ne.symm other, dormant.idle] }

/-- The innermost running method ending. -/
theorem leave (dormant : s.Dormant k) : ({ s with callStack := s.callStack.tail } : Session).Dormant k :=
  { dormant with idle := fun running => dormant.idle (List.mem_of_mem_tail running) }

/-- Changing entities of one id in a way that keeps their driver and never activates them. -/
theorem modify_entity (dormant : s.Dormant k) (id : Nat) {g : Entity → Entity}
    (driver : ∀ e, (g e).component = e.component) (kept : ∀ e, (g e).active = true → e.active = true) :
    ({ s with world := s.world.modify id g } : Session).Dormant k :=
  { dormant with unbound := dormant.unbound.modify id driver kept }

/-- A new entity driven by another instance, or by none. -/
theorem create (dormant : s.Dormant k) (kind : String) (position : Vec2) {driver : Option Nat}
    (other : driver ≠ some k) : ({ s with world := (s.world.create kind position driver).2 } : Session).Dormant k :=
  { dormant with unbound := dormant.unbound.create kind position other }

/-- A new instance goes after all others. -/
theorem push (dormant : s.Dormant k) (c : Component) : ({ s with store := s.store.push c } : Session).Dormant k :=
  dormant.of_keeps (.push s c) rfl dormant.unbound

/-- Retiring an entity deactivates it and its driver, and takes it out of the table at once or later. -/
theorem retire (dormant : s.Dormant k) (e : Entity) : (s.retire e).Dormant k := by
  have deactivated := dormant.unbound.modify e.id (g := fun e => { e with active := false }) (fun _ => rfl)
    fun _ raised => absurd raised Bool.false_ne_true
  refine dormant.of_keeps (.retire s e) (retire_callStack s e) ?_
  rw [retire_world]
  split
  · exact deactivated
  · exact deactivated.remove e.id

end Dormant

namespace Hidden

variable {k : Nat} {s t : Session}

/-- A session with methods hidden, from one where the instance is dormant. -/
theorem hide (dormant : s.Dormant k) : Hidden k s (s.hideMethods k) := ⟨rfl, dormant⟩

/-- A change of the books, the same on both sides. -/
theorem of_books (hidden : Hidden k s t) {s' t' : Session} (hides : t' = s'.hideMethods k)
    (store : s'.store = s.store) (callStack : s'.callStack = s.callStack) (world : s'.world = s.world) :
    Hidden k s' t' :=
  ⟨hides, hidden.dormant.of_books store callStack world⟩

theorem component (hidden : Hidden k s t) (j : Nat) : (s.component j).ReadAlike (t.component j) := by
  rw [hidden.hides]
  exact readAlike_hideMethods s k j

theorem component_of_ne (hidden : Hidden k s t) {j : Nat} (other : j ≠ k) : t.component j = s.component j := by
  rw [hidden.hides]
  exact component_hideMethods_of_ne s k other

theorem readsAlike (hidden : Hidden k s t) : s.ReadsAlike t := by
  rw [hidden.hides]
  exact ⟨rfl, rfl, rfl, (entityText_hideMethods s k).symm, rfl, rfl, rfl, rfl, fun j => (hideMethods_name s k j).symm⟩

end Hidden

end Session

namespace Sim

open Session

variable {k : Nat}

/-! ## Steps that keep books, or read and change instances -/

/-- A change of a session that commutes with hiding methods and keeps the instance dormant. -/
theorem modify_hidden {g : Session → Session} (commutes : ∀ s, (g s).hideMethods k = g (s.hideMethods k))
    (kept : ∀ s, s.Dormant k → (g s).Dormant k) : Related (Hidden k) Eq (modify g) (modify g) :=
  Related.modify fun s t hidden => ⟨by rw [hidden.hides, commutes], kept s hidden.dormant⟩

/-- A change of the books alone, the same on both sides. -/
theorem books_hidden {g : Session → Session} (commutes : ∀ s, (g s).hideMethods k = g (s.hideMethods k))
    (store : ∀ s, (g s).store = s.store) (callStack : ∀ s, (g s).callStack = s.callStack)
    (world : ∀ s, (g s).world = s.world) : Related (Hidden k) Eq (modify g) (modify g) :=
  modify_hidden commutes fun s dormant => dormant.of_books (store s) (callStack s) (world s)

theorem log_hidden (level : LogLevel) (message : String) (entity : Option Nat) :
    Related (Hidden k) Eq (log level message entity) (log level message entity) :=
  books_hidden (fun _ => rfl) (fun _ => rfl) (fun _ => rfl) fun _ => rfl

theorem note_hidden (level : LogLevel) (channel message : String) :
    Related (Hidden k) Eq (note level channel message) (note level channel message) :=
  books_hidden (fun _ => rfl) (fun _ => rfl) (fun _ => rfl) fun _ => rfl

theorem countUse_hidden (name : String) : Related (Hidden k) Eq (countUse name) (countUse name) := by
  refine books_hidden (fun s => ?_) (fun s => ?_) (fun s => ?_) fun s => ?_ <;>
    by_cases used : s.usage.any (·.1 == name) = true <;> simp only [hideMethods_usage, used, if_true] <;> rfl

theorem countEvaluation_hidden : Related (Hidden k) Eq countEvaluation countEvaluation :=
  books_hidden (fun _ => rfl) (fun _ => rfl) (fun _ => rfl) fun _ => rfl

theorem countStatement_hidden : Related (Hidden k) Eq countStatement countStatement :=
  books_hidden (fun _ => rfl) (fun _ => rfl) (fun _ => rfl) fun _ => rfl

theorem share_hidden (v : Value) : Related (Hidden k) Eq (share v) (share v) := by
  intro s t hidden
  rw [share_run, share_run, hidden.hides]
  exact EndsRelated.ok rfl (hidden.of_books rfl rfl rfl rfl)

theorem shareVec2_hidden (v : Vec2) : Related (Hidden k) Eq (shareVec2 v) (shareVec2 v) := by
  intro s t hidden
  rw [shareVec2_run, shareVec2_run, hidden.hides]
  exact EndsRelated.ok rfl (hidden.of_books rfl rfl rfl rfl)

theorem uniform_hidden : Related (Hidden k) Eq uniform uniform := by
  intro s t hidden
  rw [hidden.hides]
  exact EndsRelated.ok rfl (hidden.of_books rfl rfl rfl rfl)

/-- Reading an instance: what a script reads of it is the same, and so is all of it unless it is `k`. -/
theorem component_hidden (serial : Nat) :
    Related (Hidden k) (fun c c' => c.ReadAlike c' ∧ (serial ≠ k → c' = c)) (component serial)
      (component serial) :=
  fun _ _ hidden => EndsRelated.ok ⟨hidden.component serial, hidden.component_of_ne⟩ hidden

/-- Reading the dormant instance itself: inactive on both sides. -/
theorem component_hidden_self :
    Related (Hidden k) (fun c c' => c.active = false ∧ c'.active = false) (component k) (component k) :=
  fun _ _ hidden => EndsRelated.ok
    ⟨hidden.dormant.inactive, (hidden.component k).active ▸ hidden.dormant.inactive⟩ hidden

/-- Changing an instance on both sides, by a change that leaves methods alone and never activates. -/
theorem modifyComponent_hidden (serial : Nat) {f : Component → Component}
    (commutes : ∀ c, f { c with methods := [] } = { f c with methods := [] })
    (kept : ∀ c, (f c).active = true → c.active = true) :
    Related (Hidden k) Eq (modifyComponent serial f) (modifyComponent serial f) :=
  modify_hidden (fun s => hideMethods_modifyComponent s k serial commutes) fun _ dormant =>
    dormant.modifyComponent serial kept

/-- The built-ins that run no script read a dormant instance only by name, fields and activity, and never change it. -/
theorem hidden_faithful : Faithful (Hidden k) where
  uniform := uniform_hidden
  shareVec2 := shareVec2_hidden
  log := log_hidden
  note := note_hidden
  reads _ _ hidden := hidden.readsAlike
  moves _ _ id _ driver kept hidden := ⟨by rw [hidden.hides]; rfl, hidden.dormant.modify_entity id driver kept⟩
  schedules _ _ _ hidden := hidden.of_books (by rw [hidden.hides]; rfl) rfl rfl rfl
  subscribes _ _ _ hidden := hidden.of_books (by rw [hidden.hides]; rfl) rfl rfl rfl

end Sim

end GameScript

import GameScript.Proofs.Frames

/-!
# The lifecycle of entities and the registry under running scripts

An id of the world goes through four standings in order: no entity has it
yet, its entity is active in the table, its entity was destroyed during a
running tick and waits in the table, and its entity is out of the table. An
entity destroyed outside a tick leaves the table at once.

`Session.Evolves s t` collects what a running script can do to a session
beyond its books: nothing to the settings, the registry, the names of the
instances or the scheduler's limit; the world's next id only grows; every id
only moves forward through its standings, and during a tick none leaves the
table. It also keeps three invariants: ids are handed out in order
(`World.Numbered`), the entities waiting for removal were handed out and are
inactive (`Session.Retired`), and the registry names every instance once by
the name it carries (`Session.Named`).

Every kind of step a script takes keeps `Evolves`, so every run of the
interpreter does (`evolves_runs`).
-/

namespace GameScript

/-- How far the entity of an id has come. -/
inductive Standing where
  /-- No entity has the id yet. -/
  | unborn
  /-- The entity is active in the table. -/
  | live
  /-- The entity was destroyed during a running tick and waits in the table for its end. -/
  | dying
  /-- The entity is out of the table. -/
  | gone
  deriving DecidableEq, Repr

namespace Standing

/-- Standings in the order an entity goes through them. -/
def rank : Standing → Nat
  | unborn => 0
  | live => 1
  | dying => 2
  | gone => 3

/-- The standing of an entity that is active or not, and in the table or not. -/
def of (active listed : Bool) : Standing :=
  if !listed then gone else if active then live else dying

/-- Deactivating an entity: a live one starts dying. -/
def deactivate : Standing → Standing
  | live => dying
  | s => s

/-- Taking an entity out of the table: every created one is gone. -/
def unlist : Standing → Standing
  | unborn => unborn
  | _ => gone

/-- What the end of a tick makes of a standing: an entity waiting for it leaves the table. -/
def settle : Standing → Standing
  | dying => gone
  | s => s

@[simp] theorem deactivate_of (active listed : Bool) : (of active listed).deactivate = of false listed := by
  cases active <;> cases listed <;> rfl

@[simp] theorem unlist_of (active listed : Bool) : (of active listed).unlist = of active false := by
  cases active <;> cases listed <;> rfl

theorem rank_pos_iff (s : Standing) : 0 < s.rank ↔ s ≠ unborn := by
  cases s <;> decide

theorem rank_le_deactivate (s : Standing) : s.rank ≤ s.deactivate.rank := by
  cases s <;> decide

theorem rank_le_unlist (s : Standing) : s.rank ≤ s.unlist.rank := by
  cases s <;> decide

/-- What retiring an entity makes of its standing: it waits for the end of a running tick, or is gone. -/
def retire (inTick : Bool) (s : Standing) : Standing :=
  if inTick then s.deactivate else s.unlist

theorem rank_le_retire (inTick : Bool) (s : Standing) : s.rank ≤ (s.retire inTick).rank := by
  unfold retire
  split
  · exact rank_le_deactivate s
  · exact rank_le_unlist s

theorem of_ne_unborn (active listed : Bool) : of active listed ≠ unborn := by
  cases active <;> cases listed <;> decide

end Standing

/-- What the lifecycle of an id reads of its entity's outline. -/
def Entity.standing (o : Nat × Bool × Bool) : Standing := Standing.of o.2.1 o.2.2

namespace World

/-- The outlines of the entities, by id. -/
def outlines (w : World) : List (Nat × Bool × Bool) := w.entities.map Entity.outline

/-- The standing of the entity of an id. -/
def standing (w : World) (id : Nat) : Standing :=
  ((w.outlines.find? (·.1 == id)).map Entity.standing).getD .unborn

/-- Ids are handed out from one upward: the entities carry `1, 2, …` in order, and the next id follows. -/
def Numbered (w : World) : Prop :=
  w.outlines.map (·.1) = List.range' 1 w.outlines.length ∧ w.nextId = w.outlines.length + 1

/--
A change of the outlines that keeps ids moves each standing by a map that
keeps `unborn`, when the change acts on the outlines of that id as the map
acts on their standings.
-/
theorem standing_of_map {w w' : World} (m : Nat × Bool × Bool → Nat × Bool × Bool)
    (keep : ∀ o, (m o).1 = o.1) (outlines : w'.outlines = w.outlines.map m)
    (g : Standing → Standing) (unborn : g .unborn = .unborn) (id : Nat)
    (acts : ∀ o : Nat × Bool × Bool, o.1 = id → Entity.standing (m o) = g (Entity.standing o)) :
    w'.standing id = g (w.standing id) := by
  unfold standing
  rw [outlines, List.find?_map]
  have samePick : ((fun o : Nat × Bool × Bool => o.1 == id) ∘ m) = (·.1 == id) := by
    funext o
    simp [keep]
  rw [samePick]
  cases found : w.outlines.find? (·.1 == id) with
  | none => simpa using unborn.symm
  | some o =>
    have same : o.1 = id := by simpa using List.find?_some found
    simpa using acts o same

theorem outlines_create (w : World) (kind : String) (position : Vec2) (driver : Option Nat) :
    (w.create kind position driver).2.outlines = w.outlines ++ [(w.nextId, true, true)] := by
  simp [outlines, create, Entity.outline]

/-- Changing the entities of one id acts on their outlines alone when the change reads only the outline. -/
theorem outlines_modify (w : World) (id : Nat) (f : Entity → Entity)
    (h : Nat × Bool × Bool → Nat × Bool × Bool) (acts : ∀ e, (f e).outline = h e.outline) :
    (w.modify id f).outlines = w.outlines.map fun o => if o.1 == id then h o else o := by
  simp only [outlines, modify, List.map_map]
  refine List.map_congr_left fun e _ => ?_
  have ident : e.outline.1 = e.id := rfl
  by_cases same : e.id = id <;> simp [same, acts, ident]

theorem outlines_age (w : World) (dt : Float) : (w.age dt).outlines = w.outlines := by
  simp only [outlines, age, List.map_map]
  refine List.map_congr_left fun e _ => ?_
  simp only [Function.comp_apply]
  split <;> rfl

/-- Creating an entity gives the next id its entity, and no other standing changes. -/
theorem standing_create (w : World) (kind : String) (position : Vec2) (driver : Option Nat)
    (id : Nat) :
    (w.create kind position driver).2.standing id =
      if w.standing id = .unborn ∧ id = w.nextId then .live else w.standing id := by
  unfold standing
  rw [outlines_create, List.find?_append]
  cases found : w.outlines.find? (·.1 == id) with
  | some o => simp [Entity.standing, Standing.of_ne_unborn]
  | none =>
    by_cases same : id = w.nextId
    · simp [same, Entity.standing, Standing.of]
    · have other : (w.nextId == id) = false := by simpa using Ne.symm same
      simp [other, same]

/-- Deactivating the entities of an id moves a live id to dying. -/
theorem standing_deactivate (w : World) (id other : Nat) :
    (w.modify id fun e => { e with active := false }).standing other =
      if other = id then (w.standing other).deactivate else w.standing other := by
  have outlines := outlines_modify w id (fun e => { e with active := false })
    (fun o => (o.1, false, o.2.2)) fun _ => rfl
  by_cases here : other = id
  · rw [if_pos here]
    refine standing_of_map _ (fun o => by split <;> rfl) outlines _ rfl other fun o same => ?_
    simp [same, here, Entity.standing]
  · rw [if_neg here]
    refine standing_of_map _ (fun o => by split <;> rfl) outlines (fun standing => standing) rfl
      other fun o same => ?_
    simp [same, here]

/-- Taking the entities of an id out of the table makes it gone, if it was created. -/
theorem standing_remove (w : World) (id other : Nat) :
    (w.remove id).standing other =
      if other = id then (w.standing other).unlist else w.standing other := by
  have outlines : (w.remove id).outlines = _ := outlines_modify w id
    (fun e => { e with listed := false }) (fun o => (o.1, o.2.1, false)) fun _ => rfl
  by_cases here : other = id
  · rw [if_pos here]
    refine standing_of_map _ (fun o => by split <;> rfl) outlines _ rfl other fun o same => ?_
    simp [same, here, Entity.standing]
  · rw [if_neg here]
    refine standing_of_map _ (fun o => by split <;> rfl) outlines (fun standing => standing) rfl
      other fun o same => ?_
    simp [same, here]

theorem standing_age (w : World) (dt : Float) (id : Nat) : (w.age dt).standing id = w.standing id := by
  simp only [standing, outlines_age]

/-- Taking the entities of some ids out of the table makes each of those that was created gone. -/
theorem standing_foldl_remove (ids : List Nat) (w : World) (id : Nat) :
    (ids.foldl remove w).standing id = if id ∈ ids then (w.standing id).unlist else w.standing id := by
  induction ids generalizing w with
  | nil => simp
  | cons first rest more =>
    rw [List.foldl_cons, more, standing_remove]
    by_cases here : id = first <;> by_cases later : id ∈ rest <;>
      cases w.standing id <;> simp [here, later, Standing.unlist]

/-- An entity of the world gives its id a standing. -/
theorem standing_ne_unborn_of_mem {w : World} {e : Entity} (member : e ∈ w.entities) :
    w.standing e.id ≠ .unborn := by
  unfold standing
  cases found : w.outlines.find? (·.1 == e.id) with
  | none =>
    have absent := List.find?_eq_none.1 found e.outline (List.mem_map_of_mem member)
    simp [Entity.outline] at absent
  | some o => simpa [Entity.standing] using Standing.of_ne_unborn o.2.1 o.2.2

/-- In a numbered world an id with a standing was handed out. -/
theorem lt_nextId_of_standing {w : World} (numbered : w.Numbered) {id : Nat}
    (created : w.standing id ≠ .unborn) : id < w.nextId := by
  unfold standing at created
  cases found : w.outlines.find? (·.1 == id) with
  | none => simp [found] at created
  | some o =>
    have same : o.1 = id := by simpa using List.find?_some found
    have listed : id ∈ w.outlines.map (·.1) := same ▸ List.mem_map_of_mem (List.mem_of_find?_eq_some found)
    rw [numbered.1, List.mem_range'_1] at listed
    have next := numbered.2
    omega

theorem numbered_create {w : World} (numbered : w.Numbered) (kind : String) (position : Vec2)
    (driver : Option Nat) : (w.create kind position driver).2.Numbered := by
  obtain ⟨ids, next⟩ := numbered
  refine ⟨?_, ?_⟩
  · rw [outlines_create, List.map_append, ids, List.length_append, next, List.length_singleton,
      List.range'_concat]
    simp only [List.map_cons, List.map_nil]
    congr 2
    omega
  · rw [outlines_create, List.length_append, List.length_singleton, ← next]
    rfl

/-- A change of the entities that keeps ids keeps the numbering. -/
theorem numbered_of_outlines {w w' : World} (numbered : w.Numbered)
    (h : Nat × Bool × Bool → Nat × Bool × Bool) (keep : ∀ o, (h o).1 = o.1)
    (outlines : w'.outlines = w.outlines.map h) (next : w'.nextId = w.nextId) : w'.Numbered := by
  obtain ⟨ids, nextId⟩ := numbered
  refine ⟨?_, ?_⟩
  · rw [outlines, List.map_map, List.length_map, ← ids]
    exact List.map_congr_left fun o _ => keep o
  · rw [next, nextId, outlines, List.length_map]

end World

namespace Session

open World

/-- The entities waiting for removal were handed out, and all entities of their ids are inactive. -/
def Retired (s : Session) : Prop :=
  ∀ id ∈ s.pendingEntities, id < s.world.nextId ∧ ∀ o ∈ s.world.outlines, o.1 = id → o.2.1 = false

/-- The registry names every instance once, by the name the instance carries. -/
def Named (s : Session) : Prop :=
  (s.registry.map (·.1)).Nodup ∧
    ∀ p ∈ s.registry, p.2 < s.store.size ∧ (s.component p.2).name = p.1

/-- What a running script can do to a session beyond its books. -/
structure Evolves (s t : Session) : Prop where
  settings : t.settings = s.settings
  registry : t.registry = s.registry
  size : t.store.size = s.store.size
  names : ∀ serial, (t.component serial).name = (s.component serial).name
  inTick : t.inTick = s.inTick
  ticks : t.ticks = s.ticks
  perTick : t.scheduler.perTick = s.scheduler.perTick
  nextId : s.world.nextId ≤ t.world.nextId
  later : ∀ id, (s.world.standing id).rank ≤ (t.world.standing id).rank
  staying : s.inTick = true → ∀ id, t.world.standing id = .gone → s.world.standing id = .gone
  numbered : s.world.Numbered → t.world.Numbered
  retired : s.world.Numbered → s.Retired → t.Retired

theorem Evolves.refl (s : Session) : Evolves s s :=
  ⟨rfl, rfl, rfl, fun _ => rfl, rfl, rfl, rfl, Nat.le_refl _, fun _ => Nat.le_refl _,
    fun _ _ gone => gone, id, fun _ => id⟩

theorem Evolves.trans {s t u : Session} (first : Evolves s t) (second : Evolves t u) :
    Evolves s u where
  settings := second.settings.trans first.settings
  registry := second.registry.trans first.registry
  size := second.size.trans first.size
  names serial := (second.names serial).trans (first.names serial)
  inTick := second.inTick.trans first.inTick
  ticks := second.ticks.trans first.ticks
  perTick := second.perTick.trans first.perTick
  nextId := Nat.le_trans first.nextId second.nextId
  later id := Nat.le_trans (first.later id) (second.later id)
  staying ticking id gone :=
    first.staying ticking id (second.staying (first.inTick.trans ticking) id gone)
  numbered := second.numbered ∘ first.numbered
  retired numbered retired :=
    second.retired (first.numbered numbered) (first.retired numbered retired)

instance : IsPreorder Session Evolves where
  refl := Evolves.refl
  trans _ _ _ := Evolves.trans

/-- A quiet step leaves the outlines, so every standing, the numbering and the waiting entities as they were. -/
theorem Evolves.of_quiet {s t : Session} (quiet : Quiet s t) : Evolves s t := by
  have outlines : t.world.outlines = s.world.outlines := quiet.outline
  have standings : ∀ id, t.world.standing id = s.world.standing id := fun id => by
    simp only [standing, outlines]
  refine ⟨quiet.settings, quiet.registry, by rw [quiet.store],
    fun _ => by rw [Session.component, Session.component, quiet.store], quiet.inTick,
    quiet.ticks, quiet.perTick, Nat.le_of_eq quiet.nextId.symm,
    fun id => Nat.le_of_eq (congrArg Standing.rank (standings id).symm),
    fun _ id gone => standings id ▸ gone, fun numbered => ?_, fun _ retired id pending => ?_⟩
  · exact numbered_of_outlines numbered id (fun _ => rfl) (by simpa using outlines) quiet.nextId
  · rw [quiet.pendingEntities] at pending
    rw [quiet.nextId, outlines]
    exact retired id pending

/-- Changing an instance in a way that keeps its name keeps the names of all. -/
theorem component_modifyComponent_name (s : Session) (serial : Nat) (f : Component → Component)
    (named : ∀ c, (f c).name = c.name) (other : Nat) :
    ((s.modifyComponent serial f).component other).name = (s.component other).name := by
  simp only [Session.component, Session.modifyComponent, Array.getD_eq_getD_getElem?,
    Array.getElem?_modify]
  split
  · cases s.store[other]? <;> simp [named]
  · rfl

theorem Evolves.modifyComponent (s : Session) (serial : Nat) (f : Component → Component)
    (named : ∀ c, (f c).name = c.name) : Evolves s (s.modifyComponent serial f) :=
  ⟨rfl, rfl, Array.size_modify, component_modifyComponent_name s serial f named, rfl, rfl, rfl,
    Nat.le_refl _, fun _ => Nat.le_refl _, fun _ _ gone => gone, id, fun _ => id⟩

/--
Creating an entity evolves a session: the new entity takes the next id, which
no waiting entity has.
-/
theorem Evolves.create (s : Session) (kind : String) (position : Vec2) (driver : Option Nat) :
    Evolves s { s with world := (s.world.create kind position driver).2 } := by
  refine ⟨rfl, rfl, rfl, fun _ => rfl, rfl, rfl, rfl, Nat.le_succ _, fun id => ?_,
    fun _ id gone => ?_, fun numbered => numbered_create numbered kind position driver,
    fun _ retired id pending => ?_⟩
  · rw [standing_create]
    split
    · next fresh => rw [fresh.1]; decide
    · exact Nat.le_refl _
  · rw [standing_create] at gone
    split at gone
    · cases gone
    · exact gone
  · obtain ⟨handed, inactive⟩ := retired id pending
    refine ⟨Nat.lt_succ_of_lt handed, fun o member same => ?_⟩
    rw [outlines_create, List.mem_append, List.mem_singleton] at member
    rcases member with old | rfl
    · exact inactive o old same
    · exact absurd same (Nat.ne_of_gt handed)

/-! ## Retiring an entity -/

section Retire

variable (t : Session) (e : Entity)

theorem retire_world :
    (t.retire e).world =
      if t.inTick then t.world.modify e.id (fun e => { e with active := false })
      else (t.world.modify e.id fun e => { e with active := false }).remove e.id := by
  unfold Session.retire
  cases e.component <;> cases t.inTick <;> rfl

theorem retire_pendingEntities :
    (t.retire e).pendingEntities =
      if t.inTick then t.pendingEntities ++ [e.id] else t.pendingEntities := by
  unfold Session.retire
  cases e.component <;> cases t.inTick <;> rfl

/-- Retiring an entity leaves the settings, the registry, the tick and the scheduler, and keeps the instances' names. -/
theorem retire_frame :
    (t.retire e).settings = t.settings ∧ (t.retire e).registry = t.registry ∧
      (t.retire e).store.size = t.store.size ∧
      (∀ serial, ((t.retire e).component serial).name = (t.component serial).name) ∧
      (t.retire e).inTick = t.inTick ∧ (t.retire e).ticks = t.ticks ∧
      (t.retire e).scheduler = t.scheduler := by
  unfold Session.retire
  cases e.component with
  | none => cases t.inTick <;> exact ⟨rfl, rfl, rfl, fun _ => rfl, rfl, rfl, rfl⟩
  | some serial =>
    have names := component_modifyComponent_name
      { t with world := t.world.modify e.id fun e => { e with active := false } } serial
      (fun c => { c with active := false }) fun _ => rfl
    cases t.inTick <;> exact ⟨rfl, rfl, Array.size_modify, names, rfl, rfl, rfl⟩

/-- Retiring an entity changes the standing of its id alone. -/
theorem standing_retire (id : Nat) :
    (t.retire e).world.standing id =
      if id = e.id then (t.world.standing id).retire t.inTick else t.world.standing id := by
  rw [retire_world]
  by_cases here : id = e.id <;> cases ticking : t.inTick <;>
    simp [here, standing_remove, standing_deactivate, Standing.retire]
  cases t.world.standing e.id <;> rfl

theorem outlines_retire :
    (t.retire e).world.outlines = t.world.outlines.map fun o =>
      if o.1 == e.id then (o.1, false, o.2.2 && t.inTick) else o := by
  rw [retire_world]
  have deactivated := outlines_modify t.world e.id (fun e => { e with active := false })
    (fun o => (o.1, false, o.2.2)) fun _ => rfl
  cases ticking : t.inTick
  · have removed := outlines_modify (t.world.modify e.id fun e => { e with active := false }) e.id
      (fun e => { e with listed := false }) (fun o => (o.1, o.2.1, false)) fun _ => rfl
    simp only [if_false, Bool.false_eq_true]
    rw [show ∀ w : World, w.remove e.id = w.modify e.id fun e => { e with listed := false } from
      fun _ => rfl, removed, deactivated, List.map_map]
    refine List.map_congr_left fun o _ => ?_
    by_cases here : o.1 = e.id <;> simp [here]
  · simp only [if_true, deactivated]
    refine List.map_congr_left fun o _ => ?_
    by_cases here : o.1 = e.id <;> simp [here]

/--
Retiring an entity that was handed out keeps what a running script keeps.
Inside a tick a retired entity waits in the table, inactive like the others
waiting.
-/
theorem Evolves.retire (handed : t.world.Numbered → e.id < t.world.nextId) :
    Evolves t (t.retire e) := by
  obtain ⟨settings, registry, size, names, inTick, ticks, scheduler⟩ := retire_frame t e
  have sameNext : (t.retire e).world.nextId = t.world.nextId := by
    rw [retire_world]
    split <;> rfl
  refine ⟨settings, registry, size, names, inTick, ticks, by rw [scheduler], Nat.le_of_eq sameNext.symm,
    fun id => ?_, fun ticking id gone => ?_, fun numbered => ?_, fun numbered retired id pending => ?_⟩
  · rw [standing_retire]
    split
    · exact Standing.rank_le_retire _ _
    · exact Nat.le_refl _
  · rw [standing_retire] at gone
    split at gone
    · rename_i here
      revert gone
      rw [ticking]
      cases t.world.standing id <;> simp [Standing.retire, Standing.deactivate]
    · exact gone
  · refine numbered_of_outlines numbered _ (fun o => by split <;> rfl) (outlines_retire t e)
      sameNext
  · rw [retire_pendingEntities] at pending
    rw [sameNext, outlines_retire]
    have queued : id ∈ t.pendingEntities ∨ id = e.id := by
      split at pending
      · simpa using pending
      · exact Or.inl pending
    refine ⟨?_, fun o member same => ?_⟩
    · rcases queued with waiting | rfl
      · exact (retired id waiting).1
      · exact handed numbered
    · obtain ⟨o, old, rfl⟩ := List.mem_map.1 member
      by_cases here : o.1 = e.id
      · simp [here]
      · simp only [here, beq_iff_eq, if_false] at same ⊢
        rcases queued with waiting | rfl
        · exact (retired id waiting).2 o old same
        · exact absurd same here

end Retire

/--
Every kind of step a running script takes keeps `Evolves`. The call stack and
the marks of entities being destroyed are no part of `Evolves`, and an entity
had a standing when its destruction began.
-/
theorem evolves_steps : Sim.StepsKeep Evolves where
  quiet _ _ := Evolves.of_quiet
  modifyComponent s serial f named _ _ _ := Evolves.modifyComponent s serial f named
  enter _ _ _ _ related := ⟨related.settings, related.registry, related.size, related.names,
    related.inTick, related.ticks, related.perTick, related.nextId, related.later, related.staying,
    related.numbered, related.retired⟩
  mark _ _ _ _ related := ⟨related.settings, related.registry, related.size, related.names,
    related.inTick, related.ticks, related.perTick, related.nextId, related.later, related.staying,
    related.numbered, related.retired⟩
  create := Evolves.create
  retire s t e present related := by
    refine related.trans (Evolves.retire t e fun numbered => lt_nextId_of_standing numbered ?_)
    have before := (Standing.rank_pos_iff _).2 (standing_ne_unborn_of_mem present)
    exact (Standing.rank_pos_iff _).1 (Nat.lt_of_lt_of_le before (related.later e.id))

/-- Every function of the interpreter keeps `Evolves`, whatever it raises. -/
theorem evolves_runs (frames : Nat) : Sim.RunsKeep Evolves frames :=
  evolves_steps.runs frames

end Session

end GameScript

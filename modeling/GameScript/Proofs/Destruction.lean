import GameScript.Proofs.Invariants

/-!
# Destroying an entity

A destruction names its entity by a value: an entity itself, or a number
whose integer part is the id.  It goes ahead only for an entity that is
active in the table and whose `onDestroy` is not running
(`Session.Destroyable`); on any other it answers false and changes nothing.
Once it goes ahead it answers true: it runs `onDestroy` with the entity
marked, broadcasts `entityDestroyed`, and retires the entity, which outside a
tick leaves the table (`destroyEntity_ends`).

The mark covers `onDestroy` only.  While `entityDestroyed` is broadcast the
entity is still active and unmarked, so a handler that destroys it again
goes ahead a second time: `onDestroy` runs again, the event is broadcast
again, and that nested destruction answers true too.  What holds between the
host's requests is weaker but exact: between two resets a host's request to
destroy an id answers true at most once, since the first that does leaves
the id out of the table for good (`destroy_guarded_and_answered_once`).
-/

namespace GameScript

/-- The id a destruction's target names: an entity's own id, or the integer part of a number. -/
def Value.entityId : Value → Except Fault Int
  | .entity id => .ok id
  | v => v.toNumber.truncate

namespace World

/-- Ids are handed out in order, so no two entities share one. -/
theorem Numbered.nodup_ids {w : World} (numbered : w.Numbered) : (w.outlines.map (·.1)).Nodup := by
  rw [numbered.1]
  exact List.nodup_range'

/--
With ids apart, the entity of the table with an id gives that id its standing.
The first outline of the id is the entity's own.
-/
theorem standing_of_get? {w : World} (numbered : w.Numbered) {id : Nat} {e : Entity}
    (found : w.get? id = some e) : w.standing id = Standing.of e.active true := by
  have member := mem_of_get? found
  obtain ⟨same, listed⟩ : e.id = id ∧ e.listed = true := by
    simpa using List.find?_some found
  obtain ⟨o, first⟩ : ∃ o, w.outlines.find? (·.1 == id) = some o :=
    Option.isSome_iff_exists.1 (List.find?_isSome.2
      ⟨e.outline, List.mem_map_of_mem member, by simp [Entity.outline, same]⟩)
  have sameId : o.1 = e.outline.1 := by
    simpa [Entity.outline, same] using List.find?_some first
  have : o = e.outline := List.inj_on_of_nodup_map numbered.nodup_ids
    (List.mem_of_find?_eq_some first) (List.mem_map_of_mem member) sameId
  simp [standing, first, this, Entity.standing, Entity.outline, listed]

/-- An id out of the table names no entity of it. -/
theorem get?_eq_none_of_gone {w : World} (numbered : w.Numbered) {id : Nat}
    (gone : w.standing id = .gone) : w.get? id = none := by
  cases found : w.get? id with
  | none => rfl
  | some e =>
    rw [standing_of_get? numbered found] at gone
    cases active : e.active <;> simp [active, Standing.of] at gone

end World

namespace Session

/-- An entity whose destruction can go ahead: active in the table, and not in its `onDestroy`. -/
def Destroyable (s : Session) (id : Int) : Prop :=
  0 ≤ id ∧ ∃ e, s.world.get? id.toNat = some e ∧ e.active = true ∧ e.id ∉ s.destroying

/-- A destruction of the entity of `id` may run a script: the entity drives an instance, or some instance is active to hear the broadcast. -/
def Heard (s : Session) (id : Int) : Prop :=
  s.activeSerials ≠ [] ∨ ∃ e serial, s.world.get? id.toNat = some e ∧ e.component = some serial

/-- An id out of the table can be destroyed no more. -/
theorem not_destroyable_of_gone {s : Session} (numbered : s.world.Numbered) {id : Int}
    (gone : s.world.standing id.toNat = .gone) : ¬ s.Destroyable id := by
  rintro ⟨_, e, found, _⟩
  rw [World.get?_eq_none_of_gone numbered gone] at found
  cases found

/--
How a destruction of the entity of `id` from `s` ends in `t`: it answers
whether the entity could be destroyed; answering false it changed nothing,
and answering true outside a tick it left the id out of the table.
-/
structure Destroyed (s : Session) (id : Int) (answer : Bool) (t : Session) : Prop where
  answers : answer = true ↔ s.Destroyable id
  unchanged : answer = false → t = s
  gone : answer = true → s.inTick = false → t.world.standing id.toNat = .gone

/-- A refused destruction answers false and leaves the session as it was. -/
theorem Destroyed.of_refused {s : Session} {id : Int} (refused : ¬ s.Destroyable id) :
    Destroyed s id false s :=
  ⟨by simp [refused], fun _ => rfl, fun answered => absurd answered Bool.false_ne_true⟩

/-- Marking an entity as being destroyed, and unmarking it, is no part of `Evolves`. -/
theorem Evolves.destroying (s : Session) (marks : List Nat) :
    Evolves s { s with destroying := marks } :=
  ⟨rfl, rfl, rfl, fun _ => rfl, rfl, rfl, rfl, Nat.le_refl _, fun _ => Nat.le_refl _,
    fun _ _ gone => gone, id, fun _ => id⟩

end Session

namespace Sim

open Session

/-- The guard of a destruction: the entity the id names in the table, if it may be destroyed. -/
theorem destroyable_iff {s : Session} {id : Int} :
    s.Destroyable id ↔ ∃ e, (if id < 0 then none else s.world.get? id.toNat) = some e ∧
      (!e.active || s.destroying.contains e.id) = false := by
  constructor
  · rintro ⟨nonneg, e, found, active, unmarked⟩
    exact ⟨e, by simp [Int.not_lt.2 nonneg, found], by simp [active, unmarked]⟩
  · rintro ⟨e, found, fresh⟩
    have nonneg : 0 ≤ id := by
      by_contra negative
      simp [Int.not_le.1 negative] at found
    simp only [Int.not_lt.2 nonneg, if_false] at found
    simp only [Bool.or_eq_false_iff, Bool.not_eq_eq_eq_not, Bool.not_false] at fresh
    exact ⟨nonneg, e, found, fresh.1, by simpa using fresh.2⟩

/-- An event no active instance can hear reaches nobody: the broadcast ends well, answering no calls, and changes nothing but books. -/
theorem broadcast_unheard (f : Nat) (event : String) (payload : Value) {s : Session}
    (silent : s.activeSerials = []) :
    Ends (broadcast (f + 1) event payload) s (fun n t => n = 0 ∧ t.world = s.world ∧ Quiet s t)
      fun _ _ => False := by
  rw [broadcast]
  simp only [share, ends_bind, ends_get, ends_set, ends_pure]
  have nobody : ({ s with nextIdent := (payload.stamp s.nextIdent).2 } : Session).activeSerials = [] :=
    silent
  simp only [nobody, List.map_nil]
  rw [List.flatMap_eq_nil_iff.2 fun _ _ => rfl, dispatch]
  exact ⟨rfl, rfl, Quiet.of_books s⟩

/--
The last steps of a destruction that went ahead: retiring the entity and
logging it answer true, and outside a tick leave the id out of the table,
whatever ran since the destruction began. The entity had a standing when the
destruction began, and standings only move forward.
-/
theorem retire_destroyed {s u : Session} {id : Int} {e : Entity} {err : Fault → Session → Prop}
    (going : s.Destroyable id) (named : e.id = id.toNat) (present : e ∈ s.world.entities)
    (later : Evolves s u) :
    Ends (do
        modify fun s => s.retire e
        log .info ("Entity destroyed: " ++ e.name) (some e.id)
        pure true) u (Destroyed s id) err := by
  rw [ends_bind, ends_modify, ends_bind]
  refine (log_quiet (fun _ => False) _ _ _).ends _ (fun _ v quiet => ?_) fun _ _ raised _ =>
    raised.elim
  refine ⟨by simpa using going, fun refused => absurd refused.symm Bool.false_ne_true,
    fun _ outside => ?_⟩
  have standings : v.world.standing id.toNat = (u.retire e).world.standing id.toNat := by
    simp only [World.standing, World.outlines, quiet.outline]
  rw [standings, ← named, standing_retire, if_pos rfl, later.inTick, outside]
  have before := (Standing.rank_pos_iff _).2 (World.standing_ne_unborn_of_mem present)
  have born := (Standing.rank_pos_iff _).1 (Nat.lt_of_lt_of_le before (later.later e.id))
  cases standing : u.world.standing e.id <;> simp_all [Standing.retire, Standing.unlist]

/--
A destruction of the entity of `id` with `f + 1` frames ends as `Destroyed`
says. It can fail only once it went ahead, and then only when the host stack
runs out or a script could run. Going ahead, it first runs `onDestroy` with
the entity marked, then broadcasts, and only then retires the entity: while
the broadcast runs, the entity may be destroyed again. A fault of the
broadcast comes from the host stack or from a script; when nobody hears it
there are frames for it, and the mark on the entity comes off on both outcomes
of `onDestroy`.
-/
theorem destroyEntity_ends (f : Nat) {target : Value} {id : Int} (names : target.entityId = .ok id)
    (s : Session) :
    Ends (destroyEntity (f + 1) target) s (Destroyed s id)
      fun _ _ => s.Destroyable id ∧ (f = 0 ∨ s.Heard id) := by
  rw [destroyEntity.eq_def]
  dsimp -zeta only
  extract_lets named
  have destroys : Ends (named id) s (Destroyed s id)
      fun _ _ => s.Destroyable id ∧ (f = 0 ∨ s.Heard id) := by
    simp -zeta only [named]
    rw [ends_bind, ends_get]
    split
    · next found =>
      have refused : ¬ s.Destroyable id := fun destroyable => by
        obtain ⟨e, found', _⟩ := destroyable_iff.1 destroyable
        rw [found] at found'
        cases found'
      exact Destroyed.of_refused refused
    rename_i e found
    split
    · next fresh =>
      have refused : ¬ s.Destroyable id := fun destroyable => by
        obtain ⟨e', found', fresh'⟩ := destroyable_iff.1 destroyable
        rw [found] at found'
        cases found'
        rw [fresh] at fresh'
        cases fresh'
      exact Destroyed.of_refused refused
    rename_i fresh
    have going : s.Destroyable id := destroyable_iff.2 ⟨e, found, by simpa using fresh⟩
    obtain ⟨e', found', _⟩ := going.2
    have same : e' = e := by
      simp only [Int.not_lt.2 going.1, if_false] at found
      rw [found] at found'
      exact (Option.some.inj found').symm
    subst same
    have carries : e'.id = id.toNat :=
      (by simpa using List.find?_some found' : e'.id = id.toNat ∧ e'.listed = true).1
    have present := World.mem_of_get? found'
    extract_lets finish
    have finished : ∀ r t, Evolves s t → (e'.component = none → t = s) →
        Ends (finish r) t (Destroyed s id) fun _ _ => s.Destroyable id ∧ (f = 0 ∨ s.Heard id) := by
      intro r t evolves untouched
      simp -zeta only [finish]
      rw [ends_bind, ends_get, ends_bind]
      by_cases heard : f = 0 ∨ s.Heard id
      · exact ((evolves_runs f).broadcast _ _).ends t
          (fun _ u announced => retire_destroyed going carries present (evolves.trans announced))
          fun _ _ _ _ => ⟨going, heard⟩
      · obtain ⟨g, rfl⟩ : ∃ g, f = g + 1 := Nat.exists_eq_succ_of_ne_zero fun none => heard (.inl none)
        have undriven : e'.component = none := by
          cases driven : e'.component with
          | none => rfl
          | some serial => exact absurd (.inr (.inr ⟨e', serial, found', driven⟩)) heard
        have silent : t.activeSerials = [] := by
          rw [untouched undriven]
          by_contra active
          exact heard (.inr (.inl active))
        exact (broadcast_unheard g _ _ silent).mono
          (fun _ u unheard => retire_destroyed going carries present
            (evolves.trans (Evolves.of_quiet unheard.2.2)))
          fun _ _ => False.elim
    split
    · next serial driven =>
      split
      · have heard : s.Heard id := .inr ⟨e', serial, found', driven⟩
        rw [ends_bind, ends_modify, ends_bind, ends_tryFinally]
        refine ((evolves_runs f).runMethod _ _ _ _).ends _ (fun r t related => ?_)
          fun _ _ _ _ => ?_
        · rw [ends_modify]
          refine finished r _ ((Evolves.destroying s _).trans (related.trans (Evolves.destroying _ _)))
            fun undriven => ?_
          rw [driven] at undriven
          cases undriven
        · rw [ends_modify]
          exact ⟨going, .inr heard⟩
      · exact finished () s (.refl s) fun _ => rfl
    · exact finished () s (.refl s) fun _ => rfl
  split
  · next entityId =>
    rw [ends_bind, ends_pure]
    simp only [Value.entityId, Except.ok.injEq] at names
    subst names
    exact destroys
  · next other =>
    rw [ends_bind, ends_ofExcept]
    have converted : target.toNumber.truncate = .ok id := by
      rw [← names, Value.entityId.eq_2 _ other]
    refine ⟨fun n read => ?_, fun _ failed => ?_⟩
    · rw [converted, Except.ok.injEq] at read
      rw [← read]
      exact destroys
    · rw [converted] at failed
      cases failed

/-- A destruction of an entity that cannot be destroyed answers false and changes nothing. -/
theorem destroyEntity_of_not_destroyable (f : Nat) {target : Value} {id : Int}
    (names : target.entityId = .ok id) {s : Session} (refused : ¬ s.Destroyable id) :
    (destroyEntity (f + 1) target).run s = .ok false s := by
  obtain ⟨answer, t, ran, destroyed⟩ := (destroyEntity_ends f names s).answers
    fun _ _ failed => refused failed.1
  cases answer with
  | false => rw [ran, destroyed.unchanged rfl]
  | true => exact absurd (destroyed.answers.1 rfl) refused

/--
With no active instance to hear it, creating an entity ends well: the entity
takes the next id, active in the table and driven by the instance asked for,
and the registry and the marks stay. The broadcast sees the session with the
entity added, whose registry is the same.
-/
theorem createEntity_unheard (f : Nat) (kind : String) (position : Vec2) (driver : Option Nat)
    {s : Session} (silent : s.activeSerials = []) :
    Ends (createEntity (f + 2) kind (some position) driver) s
      (fun id t => ∃ e, id = s.world.nextId ∧ e.id = id ∧ e.active = true ∧ e.listed = true ∧
        e.component = driver ∧ t.world = { entities := s.world.entities ++ [e], nextId := id + 1 } ∧
        t.registry = s.registry ∧ t.destroying = s.destroying)
      fun _ _ => False := by
  rw [createEntity.eq_def]
  dsimp only
  simp only [shareVec2, World.create, ends_bind, ends_pure, ends_get, ends_set]
  refine (broadcast_unheard f _ _ (by exact silent)).mono (fun _ u unheard => ?_)
    fun _ _ => False.elim
  obtain ⟨_, world, quiet⟩ := unheard
  simp only [log, ends_modify]
  exact ⟨_, trivial, rfl, rfl, rfl, rfl, world, quiet.registry, quiet.destroying⟩

end Sim

namespace Session

open Sim

/-- The sessions a host reaches from `s` by requests none of which starts over. -/
inductive Follows (s : Session) : Session → Prop
  | refl : Follows s s
  | step {t : Session} (request : Request) : request.resets = false → Follows s t →
      Follows s (t.perform request).2.1

/-- Requests that do not start over continue a session. -/
theorem Follows.continues {s t : Session} (follows : Follows s t) : Continues s t := by
  induction follows with
  | refl => exact .refl s
  | step request kept _ continues =>
    exact continues.trans (perform_session ((answer_continues request kept).ends _
      (fun _ _ later => later) fun _ _ _ later => later))

/-- A request ends with a reply where answering it does. -/
theorem perform_reply {s : Session} {request : Request} {ok : Reply → Session → Prop}
    {err : Fault → Session → Prop} (ends : Ends (answer request) s ok err) {reply : Reply}
    (replied : (s.perform request).1 = .ok reply) : ok reply (s.perform request).2.1 := by
  unfold Ends at ends
  unfold perform at replied ⊢
  split at replied
  · rename_i answered
    rw [answered] at ends
    cases replied
    exact ends
  · cases replied

/-- A request that cannot fail ends with a reply. -/
theorem perform_answers {s : Session} {request : Request} {ok : Reply → Session → Prop}
    (ends : Ends (answer request) s ok fun _ _ => False) :
    ∃ reply, (s.perform request).1 = .ok reply ∧ ok reply (s.perform request).2.1 := by
  obtain ⟨reply, t, ran, holds⟩ := ends.answers fun _ _ => id
  unfold perform
  rw [ran]
  exact ⟨reply, rfl, holds⟩

theorem answer_destroyEntity (target : Value) :
    answer (.destroyEntity target) = (fun b => Reply.truth b) <$> destroyEntity hostFrames target :=
  rfl

/--
A destruction goes ahead only for an entity active in the table whose
`onDestroy` is not running; on any other, by the host or by a script, it
answers false and changes nothing. And between two resets a host's request to
destroy an id answers true at most once: once one does, every later one
answers false. The first destruction took the id out of the table, and no
request but a reset brings an id back.
-/
theorem destroy_guarded_and_answered_once (s : Session) (target : Value) (id : Int)
    (names : target.entityId = .ok id) :
    (∀ f : Nat, ¬ s.Destroyable id → (destroyEntity (f + 1) target).run s = .ok false s) ∧
    (s.Reachable → (s.perform (.destroyEntity target)).1 = .ok (.truth true) →
      ∀ (u : Session) (later : Value), later.entityId = .ok id →
        Follows (s.perform (.destroyEntity target)).2.1 u →
        (u.perform (.destroyEntity later)).1 = .ok (.truth false)) := by
  refine ⟨fun f refused => destroyEntity_of_not_destroyable f names refused, ?_⟩
  intro reachable first u later namesLater follows
  have sound := reachable.sound
  have destroyed : Destroyed s id true (s.perform (.destroyEntity target)).2.1 := by
    have ends : Ends (answer (.destroyEntity target)) s
        (fun reply t => reply = .truth true → Destroyed s id true t) fun _ _ => True := by
      rw [answer_destroyEntity, ends_map]
      exact (destroyEntity_ends (hostFrames - 1) names s).mono
        (fun b t destroyed same => by cases same; exact destroyed) fun _ _ _ => trivial
    exact perform_reply ends first rfl
  have gone := destroyed.gone rfl sound.inTick
  have continues := follows.continues
  have stillGone : u.world.standing id.toNat = .gone := by
    have raised := continues.later id.toNat
    rw [gone] at raised
    cases standing : u.world.standing id.toNat <;> simp_all [Standing.rank]
  have numbered := continues.numbered (Reachable.step (.destroyEntity target) reachable).sound.numbered
  have refused := not_destroyable_of_gone numbered stillGone
  have ran : (destroyEntity hostFrames later).run u = .ok false u :=
    destroyEntity_of_not_destroyable (hostFrames - 1) namesLater refused
  unfold perform
  rw [answer_destroyEntity, run_map_of_run ran]

/--
A rock the host creates on a fresh session: a first request to destroy it
answers true, a second one false; and on the fresh session nothing can be
destroyed. The rock is the one entity, active and driving nothing, and no
instance is registered.
-/
theorem rock_destroyed_once :
    (¬ (Session.create {} default).Destroyable 1 ∧
      (destroyEntity 1 (.int 1)).run (Session.create {} default) = .ok false (Session.create {} default)) ∧
    (((Session.create {} default).perform (.createEntity "Rock" (some {}) none)).2.1.Reachable ∧
      (((Session.create {} default).perform (.createEntity "Rock" (some {}) none)).2.1.perform
        (.destroyEntity (.int 1))).1 = .ok (.truth true) ∧
      ((((Session.create {} default).perform (.createEntity "Rock" (some {}) none)).2.1.perform
        (.destroyEntity (.int 1))).2.1.perform (.destroyEntity (.entity 1))).1 =
        .ok (.truth false)) := by
  set rock := ((Session.create {} default).perform (.createEntity "Rock" (some {}) none)).2.1
  have fresh : ¬ (Session.create {} default).Destroyable 1 := by
    rintro ⟨_, e, found, _⟩
    cases found
  have made : rock.Destroyable 1 ∧ ¬ rock.Heard 1 := by
    refine perform_session (P := fun t => t.Destroyable 1 ∧ ¬ t.Heard 1) ?_
    rw [answer, ends_bind, ends_get]
    dsimp only
    rw [ends_bind]
    refine (createEntity_unheard 993 "Rock" {} none rfl).mono (fun _ t made => ?_) fun _ _ => False.elim
    obtain ⟨e, rfl, named, active, listed, driver, world, registry, destroying⟩ := made
    rw [ends_bind, ends_get, ends_pure]
    have table : (Session.create {} default).world = { entities := [], nextId := 1 } := rfl
    rw [table] at world named
    change t.registry = [] at registry
    change t.destroying = [] at destroying
    have found : t.world.get? 1 = some e := by
      simp [World.get?, world, named, listed]
    refine ⟨⟨by decide, e, found, active, by simp [destroying, named]⟩, ?_⟩
    rintro (active | ⟨e', serial, found', driven⟩)
    · exact active (by simp [activeSerials, registry])
    · change t.world.get? 1 = some e' at found'
      rw [found] at found'
      cases found'
      rw [driver] at driven
      cases driven
  have destroyed : Ends (answer (.destroyEntity (.int 1))) rock (fun reply _ => reply = .truth true)
      fun _ _ => False := by
    rw [answer_destroyEntity, ends_map]
    refine (destroyEntity_ends 994 rfl rock).mono (fun b _ destroyed => ?_) fun _ _ failed => ?_
    · rw [destroyed.answers.2 made.1]
    · rcases failed.2 with stackless | heard
      · cases stackless
      · exact made.2 heard
  obtain ⟨reply, first, answered⟩ := perform_answers destroyed
  rw [answered] at first
  have reachable : rock.Reachable := .step _ (.start {} default)
  exact ⟨⟨fresh, (destroy_guarded_and_answered_once _ (.int 1) 1 rfl).1 0 fresh⟩, reachable, first,
    (destroy_guarded_and_answered_once rock (.int 1) 1 rfl).2 reachable first _ (.entity 1) rfl
      .refl⟩

end Session

end GameScript

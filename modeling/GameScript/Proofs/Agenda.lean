import GameScript.Proofs.DueOrder

/-!
# The agenda a scheduler stands for

An `Agenda` is a scheduler as its contract describes it: a clock and the
calls waiting on it, kept in due order (the earlier time first, and of equal
times the call scheduled first), with ids drawn from one counter and
sequence numbers from another.  Scheduling puts the new call in its place,
cancelling removes the call with the id, and `popDue` hands out the first of
the waiting calls whose time has come, at most as many as asked, and removes
them.  There is no heap and no cancelled call kept for later.

A run feeds requests to an agenda or a scheduler and records what is seen
after each: the answer, how many calls wait, the clock, the waiting calls in
due order and the counters.  Every agenda a run reaches is `Sound`: its calls
strictly ascend in due order, ids and sequence numbers are fresh, and every
scheduled call was fired, cancelled or still waits (`along_sound`).
-/

namespace GameScript

/-- A scheduler as a clock and the calls waiting on it in due order. -/
structure Agenda where
  now : Float := 0.0
  perTick : Int
  /-- The waiting calls, the one due first at the head. -/
  waiting : List Callback := []
  nextId : Nat := 1
  nextSequence : Nat := 0
  scheduled : Nat := 0
  fired : Nat := 0
  cancelled : Nat := 0

namespace Agenda

/-- A fresh agenda whose `popDue` hands out at most `perTick` calls by default. -/
def create (perTick : Int) : Agenda := { perTick }

/-- Put a call among the waiting ones, before the first one that is not due before it. -/
def insertDue (c : Callback) (waiting : List Callback) : List Callback :=
  waiting.orderedInsert (fun c d => c.dueKey ≤ d.dueKey) c

/-- Schedule a call due when its wait from now is over; the id is used up even when that fails. -/
def schedule (a : Agenda) (delay : Number) (component method : String) (args : List Value) :
    Except Fault Callback × Agenda :=
  match (Scheduler.wait delay).toFloat with
  | .error fault => (.error fault, { a with nextId := a.nextId + 1 })
  | .ok w =>
    let c : Callback :=
      { id := a.nextId, time := a.now + w, sequence := a.nextSequence, component, method, args }
    (.ok c,
      { a with
        waiting := insertDue c a.waiting
        nextId := a.nextId + 1
        nextSequence := a.nextSequence + 1
        scheduled := a.scheduled + 1 })

/-- Remove the waiting call with the id; false when none has it. -/
def cancel (a : Agenda) (id : Nat) : Bool × Agenda :=
  if a.waiting.any (·.id == id) then
    (true,
      { a with
        waiting := a.waiting.filter (·.id != id)
        cancelled := a.cancelled + 1 })
  else (false, a)

/-- Move the clock on; a step that is not a double fails and leaves the agenda. -/
def advance (a : Agenda) (dt : Number) : Except Fault Agenda :=
  dt.toFloat.map fun step => { a with now := a.now + step }

/-- The waiting calls due at the clock, in due order, at most `n` of them. -/
def dueNow (a : Agenda) (n : Nat) : List Callback :=
  (a.waiting.filter fun c => c.time ≤ a.now).take n

/-- Hand out and remove the calls due now, at most `limit` (by default `perTick`). -/
def popDue (a : Agenda) (limit : Option Int := none) : List Callback × Agenda :=
  (a.dueNow (limit.getD a.perTick).toNat,
    { a with
      waiting := a.waiting.filter fun c => !(a.dueNow (limit.getD a.perTick).toNat).any (·.id == c.id)
      fired := a.fired + (a.dueNow (limit.getD a.perTick).toNat).length })

/-- The agenda as new: clock at zero, no calls, ids and counters from the start. -/
def reset (a : Agenda) : Agenda := create a.perTick

/-- Scheduled, fired, cancelled and waiting counts. -/
def counts (a : Agenda) : List Nat := [a.scheduled, a.fired, a.cancelled, a.waiting.length]

/-- No waiting call is due at a not-a-number. -/
def Timed (a : Agenda) : Prop := ∀ c ∈ a.waiting, c.Timed

instance (a : Agenda) : Decidable a.Timed :=
  inferInstanceAs (Decidable (∀ c ∈ a.waiting, c.time.isNaN = false))

end Agenda

/-! ## Requests and runs -/

namespace Scheduler

/-- A request to a scheduler. -/
inductive Request
  | schedule (delay : Number) (component method : String) (args : List Value)
  | cancel (id : Nat)
  | advance (dt : Number)
  | popDue (limit : Option Int)
  | reset

/-- What a request answers. -/
inductive Reply
  | scheduled (call : Callback)
  | cancelled (found : Bool)
  | advanced
  | popped (due : List Callback)
  | reset

/-- What is seen after a request: its answer, how many calls wait, the clock, the waiting calls in due order and the counters. -/
structure Sighting where
  reply : Except Fault Reply
  size : Nat
  now : Float
  pending : List Callback
  counts : List Nat

/-- Serve a request; a failed advance leaves the scheduler as it was. -/
def handle (s : Scheduler) : Request → Except Fault Reply × Scheduler
  | .schedule delay component method args =>
    ((s.schedule delay component method args).1.map .scheduled,
      (s.schedule delay component method args).2)
  | .cancel id => (.ok (.cancelled (s.cancel id).1), (s.cancel id).2)
  | .advance dt =>
    match s.advance dt with
    | .ok t => (.ok .advanced, t)
    | .error fault => (.error fault, s)
  | .popDue limit => (.ok (.popped (s.popDue limit).1), (s.popDue limit).2)
  | .reset => (.ok .reset, s.reset)

/-- What is seen of a scheduler that answered `reply`. -/
def sight (s : Scheduler) (reply : Except Fault Reply) : Sighting :=
  ⟨reply, s.size, s.now, s.pending, s.counts⟩

/-- What is seen after each request of a run. -/
def run (s : Scheduler) : List Request → List Sighting
  | [] => []
  | r :: rs => (s.handle r).2.sight (s.handle r).1 :: (s.handle r).2.run rs

end Scheduler

namespace Agenda

open Scheduler (Request Reply Sighting)

/-- Serve a request; a failed advance leaves the agenda as it was. -/
def handle (a : Agenda) : Request → Except Fault Reply × Agenda
  | .schedule delay component method args =>
    ((a.schedule delay component method args).1.map .scheduled,
      (a.schedule delay component method args).2)
  | .cancel id => (.ok (.cancelled (a.cancel id).1), (a.cancel id).2)
  | .advance dt =>
    match a.advance dt with
    | .ok b => (.ok .advanced, b)
    | .error fault => (.error fault, a)
  | .popDue limit => (.ok (.popped (a.popDue limit).1), (a.popDue limit).2)
  | .reset => (.ok .reset, a.reset)

/-- What is seen of an agenda that answered `reply`. -/
def sight (a : Agenda) (reply : Except Fault Reply) : Sighting :=
  ⟨reply, a.waiting.length, a.now, a.waiting, a.counts⟩

/-- What is seen after each request of a run. -/
def run (a : Agenda) : List Request → List Sighting
  | [] => []
  | r :: rs => (a.handle r).2.sight (a.handle r).1 :: (a.handle r).2.run rs

/-- `P` holds of `a` and of every agenda the requests lead it through. -/
def Along (P : Agenda → Prop) (a : Agenda) : List Request → Prop
  | [] => P a
  | r :: rs => P a ∧ Along P (a.handle r).2 rs

theorem Along.head {P : Agenda → Prop} {a : Agenda} : ∀ {rs : List Request}, a.Along P rs → P a
  | [], holds => holds
  | _ :: _, holds => holds.1

instance decideAlong (P : Agenda → Prop) [DecidablePred P] :
    (a : Agenda) → (rs : List Request) → Decidable (Along P a rs)
  | a, [] => inferInstanceAs (Decidable (P a))
  | a, r :: rs =>
    have := decideAlong P (a.handle r).2 rs
    inferInstanceAs (Decidable (P a ∧ Along P (a.handle r).2 rs))

/-! ## What every agenda of a run satisfies -/

/-- Calls strictly ascend in due order, ids and sequence numbers are fresh, and the counters balance. -/
structure Sound (a : Agenda) : Prop where
  ascending : a.waiting.Pairwise fun c d => c.dueKey < d.dueKey
  ids : (a.waiting.map (·.id)).Nodup
  idsFresh : ∀ c ∈ a.waiting, c.id < a.nextId
  sequencesFresh : ∀ c ∈ a.waiting, c.sequence < a.nextSequence
  balanced : a.scheduled = a.fired + a.cancelled + a.waiting.length

theorem sound_create (perTick : Int) : (create perTick).Sound where
  ascending := List.Pairwise.nil
  ids := List.nodup_nil
  idsFresh _ none := absurd none List.not_mem_nil
  sequencesFresh _ none := absurd none List.not_mem_nil
  balanced := rfl

/-! ### Scheduling -/

theorem insertDue_perm (c : Callback) (waiting : List Callback) :
    (insertDue c waiting).Perm (c :: waiting) :=
  List.perm_orderedInsert _ _ _

@[simp]
theorem length_insertDue (c : Callback) (waiting : List Callback) :
    (insertDue c waiting).length = waiting.length + 1 :=
  (insertDue_perm c waiting).length_eq

/-- A call whose key no waiting call has goes in strictly between the keys around it. -/
theorem insertDue_ascending {c : Callback} :
    ∀ {waiting : List Callback}, waiting.Pairwise (fun d e => d.dueKey < e.dueKey) →
      (∀ d ∈ waiting, c.dueKey ≠ d.dueKey) →
      (insertDue c waiting).Pairwise fun d e => d.dueKey < e.dueKey
  | [], _, _ => List.pairwise_singleton _ c
  | d :: rest, ascending, fresh => by
      have restFresh : ∀ e ∈ rest, c.dueKey ≠ e.dueKey := fun e member =>
        fresh e (List.mem_cons_of_mem d member)
      unfold insertDue
      rw [List.orderedInsert_cons]
      split
      · rename_i notAfter
        have first : c.dueKey < d.dueKey := lt_of_le_of_ne notAfter (fresh d (List.mem_cons_self ..))
        refine List.Pairwise.cons (fun e member => ?_) ascending
        rcases List.mem_cons.1 member with rfl | later
        · exact first
        · exact lt_trans first (List.rel_of_pairwise_cons ascending later)
      · rename_i after
        have inserted := insertDue_ascending (List.Pairwise.of_cons ascending) restFresh
        refine List.Pairwise.cons (fun e member => ?_) inserted
        rcases List.mem_cons.1 ((insertDue_perm c rest).mem_iff.1 member) with rfl | later
        · exact lt_of_not_ge after
        · exact List.rel_of_pairwise_cons ascending later

/-- What scheduling does, when the wait is a double and when it is not. -/
theorem schedule_eq (a : Agenda) (delay : Number) (component method : String) (args : List Value) :
    a.schedule delay component method args =
      match (Scheduler.wait delay).toFloat with
      | .error fault => (.error fault, { a with nextId := a.nextId + 1 })
      | .ok w =>
        (.ok { id := a.nextId, time := a.now + w, sequence := a.nextSequence, component, method, args },
          { a with
            waiting := insertDue
              { id := a.nextId, time := a.now + w, sequence := a.nextSequence, component, method, args }
              a.waiting
            nextId := a.nextId + 1
            nextSequence := a.nextSequence + 1
            scheduled := a.scheduled + 1 }) := rfl

theorem Sound.schedule {a : Agenda} (sound : a.Sound) (delay : Number) (component method : String)
    (args : List Value) : (a.schedule delay component method args).2.Sound := by
  rw [schedule_eq]
  split
  · exact { sound with idsFresh := fun c member => Nat.lt_succ_of_lt (sound.idsFresh c member) }
  · rename_i w _
    let c : Callback :=
      { id := a.nextId, time := a.now + w, sequence := a.nextSequence, component, method, args }
    have members : ∀ d, d ∈ insertDue c a.waiting ↔ d = c ∨ d ∈ a.waiting := fun d =>
      ((insertDue_perm c a.waiting).mem_iff).trans List.mem_cons
    refine ⟨?_, ?_, ?_, ?_, ?_⟩
    · exact insertDue_ascending sound.ascending fun d member =>
        Callback.dueKey_ne (show c.sequence ≠ d.sequence from Nat.ne_of_gt (sound.sequencesFresh d member))
    · refine ((insertDue_perm c a.waiting).map (·.id)).nodup_iff.2 ?_
      refine List.nodup_cons.2 ⟨fun member => ?_, sound.ids⟩
      obtain ⟨d, waits, same⟩ := List.mem_map.1 member
      exact absurd (sound.idsFresh d waits) (by simp only [c] at same; omega)
    · intro d member
      rcases (members d).1 member with rfl | waits
      · exact Nat.lt_succ_self _
      · exact Nat.lt_succ_of_lt (sound.idsFresh d waits)
    · intro d member
      rcases (members d).1 member with rfl | waits
      · exact Nat.lt_succ_self _
      · exact Nat.lt_succ_of_lt (sound.sequencesFresh d waits)
    · show a.scheduled + 1 = a.fired + a.cancelled + (insertDue c a.waiting).length
      rw [length_insertDue, sound.balanced]
      omega

/-! ### Cancelling -/

/-- With distinct ids, removing the one id a waiting call has removes one call. -/
theorem length_filter_id_ne {waiting : List Callback} {id : Nat} (ids : (waiting.map (·.id)).Nodup)
    (found : waiting.any (·.id == id) = true) :
    (waiting.filter (·.id != id)).length + 1 = waiting.length := by
  induction waiting with
  | nil => simp at found
  | cons c rest more =>
      rw [List.map_cons, List.nodup_cons] at ids
      by_cases same : c.id = id
      · have absent : ∀ d ∈ rest, d.id ≠ id := fun d member equal =>
          ids.1 (List.mem_map.2 ⟨d, member, equal.trans same.symm⟩)
        rw [List.filter_cons_of_neg (by simp [same]), List.filter_eq_self.2 (by simpa using absent)]
        rfl
      · have inRest : rest.any (·.id == id) = true := by simpa [same] using found
        rw [List.filter_cons_of_pos (by simpa using same), List.length_cons, more ids.2 inRest]
        rfl

theorem Sound.cancel {a : Agenda} (sound : a.Sound) (id : Nat) : (a.cancel id).2.Sound := by
  unfold Agenda.cancel
  split
  · rename_i found
    have kept : (a.waiting.filter (·.id != id)).Sublist a.waiting := List.filter_sublist
    refine ⟨sound.ascending.sublist kept, (kept.map _).nodup sound.ids,
      fun c member => sound.idsFresh c (kept.subset member),
      fun c member => sound.sequencesFresh c (kept.subset member), ?_⟩
    have removed := length_filter_id_ne sound.ids found
    simp only [sound.balanced]
    omega
  · exact sound

/-! ### Popping the calls due -/

/-- In a list where a property passes from each entry to those before it, the entries with it come first. -/
theorem filter_eq_takeWhile {α : Type} {R : α → α → Prop} {p : α → Bool} :
    ∀ {l : List α}, l.Pairwise R → (∀ c d, R c d → p d = true → p c = true) →
      l.filter p = l.takeWhile p
  | [], _, _ => rfl
  | c :: rest, ascending, downward => by
      by_cases holds : p c = true
      · rw [List.filter_cons_of_pos holds, List.takeWhile_cons_of_pos holds,
          filter_eq_takeWhile (List.Pairwise.of_cons ascending) downward]
      · rw [List.filter_cons_of_neg holds, List.takeWhile_cons_of_neg holds]
        refine List.filter_eq_nil_iff.2 fun d member later => holds ?_
        exact downward c d (List.rel_of_pairwise_cons ascending member) later

/-- Of calls due at numbers in due order, those due at the clock come first. -/
theorem filter_due_eq_takeWhile {waiting : List Callback} (now : Float)
    (ascending : waiting.Pairwise fun c d => c.dueKey < d.dueKey) (timed : ∀ c ∈ waiting, c.Timed) :
    waiting.filter (fun c => c.time ≤ now) = waiting.takeWhile fun c => c.time ≤ now := by
  have pairs : waiting.Pairwise fun c d => c.dueKey < d.dueKey ∧ c.Timed ∧ d.Timed :=
    List.Pairwise.imp_of_mem (fun {c d} member member' less => ⟨less, timed c member, timed d member'⟩)
      ascending
  refine filter_eq_takeWhile pairs fun c d ⟨less, timedC, timedD⟩ dueD => ?_
  have earlier := Callback.time_le_of_dueKey_le timedC timedD (le_of_lt less)
  simp only [decide_eq_true_eq] at dueD ⊢
  exact Float.le_of_le_of_le timedC timedD earlier dueD

/-- Removing by id the calls at the head of a list with distinct ids leaves the rest. -/
theorem filter_ids_of_append {due rest : List Callback}
    (ids : ((due ++ rest).map (·.id)).Nodup) :
    (due ++ rest).filter (fun c => !due.any (·.id == c.id)) = rest := by
  rw [List.map_append, List.nodup_append] at ids
  rw [List.filter_append, List.filter_eq_nil_iff.2, List.nil_append, List.filter_eq_self]
  · intro c member
    simp only [Bool.not_eq_true', List.any_eq_false, beq_iff_eq]
    intro d taken same
    exact ids.2.2 d.id (List.mem_map_of_mem taken) c.id (List.mem_map_of_mem member) same
  · intro c member
    simpa using ⟨c, member, rfl⟩

/-- The calls handed out are at the head of the waiting ones. -/
theorem dueNow_append {a : Agenda} (sound : a.Sound) (timed : a.Timed) (n : Nat) :
    a.dueNow n ++ a.waiting.drop (a.dueNow n).length = a.waiting := by
  have prefixed : a.dueNow n <+: a.waiting := by
    unfold dueNow
    rw [filter_due_eq_takeWhile a.now sound.ascending timed]
    exact (List.take_prefix _ _).trans (List.takeWhile_prefix _)
  obtain ⟨rest, whole⟩ := prefixed
  rw [← whole, List.drop_left]

/-- Popping removes exactly the calls it hands out. -/
theorem popDue_waiting {a : Agenda} (sound : a.Sound) (timed : a.Timed) (limit : Option Int) :
    (a.popDue limit).2.waiting = a.waiting.drop (a.popDue limit).1.length := by
  have split := dueNow_append sound timed (limit.getD a.perTick).toNat
  show a.waiting.filter _ = _
  conv => lhs; rw [← split]
  rw [filter_ids_of_append (by rw [split]; exact sound.ids)]
  rfl

theorem Sound.popDue {a : Agenda} (sound : a.Sound) (timed : a.Timed) (limit : Option Int) :
    (a.popDue limit).2.Sound := by
  have kept : ((a.popDue limit).2.waiting).Sublist a.waiting := by
    rw [popDue_waiting sound timed]
    exact List.drop_sublist _ _
  have handedOut : (a.popDue limit).1.length ≤ a.waiting.length := by
    have whole := dueNow_append sound timed (limit.getD a.perTick).toNat
    have := congrArg List.length whole
    rw [List.length_append] at this
    show (a.dueNow _).length ≤ _
    omega
  refine ⟨sound.ascending.sublist kept, (kept.map _).nodup sound.ids,
    fun c member => sound.idsFresh c (kept.subset member),
    fun c member => sound.sequencesFresh c (kept.subset member), ?_⟩
  rw [popDue_waiting sound timed, List.length_drop]
  show a.scheduled = a.fired + (a.popDue limit).1.length + a.cancelled + _
  rw [sound.balanced]
  omega

/-! ### Every request -/

/-- Every request keeps an agenda sound; popping needs the waiting calls due at numbers. -/
theorem Sound.handle {a : Agenda} (sound : a.Sound) (timed : a.Timed) :
    ∀ r : Request, (a.handle r).2.Sound
  | .schedule delay component method args => sound.schedule delay component method args
  | .cancel id => sound.cancel id
  | .advance dt => by
      show (match a.advance dt with
        | .ok b => ((.ok .advanced : Except Fault Reply), b)
        | .error fault => (.error fault, a)).2.Sound
      unfold Agenda.advance
      cases dt.toFloat with
      | ok step => exact ⟨sound.1, sound.2, sound.3, sound.4, sound.5⟩
      | error fault => exact sound
  | .popDue limit => sound.popDue timed limit
  | .reset => sound_create a.perTick

/-- Along a run whose waiting calls are due at numbers, every agenda is sound. -/
theorem along_sound : ∀ {a : Agenda} (rs : List Request), a.Sound → a.Along Timed rs →
    a.Along Sound rs
  | _, [], sound, _ => sound
  | _, r :: rs, sound, timed => ⟨sound, along_sound rs (sound.handle timed.1 r) timed.2⟩

end Agenda

end GameScript

import GameScript.Proofs.Agenda
import GameScript.Proofs.HeapOrder
import GameScript.Proofs.Sorting

/-!
# The scheduler implements its agenda

The scheduler keeps its calls in a binary heap ordered by `Callback.before`,
leaves a cancelled call in the heap until it reaches the root, and sorts its
live calls when asked for them.  Along every run of requests in which no
waiting call is due at a not-a-number, it answers every request as the
`Agenda` does and shows the same waiting calls, clock and counters after it
(`scheduler_implements_agenda`).

The proof is a simulation.  `Implements s a` relates a scheduler to an agenda:
the same clock and counters, live calls that are the agenda's calls in some
order, and a heap ordered by due key whose calls are due at numbers and have
distinct, fresh sequence numbers.  Every request keeps the relation
(`Implements.handle`), and related states are seen alike
(`Implements.sight`): the sort puts the live calls in the agenda's order,
since both ascend strictly in due key.  The heart is `popDue`: `drain` pops
the heap's calls in due order (`drain_eq_sweep`), which is `sweep` over the
heap's calls sorted, and a sweep hands out exactly the first live calls due
(`sweep_spec`), because calls due at numbers that come before a due call are
due too.

The run hypothesis is needed.  A clock at negative infinity and an infinite
delay make a call due at a not-a-number, which compares false with every
time, and the heap can then keep a due call under it (the example after the
main theorem).  The agenda counts ids over every schedule, since a schedule
that fails uses up an id.
-/

namespace GameScript.Scheduler

open Agenda (Sound insertDue insertDue_perm)

/-! ## Draining the heap is sweeping its calls in due order -/

/-- What `drain` does, read off a list of calls in due order: take calls while the first is due and fewer than `limit` live ones were handed out; cancelled calls are taken and dropped.  Answers the calls handed out and those left. -/
def sweep (now : Float) (limit : Int) : List Callback → List Callback → List Callback × List Callback
  | [], due => (due, [])
  | c :: rest, due =>
    if c.time ≤ now && (due.length : Int) < limit then
      sweep now limit rest (if c.cancelled then due else due ++ [c])
    else (due, c :: rest)

/-- Of calls in due order that are due at numbers, none is due once the first is not. -/
theorem not_due_of_head {c : Callback} {rest : List Callback} {now : Float}
    (ascending : (c :: rest).Pairwise fun c d => c.dueKey < d.dueKey) (timed : ∀ d ∈ c :: rest, d.Timed)
    (notDue : ¬ c.time ≤ now) : ∀ d ∈ c :: rest, ¬ d.time ≤ now := by
  intro d member due
  rcases List.mem_cons.1 member with rfl | later
  · exact notDue due
  · have timedC := timed c (List.mem_cons_self ..)
    have earlier := Callback.time_le_of_dueKey_le timedC (timed d member)
      (le_of_lt (List.rel_of_pairwise_cons ascending later))
    exact notDue (Float.le_of_le_of_le timedC (timed d member) earlier due)

/-- A sweep hands out the first live calls due, as many as the limit leaves room for, and leaves the live calls after them. -/
theorem sweep_spec (now : Float) (limit : Int) :
    ∀ (calls due : List Callback), calls.Pairwise (fun c d => c.dueKey < d.dueKey) →
      (∀ c ∈ calls, c.Timed) →
      (sweep now limit calls due).1 = due ++
          (((calls.filter (!·.cancelled)).filter fun c => c.time ≤ now).take
            (limit - due.length).toNat) ∧
        (sweep now limit calls due).2.filter (!·.cancelled) = (calls.filter (!·.cancelled)).drop
          (((calls.filter (!·.cancelled)).filter fun c => c.time ≤ now).take
            (limit - due.length).toNat).length ∧
        (sweep now limit calls due).2 <:+ calls := by
  intro calls
  induction calls with
  | nil => intro due _ _; simp [sweep]
  | cons c rest more =>
      intro due ascending timed
      have restTimed : ∀ d ∈ rest, d.Timed := fun d member => timed d (List.mem_cons_of_mem c member)
      rw [sweep]
      by_cases taken : (decide (c.time ≤ now) && decide ((due.length : Int) < limit)) = true
      · rw [if_pos taken]
        simp only [Bool.and_eq_true, decide_eq_true_eq] at taken
        cases cancelled : c.cancelled with
        | true =>
            obtain ⟨handed, left, suffix⟩ := more due (List.Pairwise.of_cons ascending) restTimed
            simp only [if_true, List.filter_cons, cancelled, Bool.not_true, Bool.false_eq_true,
              if_false]
            exact ⟨handed, left, suffix.trans (List.suffix_cons c rest)⟩
        | false =>
            obtain ⟨handed, left, suffix⟩ :=
              more (due ++ [c]) (List.Pairwise.of_cons ascending) restTimed
            have room : (limit - due.length).toNat = (limit - (due ++ [c]).length).toNat + 1 := by
              simp only [List.length_append, List.length_singleton]
              omega
            simp only [Bool.false_eq_true, if_false, List.filter_cons, cancelled, Bool.not_false,
              if_true, decide_eq_true taken.1, room, List.take_succ_cons, List.length_cons,
              List.drop_succ_cons]
            refine ⟨by rw [handed, List.append_assoc]; rfl, left, suffix.trans (List.suffix_cons c rest)⟩
      · rw [if_neg taken]
        simp only [Bool.and_eq_true, decide_eq_true_eq, not_and_or] at taken
        have nothing : ((((c :: rest).filter (!·.cancelled)).filter fun d => d.time ≤ now).take
            (limit - due.length).toNat) = [] := by
          rcases taken with notDue | full
          · rw [List.filter_filter, List.filter_eq_nil_iff.2, List.take_nil]
            intro d member
            simp [not_due_of_head ascending timed notDue d member]
          · rw [show (limit - due.length).toNat = 0 by omega, List.take_zero]
        rw [nothing]
        exact ⟨(List.append_nil _).symm, rfl, List.suffix_refl _⟩

/-- `drain` pops the heap's calls in due order, as `sweep` takes them from the list of them in that order. -/
theorem drain_eq_sweep (now : Float) (limit : Int) :
    ∀ (fuel : Nat) (heap : Array Callback) (calls due : List Callback), heap.size = fuel →
      Heap.Ordered Callback.dueKey heap → (∀ c ∈ heap.toList, c.Timed) → heap.toList.Perm calls →
      calls.Pairwise (fun c d => c.dueKey < d.dueKey) →
      (drain now limit fuel heap due).1 = (sweep now limit calls due).1 ∧
        (drain now limit fuel heap due).2.toList.Perm (sweep now limit calls due).2 ∧
        Heap.Ordered Callback.dueKey (drain now limit fuel heap due).2 := by
  intro fuel
  induction fuel with
  | zero =>
      intro heap calls due size ordered _ perm _
      have empty : heap.toList = [] := List.eq_nil_of_length_eq_zero (by simpa using size)
      rw [empty] at perm
      rw [← perm.nil_eq]
      exact ⟨rfl, by show heap.toList.Perm []; rw [empty], ordered⟩
  | succ fuel more =>
      intro heap calls due size ordered timed perm ascending
      have inside : 0 < heap.size := by omega
      have atRoot : heap[0]? = some heap[0] := Array.getElem?_eq_getElem inside
      obtain ⟨first, rest, rfl⟩ : ∃ first rest, calls = first :: rest := by
        cases calls with
        | nil =>
            have lengths := perm.length_eq
            rw [Array.length_toList, List.length_nil] at lengths
            omega
        | cons first rest => exact ⟨first, rest, rfl⟩
      rw [ordered.root_eq_head atRoot perm ascending] at atRoot
      rw [drain, atRoot]
      dsimp only
      by_cases taken : (decide (first.time ≤ now) && decide ((due.length : Int) < limit)) = true
      · rw [if_pos taken, sweep, if_pos taken]
        obtain ⟨⟨top, left⟩, popped⟩ := Option.isSome_iff_exists.1
          (Heap.pop_isSome Callback.before inside)
        obtain ⟨topRoot, whole⟩ := Heap.pop_perm popped
        rw [atRoot] at topRoot
        cases topRoot
        rw [popped]
        dsimp only
        have leftPerm : left.toList.Perm rest := (whole.symm.trans perm).cons_inv
        have leftTimed : ∀ c ∈ left.toList, c.Timed := fun c member =>
          timed c (whole.symm.subset (List.mem_cons_of_mem _ member))
        exact more left rest _ (by have := whole.length_eq; simp at this; omega)
          (Heap.pop_ordered Callback.before_keyed ordered (Heap.allGood_of_mem timed) popped)
          leftTimed leftPerm (List.Pairwise.of_cons ascending)
      · rw [if_neg taken, sweep, if_neg taken]
        exact ⟨rfl, perm, ordered⟩

/-- Calls with distinct sequence numbers can be put in strictly ascending due order. -/
theorem exists_ascending (calls : List Callback) (distinct : (calls.map (·.sequence)).Nodup) :
    ∃ sorted : List Callback, calls.Perm sorted ∧
      sorted.Pairwise fun c d => c.dueKey < d.dueKey := by
  let byKey : Callback → Callback → Bool := fun c d => decide (c.dueKey < d.dueKey)
  have keyed : Keyed byKey Callback.dueKey fun _ => True := fun _ _ _ _ => decide_eq_true_iff
  exact ⟨Runs.sort byKey calls, (Runs.sort_perm calls).symm,
    Runs.sort_ascending keyed (fun _ _ => trivial) (Callback.nodup_dueKey distinct)⟩

/-! ## The simulation -/

/-- The scheduler `s` serves the agenda `a`: the same clock and counters, the agenda's calls live in a heap in due order, every call due at a number, sequence numbers distinct and fresh. -/
structure Implements (s : Scheduler) (a : Agenda) : Prop where
  now : s.now = a.now
  perTick : s.perTick = a.perTick
  nextId : s.nextId = a.nextId
  nextSequence : s.nextSequence = a.nextSequence
  stats : s.stats = ⟨a.scheduled, a.fired, a.cancelled, a.waiting.length⟩
  live : s.live.Perm a.waiting
  heap : Heap.Ordered Callback.dueKey s.queue
  timed : ∀ c ∈ s.queue.toList, c.Timed
  sequencesFresh : ∀ c ∈ s.queue.toList, c.sequence < s.nextSequence
  sequences : (s.queue.toList.map (·.sequence)).Nodup

theorem implements_create (perTick : Int) : Implements (create perTick) (Agenda.create perTick) where
  now := rfl
  perTick := rfl
  nextId := rfl
  nextSequence := rfl
  stats := rfl
  live := List.Perm.nil
  heap _ _ _ _ found _ := by simp [create] at found
  timed _ none := absurd none List.not_mem_nil
  sequencesFresh _ none := absurd none List.not_mem_nil
  sequences := List.nodup_nil

/-- Related states are seen alike: the sort puts the live calls in the agenda's order. -/
theorem Implements.sight {s : Scheduler} {a : Agenda} (impl : Implements s a) (sound : a.Sound)
    (reply : Except Fault Reply) : s.sight reply = a.sight reply := by
  have timedLive : ∀ c ∈ s.live, c.Timed := fun c member => impl.timed c (List.mem_of_mem_filter member)
  have sorted : s.pending = a.waiting :=
    Runs.sort_eq_of_perm Callback.before_keyed timedLive impl.live sound.ascending
  have counted : s.counts = a.counts := by
    unfold counts Agenda.counts
    rw [impl.stats]
  unfold Scheduler.sight Agenda.sight
  rw [show s.size = a.waiting.length from impl.live.length_eq, impl.now, sorted, counted]

/-! ### Scheduling -/

/-- What scheduling does, when the wait is a double and when it is not. -/
theorem schedule_eq (s : Scheduler) (delay : Number) (component method : String) (args : List Value) :
    s.schedule delay component method args =
      match (wait delay).toFloat with
      | .error fault => (.error fault, { s with nextId := s.nextId + 1 })
      | .ok w =>
        (.ok { id := s.nextId, time := s.now + w, sequence := s.nextSequence, component, method, args },
          { s with
            nextId := s.nextId + 1
            queue := Heap.push Callback.before s.queue
              { id := s.nextId, time := s.now + w, sequence := s.nextSequence, component, method, args }
            nextSequence := s.nextSequence + 1
            stats := { s.stats with
              scheduled := s.stats.scheduled + 1
              waiting := s.stats.waiting + 1 } }) := rfl

/--
Scheduling on a scheduler and on the agenda it implements makes the same call,
and they still correspond.
-/
theorem Implements.schedule {s : Scheduler} {a : Agenda} (impl : Implements s a) (delay : Number)
    (component method : String) (args : List Value)
    (timedAfter : (a.schedule delay component method args).2.Timed) :
    (s.schedule delay component method args).1 = (a.schedule delay component method args).1 ∧
      Implements (s.schedule delay component method args).2 (a.schedule delay component method args).2 := by
  rw [Agenda.schedule_eq] at timedAfter ⊢
  rw [schedule_eq]
  generalize (wait delay).toFloat = waited at timedAfter ⊢
  cases waited with
  | error fault => exact ⟨rfl, { impl with nextId := congrArg (· + 1) impl.nextId }⟩
  | ok w =>
      dsimp only at timedAfter ⊢
      rw [impl.nextId, impl.now, impl.nextSequence]
      refine ⟨rfl, ?_⟩
      generalize callIs : ({ id := a.nextId, time := a.now + w, sequence := a.nextSequence,
                               component, method, args } : Callback) = c at timedAfter ⊢
      have timedC : c.Timed := timedAfter c ((insertDue_perm c a.waiting).symm.subset
        (List.mem_cons_self ..))
      have fresh : c.sequence = a.nextSequence := by rw [← callIs]
      have pushed := Heap.push_perm Callback.before s.queue c
      refine ⟨rfl, impl.perTick, rfl, rfl, ?_, ?_, ?_, ?_, ?_, ?_⟩
      · show { s.stats with scheduled := s.stats.scheduled + 1, waiting := s.stats.waiting + 1 } = _
        rw [impl.stats, Agenda.length_insertDue]
      · have notCancelled : c.cancelled = false := by rw [← callIs]
        calc List.Perm ((Heap.push Callback.before s.queue c).toList.filter (!·.cancelled))
              ((s.queue.toList ++ [c]).filter (!·.cancelled)) := pushed.filter _
          _ = s.live ++ [c] := by rw [List.filter_append, List.filter_singleton, notCancelled]; rfl
          List.Perm _ (a.waiting ++ [c]) := impl.live.append_right _
          List.Perm _ (c :: a.waiting) := List.perm_append_singleton _ _
          List.Perm _ (insertDue c a.waiting) := (insertDue_perm c a.waiting).symm
      · exact Heap.push_ordered Callback.before_keyed impl.heap (Heap.allGood_of_mem impl.timed) timedC
      · intro d member
        rcases Heap.mem_push.1 member with old | rfl
        · exact impl.timed d old
        · exact timedC
      · intro d member
        rcases Heap.mem_push.1 member with old | rfl
        · exact Nat.lt_succ_of_lt (impl.nextSequence ▸ impl.sequencesFresh d old)
        · rw [fresh]
          exact Nat.lt_succ_self _
      · refine (pushed.map (·.sequence)).nodup_iff.2 ?_
        rw [List.map_append, List.nodup_append]
        refine ⟨impl.sequences, List.nodup_singleton _, fun x old y new same => ?_⟩
        obtain ⟨d, waits, rfl⟩ := List.mem_map.1 old
        rw [List.map_singleton, List.mem_singleton] at new
        rw [new, fresh, ← impl.nextSequence] at same
        exact absurd (impl.sequencesFresh d waits) (by omega)

/-! ### Cancelling -/

/-- Marking the calls with an id cancelled leaves live the live calls without that id. -/
theorem filter_live_map_cancel (id : Nat) : ∀ calls : List Callback,
    (calls.map fun c => if c.id == id then { c with cancelled := true } else c).filter (!·.cancelled) =
      (calls.filter (!·.cancelled)).filter (·.id != id)
  | [] => rfl
  | c :: rest => by
      have more := filter_live_map_cancel id rest
      rw [List.map_cons]
      by_cases same : c.id = id
      · rw [if_pos (by simpa using same), List.filter_cons_of_neg (by simp), more]
        cases cancelled : c.cancelled
        · rw [List.filter_cons_of_pos (by simp [cancelled]), List.filter_cons_of_neg (by simp [same])]
        · rw [List.filter_cons_of_neg (by simp [cancelled])]
      · rw [if_neg (by simpa using same)]
        cases cancelled : c.cancelled
        · rw [List.filter_cons_of_pos (by simp [cancelled]), more,
            List.filter_cons_of_pos (by simp [cancelled]), List.filter_cons_of_pos (by simpa using same)]
        · rw [List.filter_cons_of_neg (by simp [cancelled]), more,
            List.filter_cons_of_neg (by simp [cancelled])]

/-- Marking a call cancelled keeps its time and sequence number. -/
theorem cancel_mark_keeps (c : Callback) (id : Nat) :
    (if c.id == id then { c with cancelled := true } else c).time = c.time ∧
      (if c.id == id then { c with cancelled := true } else c).sequence = c.sequence := by
  split <;> exact ⟨rfl, rfl⟩

theorem Implements.cancel {s : Scheduler} {a : Agenda} (impl : Implements s a) (sound : a.Sound)
    (id : Nat) : (s.cancel id).1 = (a.cancel id).1 ∧ Implements (s.cancel id).2 (a.cancel id).2 := by
  have sameAnswer : s.live.any (·.id == id) = a.waiting.any (·.id == id) := impl.live.any_eq
  unfold Scheduler.cancel Agenda.cancel
  rw [sameAnswer]
  split
  · rename_i found
    have removed := Agenda.length_filter_id_ne sound.ids found
    let mark : Callback → Callback := fun c => if c.id == id then { c with cancelled := true } else c
    have marked : ∀ d ∈ (s.queue.map mark).toList, ∃ c ∈ s.queue.toList, d = mark c := by
      intro d member
      rw [Array.toList_map, List.mem_map] at member
      obtain ⟨c, waits, rfl⟩ := member
      exact ⟨c, waits, rfl⟩
    have sequencesKept : (s.queue.map mark).toList.map (·.sequence) = s.queue.toList.map (·.sequence) := by
      rw [Array.toList_map, List.map_map]
      exact List.map_congr_left fun c _ => (cancel_mark_keeps c id).2
    refine ⟨rfl, impl.now, impl.perTick, impl.nextId, impl.nextSequence, ?_, ?_, ?_, ?_, ?_, ?_⟩
    · show { s.stats with cancelled := s.stats.cancelled + 1, waiting := s.stats.waiting - 1 } = _
      rw [impl.stats]
      simp only [SchedulerStats.mk.injEq, true_and]
      omega
    · show ((s.queue.map mark).toList.filter (!·.cancelled)).Perm _
      rw [Array.toList_map, filter_live_map_cancel]
      exact impl.live.filter _
    · exact impl.heap.map fun c => by
        unfold Callback.dueKey
        rw [(cancel_mark_keeps c id).1, (cancel_mark_keeps c id).2]
    · intro d member
      obtain ⟨c, waits, rfl⟩ := marked d member
      unfold Callback.Timed
      rw [(cancel_mark_keeps c id).1]
      exact impl.timed c waits
    · intro d member
      obtain ⟨c, waits, rfl⟩ := marked d member
      rw [(cancel_mark_keeps c id).2]
      exact impl.sequencesFresh c waits
    · show ((s.queue.map mark).toList.map (·.sequence)).Nodup
      rw [sequencesKept]
      exact impl.sequences
  · exact ⟨rfl, impl⟩

/-! ### Advancing the clock -/

theorem Implements.advance {s : Scheduler} {a : Agenda} (impl : Implements s a) (dt : Number) :
    (s.handle (.advance dt)).1 = (a.handle (.advance dt)).1 ∧
      Implements (s.handle (.advance dt)).2 (a.handle (.advance dt)).2 := by
  simp only [Scheduler.handle, Agenda.handle, Scheduler.advance, Agenda.advance]
  cases dt.toFloat with
  | error fault => exact ⟨rfl, impl⟩
  | ok step =>
      refine ⟨rfl, { impl with now := ?_ }⟩
      show s.now + step = a.now + step
      rw [impl.now]

/-! ### Popping the calls due -/

/-- What popping does: drain the heap from a fresh list of calls handed out. -/
theorem popDue_eq (s : Scheduler) (limit : Option Int) :
    s.popDue limit =
      ((drain s.now (limit.getD s.perTick) s.queue.size s.queue []).1,
        { s with
          queue := (drain s.now (limit.getD s.perTick) s.queue.size s.queue []).2
          stats := { s.stats with
            fired := s.stats.fired + (drain s.now (limit.getD s.perTick) s.queue.size s.queue []).1.length
            waiting := s.stats.waiting -
              (drain s.now (limit.getD s.perTick) s.queue.size s.queue []).1.length } }) := rfl

/--
Popping the due calls takes the same calls off a scheduler and the sound
agenda it implements, since the live calls in due order are the agenda's
calls, both strictly ascending.
-/
theorem Implements.popDue {s : Scheduler} {a : Agenda} (impl : Implements s a) (sound : a.Sound)
    (limit : Option Int) :
    (s.popDue limit).1 = (a.popDue limit).1 ∧ Implements (s.popDue limit).2 (a.popDue limit).2 := by
  obtain ⟨calls, perm, ascending⟩ := exists_ascending s.queue.toList impl.sequences
  have timedCalls : ∀ c ∈ calls, c.Timed := fun c member => impl.timed c (perm.symm.subset member)
  obtain ⟨handed, left, ordered⟩ := drain_eq_sweep s.now (limit.getD s.perTick) s.queue.size s.queue
    calls [] rfl impl.heap impl.timed perm ascending
  obtain ⟨handedOut, leftLive, suffix⟩ :=
    sweep_spec s.now (limit.getD s.perTick) calls [] ascending timedCalls
  have liveCalls : calls.filter (!·.cancelled) = a.waiting :=
    ((perm.filter _).symm.trans impl.live).eq_of_pairwise
      (fun _ _ _ _ up down => absurd (lt_trans up down) (lt_irrefl _))
      (ascending.sublist List.filter_sublist) sound.ascending
  have timed : a.Timed := fun c member =>
    impl.timed c (List.mem_of_mem_filter (impl.live.symm.subset member))
  have sameDue : (drain s.now (limit.getD s.perTick) s.queue.size s.queue []).1 =
      a.dueNow (limit.getD a.perTick).toNat := by
    rw [handed, handedOut, liveCalls, impl.now, impl.perTick]
    simp [Agenda.dueNow]
  have kept := Agenda.popDue_waiting sound timed limit
  have fromQueue : ∀ d ∈ (drain s.now (limit.getD s.perTick) s.queue.size s.queue []).2.toList,
      d ∈ s.queue.toList := fun d member =>
    perm.symm.subset (suffix.sublist.subset (left.subset member))
  rw [popDue_eq]
  refine ⟨sameDue, impl.now, impl.perTick, impl.nextId, impl.nextSequence, ?_, ?_, ordered, ?_, ?_, ?_⟩
  · show { s.stats with
        fired := s.stats.fired + (drain s.now (limit.getD s.perTick) s.queue.size s.queue []).1.length
        waiting := s.stats.waiting -
          (drain s.now (limit.getD s.perTick) s.queue.size s.queue []).1.length } = _
    rw [impl.stats, sameDue, kept, List.length_drop]
    rfl
  · show ((drain s.now (limit.getD s.perTick) s.queue.size s.queue []).2.toList.filter
      (!·.cancelled)).Perm (a.popDue limit).2.waiting
    rw [kept]
    refine (left.filter _).trans ?_
    rw [leftLive, liveCalls]
    simp [impl.now, impl.perTick, Agenda.popDue, Agenda.dueNow]
  · exact fun d member => impl.timed d (fromQueue d member)
  · exact fun d member => impl.sequencesFresh d (fromQueue d member)
  · exact (left.map _).nodup_iff.2
      ((suffix.sublist.map _).nodup ((perm.map _).nodup_iff.1 impl.sequences))

/-! ### Every request, and every run -/

theorem Implements.handle {s : Scheduler} {a : Agenda} (impl : Implements s a) (sound : a.Sound) :
    ∀ r : Request, (a.handle r).2.Timed →
      (s.handle r).1 = (a.handle r).1 ∧ Implements (s.handle r).2 (a.handle r).2
  | .schedule delay component method args, timedAfter => by
      obtain ⟨reply, next⟩ := impl.schedule delay component method args timedAfter
      exact ⟨congrArg (Except.map Reply.scheduled) reply, next⟩
  | .cancel id, _ => by
      obtain ⟨reply, next⟩ := impl.cancel sound id
      exact ⟨congrArg (fun found => Except.ok (Reply.cancelled found)) reply, next⟩
  | .advance dt, _ => impl.advance dt
  | .popDue limit, _ => by
      obtain ⟨reply, next⟩ := impl.popDue sound limit
      exact ⟨congrArg (fun due => Except.ok (Reply.popped due)) reply, next⟩
  | .reset, _ => by
      refine ⟨rfl, ?_⟩
      show Implements (create s.perTick) (Agenda.create a.perTick)
      rw [impl.perTick]
      exact implements_create a.perTick

/-- Related states stay related along a run whose waiting calls are due at numbers, and are seen alike after every request. -/
theorem Implements.run : ∀ (rs : List Request) {s : Scheduler} {a : Agenda}, Implements s a →
    a.Sound → a.Along Agenda.Timed rs → s.run rs = a.run rs
  | [], _, _, _, _, _ => rfl
  | r :: rs, s, a, impl, sound, timed => by
      obtain ⟨reply, next⟩ := impl.handle sound r timed.2.head
      have soundNext := sound.handle timed.1 r
      show (s.handle r).2.sight (s.handle r).1 :: (s.handle r).2.run rs =
        (a.handle r).2.sight (a.handle r).1 :: (a.handle r).2.run rs
      rw [reply, next.sight soundNext, Implements.run rs next soundNext timed.2]

/-- Along every run of requests in which no waiting call is due at a not-a-number, the scheduler is seen after each request exactly as its agenda is, and every agenda of the run is sound. -/
theorem scheduler_implements_agenda (perTick : Int) (rs : List Request)
    (timed : (Agenda.create perTick).Along Agenda.Timed rs) :
    (create perTick).run rs = (Agenda.create perTick).run rs ∧
      (Agenda.create perTick).Along Agenda.Sound rs :=
  ⟨Implements.run rs (implements_create perTick) (Agenda.sound_create perTick) timed,
    Agenda.along_sound rs (Agenda.sound_create perTick) timed⟩

/-- A run with two calls due at one time, a cancelled call, a limited pop and a reset. -/
theorem scheduler_implements_agenda_on_sample :
    let rs : List Request :=
      [.schedule (.int 3) "Door" "open" [], .schedule (.int 1) "Lamp" "on" [],
        .schedule (.int 1) "Lamp" "off" [], .cancel 2, .advance (.int 2), .popDue (some 1),
        .popDue none, .advance (.float 5.5), .popDue none, .reset]
    (Agenda.create 2).Along Agenda.Timed rs ∧
      ((create 2).run rs = (Agenda.create 2).run rs ∧ (Agenda.create 2).Along Agenda.Sound rs) := by
  intro rs
  have timed : (Agenda.create 2).Along Agenda.Timed rs := by decide +kernel
  exact ⟨timed, scheduler_implements_agenda 2 rs timed⟩

/-
Why the run above needs every waiting call due at a number, and not only the
clock: with the clock at negative infinity an infinite delay makes a call due
at a not-a-number, and that call, at the root, keeps the call due at negative
infinity under it, so popping hands out nothing though a live call is due.  A
schedule whose delay is an integer beyond the doubles fails, yet uses up id 1.
-/
example :
    let stuck := ((((create 100).handle (.advance (.float ((-1.0) / 0.0)))).2.handle
        (.schedule (.float (1.0 / 0.0)) "C" "m" [])).2.handle (.schedule (.int 2) "C" "m" [])).2
    let failed := (create 100).schedule (.int (Nat.pow 10 400)) "C" "m" []
    (stuck.now.isNaN = false ∧ stuck.live.any (fun c => c.id == 2 && c.time ≤ stuck.now) = true ∧
        (stuck.popDue none).1.isEmpty = true) ∧
      (failed.1.toOption.isNone = true ∧
        (failed.2.schedule (.int 1) "C" "m" []).1.toOption.map (·.id) = some 2) := by
  decide +kernel

end GameScript.Scheduler

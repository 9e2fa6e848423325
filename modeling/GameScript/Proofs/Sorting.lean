import GameScript.Proofs.DueOrder
import GameScript.Order.Runs

/-!
# Sorting by runs sorts

`Runs.sort lt` cuts its list into chunks, each a natural run completed by
binary insertion, and merges the chunks.  Whatever the test answers, the
answer holds the entries of the list (`sort_perm`).  Where the test is the
strict order of a key on every entry (`Keyed`), every step keeps the keys
ascending: a run read in its own direction ascends, binary insertion places
an entry after every entry whose key is not above its own and before the
others, and merging two ascending lists ascends.  So the answer is sorted by
key (`sort_sorted`).  Two lists with the same entries whose keys strictly
ascend are equal, so where the keys are distinct the sort answers the one
sorted arrangement of its list (`sort_eq_of_perm`).
-/

namespace GameScript.Runs

variable {α K : Type} [LinearOrder K] {lt : α → α → Bool}

/-! ## Sorting only moves entries -/

theorem merge_perm (xs ys : List α) : (merge lt xs ys).Perm (xs ++ ys) := by
  induction xs, ys using merge.induct lt with
  | case1 ys => simp [merge]
  | case2 xs nonempty =>
      cases xs with
      | nil => exact absurd rfl nonempty
      | cons x xs => simp [merge]
  | case3 x xs y ys first rest =>
      rw [merge, if_pos first]
      exact (rest.cons y).trans List.perm_middle.symm
  | case4 x xs y ys second rest =>
      rw [merge, if_neg second]
      exact rest.cons x

theorem slot_le (lt : α → α → Bool) (a : Array α) (x : α) : ∀ l r, l ≤ r → slot lt a x l r ≤ r := by
  intro l r
  induction l, r using slot.induct lt a x with
  | case1 l r inside p earlier rest =>
      intro _
      have middle : p = l + (r - l) / 2 := rfl
      rw [slot, if_pos inside]
      dsimp only
      rw [if_pos earlier]
      exact Nat.le_trans (rest (by omega)) (show p ≤ r by omega)
  | case2 l r inside p later rest =>
      intro _
      have middle : p = l + (r - l) / 2 := rfl
      rw [slot, if_pos inside]
      dsimp only
      rw [if_neg later]
      exact rest (by omega)
  | case3 l r done =>
      intro ordered
      rw [slot, if_neg done]
      exact ordered

theorem insertAll_perm (a : Array α) (ys : List α) :
    (insertAll lt a ys).toList.Perm (a.toList ++ ys) := by
  induction ys generalizing a with
  | nil => simp [insertAll]
  | cons y ys more =>
      have inside := slot_le lt a y 0 a.size (Nat.zero_le _)
      rw [insertAll]
      refine (more _).trans ?_
      rw [Array.insertIdxIfInBounds, dif_pos inside, Array.toList_insertIdx]
      exact ((List.perm_insertIdx y a.toList (by simpa using inside)).append_right ys).trans
        List.perm_middle.symm

/-- A chunk holds the run it starts with and the entries inserted after it. -/
theorem chunks_perm (least : Nat) (xs : List α) : (chunks lt least xs).flatten.Perm xs := by
  induction xs using chunks.induct lt least with
  | case1 => simp [chunks]
  | case2 x xs k size rest =>
      rw [chunks]
      have atLeastRun : k ≤ size := by
        show k ≤ max k (min least (xs.length + 1))
        exact Nat.le_max_left _ _
      have runPerm : (if (leading lt (x :: xs)).2 then ((x :: xs).take k).reverse
          else (x :: xs).take k).Perm ((x :: xs).take k) := by
        split
        · exact List.reverse_perm _
        · exact List.Perm.refl _
      have pieces : (x :: xs).take k ++ ((x :: xs).drop k).take (size - k) = (x :: xs).take size := by
        rw [← List.take_add, Nat.add_sub_cancel' atLeastRun]
      rw [List.flatten_cons]
      calc List.Perm _ (((x :: xs).take k ++ ((x :: xs).drop k).take (size - k))
            ++ ((x :: xs).drop size)) :=
            ((insertAll_perm _ _).trans (by simpa using runPerm.append_right _)).append rest
        _ = x :: xs := by rw [pieces, List.take_append_drop]

theorem foldl_merge_perm (cs : List (List α)) (acc : List α) :
    (cs.foldl (merge lt) acc).Perm (acc ++ cs.flatten) := by
  induction cs generalizing acc with
  | nil => simp
  | cons c cs more =>
      rw [List.foldl_cons, List.flatten_cons, ← List.append_assoc]
      exact (more _).trans ((merge_perm acc c).append_right _)

/-- Whatever the test answers, sorting keeps the entries of the list. -/
theorem sort_perm (xs : List α) : (sort lt xs).Perm xs := by
  unfold sort
  refine (foldl_merge_perm _ []).trans ?_
  rw [List.nil_append]
  exact chunks_perm _ xs

/-! ## Each step keeps keys ascending -/

section Ascending

variable {key : α → K} {good : α → Prop}

/-- The entries a climbing run takes after `p` have keys no smaller than the entries before them. -/
theorem climbing_sorted (keyed : Keyed lt key good) :
    ∀ (p : α) (xs : List α), good p → (∀ y ∈ xs, good y) →
      (p :: xs.take (climbing lt p xs)).Pairwise fun u v => key u ≤ key v := by
  intro p xs
  induction p, xs using climbing.induct lt with
  | case1 p => intro _ _; simp [climbing]
  | case2 p x xs stop => intro _ _; simp [climbing, stop]
  | case3 p x xs continues rest =>
      intro goodP all
      have goodX := all x (List.mem_cons_self ..)
      have up := keyed.le_of_false goodP goodX (Bool.eq_false_iff.2 continues)
      have more := rest goodX fun y member => all y (List.mem_cons_of_mem x member)
      rw [climbing, if_neg continues, List.take_succ_cons]
      refine List.Pairwise.cons (fun v member => ?_) more
      rcases List.mem_cons.1 member with rfl | later
      · exact up
      · exact le_trans up (List.rel_of_pairwise_cons more later)

/-- The entries a falling run takes after `p` have keys below the entries before them. -/
theorem falling_sorted (keyed : Keyed lt key good) :
    ∀ (p : α) (xs : List α), good p → (∀ y ∈ xs, good y) →
      (p :: xs.take (falling lt p xs)).Pairwise fun u v => key v < key u := by
  intro p xs
  induction p, xs using falling.induct lt with
  | case1 p => intro _ _; simp [falling]
  | case2 p x xs continues rest =>
      intro goodP all
      have goodX := all x (List.mem_cons_self ..)
      have down := keyed.lt_of_true goodX goodP continues
      have more := rest goodX fun y member => all y (List.mem_cons_of_mem x member)
      rw [falling, if_pos continues, List.take_succ_cons]
      refine List.Pairwise.cons (fun v member => ?_) more
      rcases List.mem_cons.1 member with rfl | later
      · exact down
      · exact lt_trans (List.rel_of_pairwise_cons more later) down
  | case3 p x xs stop => intro _ _; simp [falling, stop]

/-- The natural run at the head of a list, read in its own direction, ascends. -/
theorem leading_run_sorted (keyed : Keyed lt key good) (x : α) (xs : List α)
    (all : ∀ y ∈ x :: xs, good y) :
    (if (leading lt (x :: xs)).2 then ((x :: xs).take (leading lt (x :: xs)).1).reverse
      else (x :: xs).take (leading lt (x :: xs)).1).Pairwise fun u v => key u ≤ key v := by
  have goodX := all x (List.mem_cons_self ..)
  have rest : ∀ y ∈ xs, good y := fun y member => all y (List.mem_cons_of_mem x member)
  cases xs with
  | nil => simp [leading]
  | cons y ys =>
      by_cases falls : lt y x = true
      · have run : leading lt (x :: y :: ys) = (falling lt x (y :: ys) + 1, true) := by
          simp [leading, falling, falls]
        rw [run, if_pos rfl, List.take_succ_cons, List.pairwise_reverse]
        exact (falling_sorted keyed x (y :: ys) goodX rest).imp le_of_lt
      · have run : leading lt (x :: y :: ys) = (climbing lt x (y :: ys) + 1, false) := by
          simp [leading, climbing, falls]
        rw [run, if_neg Bool.false_ne_true, List.take_succ_cons]
        exact climbing_sorted keyed x (y :: ys) goodX rest

/-- An array whose keys ascend has them ascending between any two positions. -/
theorem getElem_le_of_sorted {a : Array α} (sorted : a.toList.Pairwise fun u v => key u ≤ key v)
    {i j : Nat} (hi : i < a.size) (hj : j < a.size) (le : i ≤ j) : key a[i] ≤ key a[j] := by
  rcases Nat.lt_or_eq_of_le le with earlier | rfl
  · have pair := List.pairwise_iff_getElem.1 sorted i j (by simpa using hi) (by simpa using hj) earlier
    simpa using pair
  · exact le_rfl

/-- Positions `l ≤ r` bracket the place of `x` in an array: keys before `l` are not above `x`'s, keys from `r` on are. -/
def Brackets (key : α → K) (a : Array α) (x : α) (l r : Nat) : Prop :=
  l ≤ r ∧ r ≤ a.size ∧ (∀ (i : Nat) (h : i < a.size), i < l → key a[i] ≤ key x) ∧
    ∀ (i : Nat) (h : i < a.size), r ≤ i → key x < key a[i]

/-- Binary search keeps the bracket around the place of `x`, and closes it. -/
theorem slot_brackets (keyed : Keyed lt key good) {a : Array α} {x : α}
    (all : ∀ y ∈ a.toList, good y) (sorted : a.toList.Pairwise fun u v => key u ≤ key v)
    (goodX : good x) :
    ∀ l r, Brackets key a x l r → Brackets key a x (slot lt a x l r) (slot lt a x l r) := by
  intro l r
  induction l, r using slot.induct lt a x with
  | case1 l r inside p earlier rest =>
      intro bracket
      obtain ⟨_, bound, below, above⟩ := bracket
      have middle : p < a.size := by
        have : p = l + (r - l) / 2 := rfl
        omega
      have value : a.getD p x = a[p] := by
        rw [Array.getD_eq_getD_getElem?, Array.getElem?_eq_getElem middle]
        rfl
      rw [value] at earlier
      have less := keyed.lt_of_true goodX (all _ (Array.getElem_mem_toList middle)) earlier
      rw [slot, if_pos inside]
      dsimp only
      rw [value, if_pos earlier]
      refine rest ⟨by omega, by omega, below, fun i hi late => ?_⟩
      exact lt_of_lt_of_le less (getElem_le_of_sorted sorted middle hi late)
  | case2 l r inside p later rest =>
      intro bracket
      obtain ⟨_, bound, below, above⟩ := bracket
      have halfway : p = l + (r - l) / 2 := rfl
      have middle : p < a.size := by omega
      have value : a.getD p x = a[p] := by
        rw [Array.getD_eq_getD_getElem?, Array.getElem?_eq_getElem middle]
        rfl
      rw [value] at later
      have notAbove := keyed.le_of_false (all _ (Array.getElem_mem_toList middle)) goodX
        (Bool.eq_false_iff.2 later)
      rw [slot, if_pos inside]
      dsimp only
      rw [value, if_neg later]
      refine rest ⟨by omega, bound, fun i hi before => ?_, above⟩
      exact le_trans (getElem_le_of_sorted sorted hi middle (by omega)) notAbove
  | case3 l r done =>
      intro bracket
      rw [slot, if_neg done]
      have closed : l = r := by have := bracket.1; omega
      subst closed
      exact bracket

theorem insertIdx_eq_take_append_drop {l : List α} {p : Nat} (x : α) (inside : p ≤ l.length) :
    l.insertIdx p x = l.take p ++ x :: l.drop p := by
  induction l generalizing p with
  | nil =>
      have zero : p = 0 := by simpa using inside
      subst zero
      rfl
  | cons y l more =>
      cases p with
      | zero => rfl
      | succ p =>
          rw [List.insertIdx_succ_cons, more (by simpa using inside)]
          rfl

/-- Putting `x` where a closed bracket stands keeps the keys ascending. -/
theorem insertIdx_sorted {a : Array α} {x : α} {p : Nat}
    (sorted : a.toList.Pairwise fun u v => key u ≤ key v) (place : Brackets key a x p p) :
    (a.toList.insertIdx p x).Pairwise fun u v => key u ≤ key v := by
  obtain ⟨_, inside, below, above⟩ := place
  have before : ∀ u ∈ a.toList.take p, key u ≤ key x := by
    intro u member
    obtain ⟨i, hi, rfl⟩ := List.mem_take_iff_getElem.1 member
    simpa using below i (by simp at hi; omega) (by simp at hi; omega)
  have after : ∀ v ∈ a.toList.drop p, key x ≤ key v := by
    intro v member
    obtain ⟨i, hi, rfl⟩ := List.mem_drop_iff_getElem.1 member
    simpa using le_of_lt (above (p + i) (by rw [← Array.length_toList]; omega) (by omega))
  rw [insertIdx_eq_take_append_drop x (by simpa using inside)]
  refine List.pairwise_append.2 ⟨sorted.sublist (List.take_sublist _ _),
    List.Pairwise.cons after (sorted.sublist (List.drop_sublist _ _)), fun u early v late => ?_⟩
  rcases List.mem_cons.1 late with rfl | late
  · exact before u early
  · exact le_trans (before u early) (after v late)

theorem insertAll_sorted (keyed : Keyed lt key good) :
    ∀ (a : Array α) (ys : List α), (∀ y ∈ a.toList, good y) → (∀ y ∈ ys, good y) →
      a.toList.Pairwise (fun u v => key u ≤ key v) →
      (insertAll lt a ys).toList.Pairwise fun u v => key u ≤ key v := by
  intro a ys
  induction ys generalizing a with
  | nil => intro _ _ sorted; simpa [insertAll] using sorted
  | cons y ys more =>
      intro all goods sorted
      have goodY := goods y (List.mem_cons_self ..)
      have place := slot_brackets keyed all sorted goodY 0 a.size
        ⟨Nat.zero_le _, Nat.le_refl _, fun _ _ none => absurd none (Nat.not_lt_zero _),
          fun _ hi late => absurd hi (Nat.not_lt.2 late)⟩
      have inside : slot lt a y 0 a.size ≤ a.size := place.2.1
      rw [insertAll]
      have inserted : (a.insertIdxIfInBounds (slot lt a y 0 a.size) y).toList =
          a.toList.insertIdx (slot lt a y 0 a.size) y := by
        rw [Array.insertIdxIfInBounds, dif_pos inside, Array.toList_insertIdx]
      refine more _ ?_ (fun z member => goods z (List.mem_cons_of_mem y member)) ?_
      · intro z member
        rw [inserted, List.mem_insertIdx (by simpa using inside)] at member
        rcases member with rfl | old
        · exact goodY
        · exact all z old
      · rw [inserted]
        exact insertIdx_sorted sorted place

/-- Every chunk ascends. -/
theorem chunks_sorted (keyed : Keyed lt key good) (least : Nat) :
    ∀ xs : List α, (∀ y ∈ xs, good y) →
      ∀ c ∈ chunks lt least xs, c.Pairwise fun u v => key u ≤ key v := by
  intro xs
  induction xs using chunks.induct lt least with
  | case1 => intro _ c member; simp [chunks] at member
  | case2 x xs k size rest =>
      intro all c member
      rw [chunks] at member
      rcases List.mem_cons.1 member with rfl | later
      · have runGood : ∀ y ∈ (if (leading lt (x :: xs)).2 then ((x :: xs).take k).reverse
            else (x :: xs).take k), good y := by
          intro y inRun
          split at inRun
          · exact all y (List.mem_of_mem_take (List.mem_reverse.1 inRun))
          · exact all y (List.mem_of_mem_take inRun)
        exact insertAll_sorted keyed _ _ (by simpa using runGood)
          (fun y inRest => all y (List.mem_of_mem_drop (List.mem_of_mem_take inRest)))
          (by simpa using leading_run_sorted keyed x xs all)
      · exact rest (fun y inRest => all y (List.mem_of_mem_drop inRest)) c later

theorem merge_sorted (keyed : Keyed lt key good) :
    ∀ xs ys : List α, (∀ y ∈ xs, good y) → (∀ y ∈ ys, good y) →
      xs.Pairwise (fun u v => key u ≤ key v) → ys.Pairwise (fun u v => key u ≤ key v) →
      (merge lt xs ys).Pairwise fun u v => key u ≤ key v := by
  intro xs ys
  induction xs, ys using merge.induct lt with
  | case1 ys => intro _ _ _ sortedYs; simpa [merge] using sortedYs
  | case2 xs nonempty =>
      intro _ _ sortedXs _
      cases xs with
      | nil => exact absurd rfl nonempty
      | cons x xs => simpa [merge] using sortedXs
  | case3 x xs y ys first rest =>
      intro goodXs goodYs sortedXs sortedYs
      have goodX := goodXs x (List.mem_cons_self ..)
      have goodY := goodYs y (List.mem_cons_self ..)
      have less := le_of_lt (keyed.lt_of_true goodY goodX first)
      rw [merge, if_pos first]
      refine List.Pairwise.cons (fun z member => ?_)
        (rest goodXs (fun z inYs => goodYs z (List.mem_cons_of_mem y inYs)) sortedXs
          (List.Pairwise.of_cons sortedYs))
      rcases List.mem_append.1 ((merge_perm _ _).mem_iff.1 member) with fromXs | fromYs
      · rcases List.mem_cons.1 fromXs with rfl | later
        · exact less
        · exact le_trans less (List.rel_of_pairwise_cons sortedXs later)
      · exact List.rel_of_pairwise_cons sortedYs fromYs
  | case4 x xs y ys second rest =>
      intro goodXs goodYs sortedXs sortedYs
      have goodX := goodXs x (List.mem_cons_self ..)
      have goodY := goodYs y (List.mem_cons_self ..)
      have notAbove := keyed.le_of_false goodX goodY (Bool.eq_false_iff.2 second)
      rw [merge, if_neg second]
      refine List.Pairwise.cons (fun z member => ?_)
        (rest (fun z inXs => goodXs z (List.mem_cons_of_mem x inXs)) goodYs
          (List.Pairwise.of_cons sortedXs) sortedYs)
      rcases List.mem_append.1 ((merge_perm _ _).mem_iff.1 member) with fromXs | fromYs
      · exact List.rel_of_pairwise_cons sortedXs fromXs
      · rcases List.mem_cons.1 fromYs with rfl | later
        · exact notAbove
        · exact le_trans notAbove (List.rel_of_pairwise_cons sortedYs later)

theorem foldl_merge_sorted (keyed : Keyed lt key good) :
    ∀ (cs : List (List α)) (acc : List α), (∀ y ∈ acc, good y) → (∀ c ∈ cs, ∀ y ∈ c, good y) →
      acc.Pairwise (fun u v => key u ≤ key v) → (∀ c ∈ cs, c.Pairwise fun u v => key u ≤ key v) →
      (cs.foldl (merge lt) acc).Pairwise fun u v => key u ≤ key v := by
  intro cs
  induction cs with
  | nil => intro acc _ _ sorted _; exact sorted
  | cons c cs more =>
      intro acc goodAcc goodCs sortedAcc sortedCs
      have goodC := goodCs c (List.mem_cons_self ..)
      rw [List.foldl_cons]
      refine more _ (fun y member => ?_) (fun d inCs => goodCs d (List.mem_cons_of_mem c inCs))
        (merge_sorted keyed acc c goodAcc goodC sortedAcc (sortedCs c (List.mem_cons_self ..)))
        (fun d inCs => sortedCs d (List.mem_cons_of_mem c inCs))
      rcases List.mem_append.1 ((merge_perm _ _).mem_iff.1 member) with fromAcc | fromC
      · exact goodAcc y fromAcc
      · exact goodC y fromC

/-- Where the test compares keys, sorting leaves the keys ascending. -/
theorem sort_sorted (keyed : Keyed lt key good) {xs : List α} (all : ∀ y ∈ xs, good y) :
    (sort lt xs).Pairwise fun u v => key u ≤ key v := by
  have inChunks : ∀ c ∈ chunks lt (minRun xs.length) xs, ∀ y ∈ c, good y := fun c member y inC =>
    all y ((chunks_perm _ xs).mem_iff.1 (List.mem_flatten.2 ⟨c, member, inC⟩))
  exact foldl_merge_sorted keyed _ [] (fun _ none => absurd none List.not_mem_nil) inChunks
    List.Pairwise.nil (chunks_sorted keyed _ xs all)

/-- Where the keys of the entries are distinct, sorting leaves them strictly ascending. -/
theorem sort_ascending (keyed : Keyed lt key good) {xs : List α} (all : ∀ y ∈ xs, good y)
    (distinct : (xs.map key).Nodup) : (sort lt xs).Pairwise fun u v => key u < key v := by
  have sortedDistinct : ((sort lt xs).map key).Nodup := ((sort_perm xs).map key).nodup_iff.2 distinct
  have both := (sort_sorted keyed all).and (List.pairwise_map.1 sortedDistinct)
  exact both.imp fun pair => lt_of_le_of_ne pair.1 pair.2

/-- Where the keys of a list's entries are distinct, sorting answers the one arrangement whose keys strictly ascend. -/
theorem sort_eq_of_perm (keyed : Keyed lt key good) {xs ys : List α} (all : ∀ y ∈ xs, good y)
    (perm : xs.Perm ys) (strict : ys.Pairwise fun u v => key u < key v) : sort lt xs = ys := by
  have distinct : (xs.map key).Nodup :=
    (perm.map key).nodup_iff.2 (List.pairwise_map.2 (strict.imp ne_of_lt))
  exact ((sort_perm xs).trans perm).eq_of_pairwise
    (fun _ _ _ _ up down => absurd (lt_trans up down) (lt_irrefl _))
    (sort_ascending keyed all distinct) strict

end Ascending

end GameScript.Runs

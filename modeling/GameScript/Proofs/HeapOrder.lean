import GameScript.Proofs.DueOrder
import GameScript.Order.Heap

/-!
# A heap keeps its least entry at the root

The heap's functions compare entries only through a test `lt`.  Where that
test compares the keys of the entries in a linear order (`Keyed`: true
exactly when the first key is smaller), the array is a heap in the usual
sense: no child's key is below its parent's (`Ordered`), so the root holds a
least key.  `push` and `pop` keep an ordered array ordered, and whatever the
test answers they only move entries: `push` adds its entry and `pop` takes
out the root (`push_perm`, `pop_perm`).

Both sifts work on an array with a hole, a position whose content is about
to be written over.  `UpOrder` is what the rise of an entry needs, `DownOrder`
what the fall of the hole to a leaf keeps: every parent and child pair away
from the hole is in order, and the hole's children are no earlier than the
hole's parent.  A rise ends in an ordered array, and a fall ends at a leaf,
where every rise may start.
-/

namespace GameScript.Heap

variable {α K : Type} [LinearOrder K]

/-! ## Positions -/

/-- Position `c` is a child of position `p`; position `0` is nobody's child, though `parent 0 = 0`. -/
def IsChild (c p : Nat) : Prop := 0 < c ∧ parent c = p

theorem IsChild.parent_lt {c p : Nat} (child : IsChild c p) : p < c := by
  obtain ⟨positive, rfl⟩ := child
  exact Heap.parent_lt positive

theorem IsChild.left_le {c p : Nat} (child : IsChild c p) : 2 * p + 1 ≤ c := by
  obtain ⟨positive, rfl⟩ := child
  unfold parent
  omega

theorem isChild_left (p : Nat) : IsChild (2 * p + 1) p := ⟨by omega, by unfold parent; omega⟩

theorem isChild_right (p : Nat) : IsChild (2 * p + 2) p := ⟨by omega, by unfold parent; omega⟩

theorem IsChild.left_or_right {c p : Nat} (child : IsChild c p) : c = 2 * p + 1 ∨ c = 2 * p + 2 := by
  obtain ⟨positive, rfl⟩ := child
  unfold parent
  omega

/-! ## Orders with a hole -/

/-- No entry's key is below its parent's. -/
def Ordered (key : α → K) (a : Array α) : Prop :=
  ∀ i x y, 0 < i → a[i]? = some x → a[parent i]? = some y → key y ≤ key x

/-- No entry's key is below its parent's, among the pairs away from `hole`. -/
def OrderedExcept (key : α → K) (a : Array α) (hole : Nat) : Prop :=
  ∀ i x y, 0 < i → i ≠ hole → parent i ≠ hole → a[i]? = some x → a[parent i]? = some y →
    key y ≤ key x

/-- What the fall of a hole keeps: the pairs away from it are in order, and its children are no earlier than its parent. -/
structure DownOrder (key : α → K) (a : Array α) (hole : Nat) : Prop where
  except : OrderedExcept key a hole
  grand : hole ≠ 0 → ∀ c x y, IsChild c hole → a[c]? = some x → a[parent hole]? = some y →
    key y ≤ key x

/-- What the rise of `item` from a hole needs: besides the fall's order, `item` is no later than the hole's children. -/
structure UpOrder (key : α → K) (a : Array α) (hole : Nat) (item : α) : Prop
    extends DownOrder key a hole where
  below : ∀ c x, IsChild c hole → a[c]? = some x → key item ≤ key x

/-- Every entry of the array is `good`. -/
def AllGood (good : α → Prop) (a : Array α) : Prop := ∀ (i : Nat) x, a[i]? = some x → good x

variable {key : α → K} {good : α → Prop} {a : Array α}

theorem AllGood.set (all : AllGood good a) {v : α} (goodV : good v) (i : Nat) :
    AllGood good (a.setIfInBounds i v) := by
  intro j x found
  rw [Array.getElem?_setIfInBounds] at found
  split at found
  · split at found
    · exact Option.some.inj found ▸ goodV
    · cases found
  · exact all j x found

theorem allGood_of_mem (all : ∀ x ∈ a.toList, good x) : AllGood good a := fun i x found =>
  all x (List.mem_iff_getElem?.2 ⟨i, by simpa using found⟩)

/-- An ordered array with a hole anywhere has the order of the fall away from it. -/
theorem Ordered.except (ordered : Ordered key a) (hole : Nat) : OrderedExcept key a hole :=
  fun i x y positive _ _ => ordered i x y positive

/-- A position with no child in the array has the full order a rise needs. -/
theorem upOrder_of_leaf (except : OrderedExcept key a hole) (leaf : a.size ≤ 2 * hole + 1)
    (item : α) : UpOrder key a hole item where
  except := except
  grand := fun _ c _ _ child found _ => by
    have := child.left_le
    simp [Array.getElem?_eq_none (show a.size ≤ c by omega)] at found
  below := fun c _ child found => by
    have := child.left_le
    simp [Array.getElem?_eq_none (show a.size ≤ c by omega)] at found

/-! ## The rise -/

/--
One step of the rise: the parent moves down into the hole, which moves up to
the parent's place. The order between the old hole's parent and a child of it
holds away from the old hole.
-/
theorem UpOrder.move {hole : Nat} {item y : α} (order : UpOrder key a hole item) (nonzero : 0 < hole)
    (inside : hole < a.size) (above : a[parent hole]? = some y) (earlier : key item < key y) :
    UpOrder key (a.setIfInBounds hole y) (parent hole) item := by
  have lower := Heap.parent_lt nonzero
  have step : ∀ c x, IsChild c (parent hole) → c ≠ hole → a[c]? = some x → key y ≤ key x := by
    intro c x child other found
    refine order.except c x y child.1 other (by rw [child.2]; omega) found ?_
    rw [child.2]
    exact above
  refine ⟨⟨?_, ?_⟩, ?_⟩
  · intro i x z positive notHole notParent found foundParent
    have away : i ≠ hole := fun same => notParent (by rw [same])
    rw [Array.getElem?_setIfInBounds, if_neg (Ne.symm away)] at found
    rw [Array.getElem?_setIfInBounds] at foundParent
    by_cases under : parent i = hole
    · rw [if_pos under.symm, if_pos inside] at foundParent
      cases foundParent
      exact order.grand (by omega) i x y ⟨positive, under⟩ found above
    · rw [if_neg (Ne.symm under)] at foundParent
      exact order.except i x z positive away under found foundParent
  · intro parentNonzero c x z child found foundGrand
    have ancestor : parent (parent hole) ≠ hole := by
      have := Heap.parent_lt (Nat.pos_of_ne_zero parentNonzero)
      omega
    rw [Array.getElem?_setIfInBounds, if_neg (Ne.symm ancestor)] at foundGrand
    have rising : key z ≤ key y :=
      order.except (parent hole) y z (by omega) (by omega) ancestor above foundGrand
    rw [Array.getElem?_setIfInBounds] at found
    by_cases same : c = hole
    · rw [if_pos same.symm, if_pos inside] at found
      cases found
      exact rising
    · rw [if_neg (Ne.symm same)] at found
      exact le_trans rising (step c x child same found)
  · intro c x child found
    rw [Array.getElem?_setIfInBounds] at found
    by_cases same : c = hole
    · rw [if_pos same.symm, if_pos inside] at found
      cases found
      exact le_of_lt earlier
    · rw [if_neg (Ne.symm same)] at found
      exact le_trans (le_of_lt earlier) (step c x child same found)

/-- The rise ends: `item` goes into the hole, and the array is ordered. -/
theorem UpOrder.finish {hole : Nat} {item : α} (order : UpOrder key a hole item)
    (inside : hole < a.size) (stop : 0 < hole → ∀ y, a[parent hole]? = some y → key y ≤ key item) :
    Ordered key (a.setIfInBounds hole item) := by
  intro i x z positive found foundParent
  have notSelf : parent i ≠ i := Nat.ne_of_lt (Heap.parent_lt positive)
  rw [Array.getElem?_setIfInBounds] at found foundParent
  by_cases atHole : i = hole
  · subst atHole
    rw [if_pos rfl, if_pos inside] at found
    rw [if_neg (Ne.symm notSelf)] at foundParent
    cases found
    exact stop positive z foundParent
  · rw [if_neg (Ne.symm atHole)] at found
    by_cases under : parent i = hole
    · rw [if_pos under.symm, if_pos inside] at foundParent
      cases foundParent
      exact order.below i x ⟨positive, under⟩ found
    · rw [if_neg (Ne.symm under)] at foundParent
      exact order.except i x z positive atHole under found foundParent

variable {lt : α → α → Bool}

/-- A rise from an order that allows it ends in an ordered array. -/
theorem rise_ordered (keyed : Keyed lt key good) {item : α} (goodItem : good item) :
    ∀ (a : Array α) (hole : Nat), AllGood good a → hole < a.size → UpOrder key a hole item →
      Ordered key (rise lt item a hole) := by
  intro a hole
  induction a, hole using rise.induct lt item with
  | case1 a hole positive above moved rest =>
      intro all inside order
      have lower := Heap.parent_lt positive
      have found : a[parent hole]? = some (a.getD (parent hole) item) := by
        rw [Array.getD_eq_getD_getElem?, Array.getElem?_eq_getElem (by omega)]
        rfl
      rw [rise, if_pos positive]
      dsimp only
      rw [if_pos moved]
      have earlier := keyed.lt_of_true goodItem (all _ _ found) moved
      exact rest (all.set (all _ _ found) hole) (by simpa using Nat.lt_trans lower inside)
        (order.move positive inside found earlier)
  | case2 a hole positive above kept =>
      intro all inside order
      rw [rise, if_pos positive]
      dsimp only
      rw [if_neg kept]
      refine order.finish inside fun _ y found => ?_
      have value : above = y := by
        show a.getD (parent hole) item = y
        rw [Array.getD_eq_getD_getElem?, found]
        rfl
      rw [value, Bool.not_eq_true] at kept
      exact keyed.le_of_false (all _ _ found) goodItem kept
  | case3 a hole atRoot =>
      intro _ inside order
      rw [rise, if_neg atRoot]
      exact order.finish inside fun positive => absurd positive atRoot

/-! ## The fall -/

theorem smallerChild_right {lt : α → α → Bool} {hole : Nat} {fill : α}
    (inside : 2 * hole + 2 < a.size)
    (notEarlier : lt (a.getD (2 * hole + 1) fill) (a.getD (2 * hole + 2) fill) = false) :
    smallerChild lt a hole fill = 2 * hole + 2 := by
  unfold smallerChild
  simp only [show 2 * hole + 1 + 1 = 2 * hole + 2 by omega, inside, decide_true, notEarlier,
    Bool.not_false, Bool.and_self, if_true]

theorem smallerChild_left {lt : α → α → Bool} {hole : Nat} {fill : α}
    (leftOnly : ¬ (2 * hole + 2 < a.size ∧
      lt (a.getD (2 * hole + 1) fill) (a.getD (2 * hole + 2) fill) = false)) :
    smallerChild lt a hole fill = 2 * hole + 1 := by
  unfold smallerChild
  simp only [show 2 * hole + 1 + 1 = 2 * hole + 2 by omega]
  rw [if_neg]
  simpa using leftOnly

theorem smallerChild_inside (lt : α → α → Bool) {hole : Nat} (hasChild : 2 * hole + 1 < a.size)
    (fill : α) : IsChild (smallerChild lt a hole fill) hole ∧ smallerChild lt a hole fill < a.size := by
  by_cases right : 2 * hole + 2 < a.size ∧
      lt (a.getD (2 * hole + 1) fill) (a.getD (2 * hole + 2) fill) = false
  · rw [smallerChild_right right.1 right.2]
    exact ⟨isChild_right hole, right.1⟩
  · rw [smallerChild_left right]
    exact ⟨isChild_left hole, hasChild⟩

theorem getElem?_eq_getD {i : Nat} (inside : i < a.size) (fill : α) :
    a[i]? = some (a.getD i fill) := by
  rw [Array.getD_eq_getD_getElem?, Array.getElem?_eq_getElem inside]
  rfl

/-- The child a falling hole moves to has the least key among the hole's children. -/
theorem smallerChild_least (keyed : Keyed lt key good) (all : AllGood good a) {hole : Nat}
    (hasChild : 2 * hole + 1 < a.size) (fill : α) :
    ∀ c x y, IsChild c hole → a[c]? = some x → a[smallerChild lt a hole fill]? = some y →
      key y ≤ key x := by
  have foundLeft := getElem?_eq_getD hasChild fill
  by_cases right : 2 * hole + 2 < a.size ∧
      lt (a.getD (2 * hole + 1) fill) (a.getD (2 * hole + 2) fill) = false
  · rw [smallerChild_right right.1 right.2]
    have foundRight := getElem?_eq_getD right.1 fill
    have rightFirst := keyed.le_of_false (all _ _ foundRight) (all _ _ foundLeft) right.2
    intro c x y child found chosen
    rw [foundRight] at chosen
    cases chosen
    rcases child.left_or_right with rfl | rfl
    · rw [foundLeft] at found
      cases found
      exact rightFirst
    · rw [foundRight] at found
      cases found
      exact le_rfl
  · rw [smallerChild_left right]
    intro c x y child found chosen
    rw [foundLeft] at chosen
    cases chosen
    rcases child.left_or_right with rfl | rfl
    · rw [foundLeft] at found
      cases found
      exact le_rfl
    · have inside : 2 * hole + 2 < a.size := (Array.getElem?_eq_some_iff.1 found).1
      have foundRight := getElem?_eq_getD inside fill
      rw [found] at foundRight
      cases foundRight
      have earlier : lt (a.getD (2 * hole + 1) fill) (a.getD (2 * hole + 2) fill) = true := by
        simpa [inside] using right
      exact le_of_lt (keyed.lt_of_true (all _ _ foundLeft) (all _ _ found) earlier)

/-- The fall keeps the array's size and ends at a position inside it. -/
theorem fall_inside (lt : α → α → Bool) (fill : α) : ∀ (a : Array α) (hole : Nat), hole < a.size →
    (fall lt fill a hole).2 < (fall lt fill a hole).1.size ∧
      (fall lt fill a hole).1.size = a.size := by
  intro a hole
  induction a, hole using fall.induct lt fill with
  | case1 a hole hasChild child rest =>
      intro _
      have childInside := (smallerChild_inside lt hasChild fill).2
      rw [fall, if_pos hasChild]
      obtain ⟨leaf, size⟩ := rest (by simpa using childInside)
      exact ⟨leaf, by simpa using size⟩
  | case2 a hole leaf =>
      intro inside
      rw [fall, if_neg leaf]
      exact ⟨inside, rfl⟩

/-- One step of the fall: the least child moves up into the hole, which moves down to the child's place. -/
theorem DownOrder.move {hole c : Nat} {y : α} (order : DownOrder key a hole) (child : IsChild c hole)
    (inside : c < a.size) (moved : a[c]? = some y)
    (least : ∀ d x, IsChild d hole → a[d]? = some x → key y ≤ key x) :
    DownOrder key (a.setIfInBounds hole y) c := by
  have lower := child.parent_lt
  have holeInside : hole < a.size := Nat.lt_trans lower inside
  refine ⟨?_, ?_⟩
  · intro i x z positive notChild notParent found foundParent
    rw [Array.getElem?_setIfInBounds] at found foundParent
    by_cases atHole : i = hole
    · subst atHole
      rw [if_pos rfl, if_pos holeInside] at found
      rw [if_neg (Ne.symm (Nat.ne_of_lt (Heap.parent_lt positive)))] at foundParent
      cases found
      exact order.grand (by omega) c y z child moved foundParent
    · rw [if_neg (Ne.symm atHole)] at found
      by_cases under : parent i = hole
      · rw [if_pos under.symm, if_pos holeInside] at foundParent
        cases foundParent
        exact least i x ⟨positive, under⟩ found
      · rw [if_neg (Ne.symm under)] at foundParent
        exact order.except i x z positive atHole under found foundParent
  · intro _ d x z grandchild found foundParent
    have deeper := grandchild.parent_lt
    rw [Array.getElem?_setIfInBounds, if_neg (by omega)] at found
    rw [child.2, Array.getElem?_setIfInBounds, if_pos rfl, if_pos holeInside] at foundParent
    cases foundParent
    exact order.except d x y grandchild.1 (by omega) (by rw [grandchild.2]; omega) found
      (by rw [grandchild.2]; exact moved)

/-- The fall ends at a leaf, where a rise of any entry may start. -/
theorem fall_upOrder (keyed : Keyed lt key good) (fill : α) :
    ∀ (a : Array α) (hole : Nat), AllGood good a → hole < a.size → DownOrder key a hole →
      ∀ item, UpOrder key (fall lt fill a hole).1 (fall lt fill a hole).2 item ∧
        AllGood good (fall lt fill a hole).1 := by
  intro a hole
  induction a, hole using fall.induct lt fill with
  | case1 a hole hasChild child rest =>
      intro all inside order item
      obtain ⟨isChild, childInside⟩ := smallerChild_inside lt hasChild fill
      have moved := getElem?_eq_getD childInside fill
      rw [fall, if_pos hasChild]
      exact rest (all.set (all _ _ moved) hole) (by simpa using childInside)
        (order.move isChild childInside moved fun d x other found =>
          smallerChild_least keyed all hasChild fill d x _ other found moved)
        item
  | case2 a hole leaf =>
      intro all _ order item
      rw [fall, if_neg leaf]
      exact ⟨upOrder_of_leaf order.except (by omega) item, all⟩

/-! ## Push and pop keep the order -/

/-- Pushing onto an ordered array of good entries keeps it ordered. -/
theorem push_ordered (keyed : Keyed lt key good) (ordered : Ordered key a) (all : AllGood good a)
    {item : α} (goodItem : good item) : Ordered key (push lt a item) := by
  have allPushed : AllGood good (a.push item) := by
    intro i x found
    rw [Array.getElem?_push] at found
    split at found
    · cases found
      exact goodItem
    · exact all i x found
  refine rise_ordered keyed goodItem _ _ allPushed (by simp)
    (upOrder_of_leaf ?_ (by simp; omega) item)
  intro i x y positive notLast notParent found foundParent
  rw [Array.getElem?_push, if_neg notLast] at found
  rw [Array.getElem?_push, if_neg notParent] at foundParent
  exact ordered i x y positive found foundParent

/-- An ordered array less its last entry is ordered. -/
theorem Ordered.pop (ordered : Ordered key a) : Ordered key a.pop := by
  intro i x y positive found foundParent
  rw [Array.getElem?_pop] at found foundParent
  split at found
  · split at foundParent
    · exact ordered i x y positive found foundParent
    · cases foundParent
  · cases found

/-- Changing entries without changing their keys keeps the order. -/
theorem Ordered.map (ordered : Ordered key a) {f : α → α} (sameKey : ∀ x, key (f x) = key x) :
    Ordered key (a.map f) := by
  intro i x y positive found foundParent
  rw [Array.getElem?_map] at found foundParent
  obtain ⟨x', found', rfl⟩ := Option.map_eq_some_iff.1 found
  obtain ⟨y', foundParent', rfl⟩ := Option.map_eq_some_iff.1 foundParent
  rw [sameKey, sameKey]
  exact ordered i x' y' positive found' foundParent'

theorem AllGood.pop (all : AllGood good a) : AllGood good a.pop := by
  intro i x found
  rw [Array.getElem?_pop] at found
  split at found
  · exact all i x found
  · cases found

/-- Popping from an ordered array of good entries leaves an ordered array. -/
theorem pop_ordered (keyed : Keyed lt key good) (ordered : Ordered key a) (all : AllGood good a)
    {top : α} {rest : Array α} (popped : pop lt a = some (top, rest)) : Ordered key rest := by
  unfold pop at popped
  split at popped
  · cases popped
  · rename_i last foundLast
    dsimp only at popped
    split at popped
    · cases popped
      exact ordered.pop
    · rename_i nonempty
      simp only [Option.some.injEq, Prod.mk.injEq] at popped
      obtain ⟨-, rfl⟩ := popped
      have popSize : 0 < a.pop.size :=
        Nat.pos_of_ne_zero fun zero => nonempty (Array.isEmpty_iff_size_eq_zero.2 zero)
      rw [Array.back?_eq_getElem?] at foundLast
      obtain ⟨up, allFallen⟩ := fall_upOrder keyed last a.pop 0 all.pop popSize
        ⟨ordered.pop.except 0, fun zero => absurd rfl zero⟩ last
      exact rise_ordered keyed (all _ _ foundLast) _ _ allFallen
        (fall_inside lt last a.pop 0 popSize).1 up

/-- The root of an ordered array has a least key. -/
theorem Ordered.root_le (ordered : Ordered key a) {root : α} (atRoot : a[0]? = some root) :
    ∀ (i : Nat) x, a[i]? = some x → key root ≤ key x := by
  intro i
  induction i using Nat.strongRecOn with
  | ind i below =>
      intro x found
      by_cases zero : i = 0
      · subst zero
        rw [atRoot] at found
        cases found
        exact le_rfl
      · have lower := Heap.parent_lt (Nat.pos_of_ne_zero zero)
        have inside : parent i < a.size := by
          have := (Array.getElem?_eq_some_iff.1 found).1
          omega
        have foundParent : a[parent i]? = some a[parent i] := Array.getElem?_eq_getElem inside
        exact le_trans (below (parent i) lower _ foundParent)
          (ordered i x _ (Nat.pos_of_ne_zero zero) found foundParent)

/-- The root of an ordered array heads every arrangement of its entries whose keys strictly ascend. -/
theorem Ordered.root_eq_head (ordered : Ordered key a) {root first : α} {rest : List α}
    (atRoot : a[0]? = some root) (perm : a.toList.Perm (first :: rest))
    (ascending : (first :: rest).Pairwise fun x y => key x < key y) : root = first := by
  have rootIn : root ∈ first :: rest := perm.subset (List.mem_iff_getElem?.2 ⟨0, by simpa using atRoot⟩)
  rcases List.mem_cons.1 rootIn with same | later
  · exact same
  · obtain ⟨i, found⟩ := List.mem_iff_getElem?.1 (perm.symm.subset (List.mem_cons_self ..))
    have least := ordered.root_le atRoot i first (by simpa using found)
    exact absurd least (not_le_of_gt (List.rel_of_pairwise_cons ascending later))

/-! ## Push and pop only move entries -/

/-- Writing `x` at `i` after moving the entry at `j` into `i` is writing `x` at `i` and swapping. -/
theorem set_move_perm {l : List α} {i j : Nat} (insideI : i < l.length) (insideJ : j < l.length)
    (x : α) : ((l.set i l[j]).set j x).Perm (l.set i x) := by
  by_cases same : i = j
  · subst same
    rw [List.set_set]
  · have swapped := List.set_set_perm (show i < (l.set i x).length by simpa using insideI)
      (show j < (l.set i x).length by simpa using insideJ)
    rw [List.getElem_set_ne same, List.getElem_set_self, List.set_set] at swapped
    exact swapped

theorem rise_perm (lt : α → α → Bool) (item : α) :
    ∀ (a : Array α) (hole : Nat), hole < a.size →
      (rise lt item a hole).toList.Perm (a.setIfInBounds hole item).toList := by
  intro a hole
  induction a, hole using rise.induct lt item with
  | case1 a hole positive above moved rest =>
      intro inside
      have lower := Heap.parent_lt positive
      have value : above = a[parent hole] := by
        show a.getD (parent hole) item = a[parent hole]
        rw [Array.getD_eq_getD_getElem?, Array.getElem?_eq_getElem (by omega)]
        rfl
      rw [rise, if_pos positive]
      dsimp only
      rw [if_pos moved]
      refine (rest (by simpa using Nat.lt_trans lower inside)).trans ?_
      simp only [Array.toList_setIfInBounds]
      rw [value]
      exact set_move_perm (by rw [Array.length_toList]; exact inside)
        (by rw [Array.length_toList]; exact Nat.lt_trans lower inside) item
  | case2 a hole positive above kept =>
      intro _
      rw [rise, if_pos positive]
      dsimp only
      rw [if_neg kept]
  | case3 a hole atRoot =>
      intro _
      rw [rise, if_neg atRoot]

theorem fall_perm (lt : α → α → Bool) (fill : α) :
    ∀ (a : Array α) (hole : Nat), hole < a.size → ∀ x,
      ((fall lt fill a hole).1.setIfInBounds (fall lt fill a hole).2 x).toList.Perm
        (a.setIfInBounds hole x).toList := by
  intro a hole
  induction a, hole using fall.induct lt fill with
  | case1 a hole hasChild child rest =>
      intro inside x
      have childInside := (smallerChild_inside lt hasChild fill).2
      have value : a.getD (smallerChild lt a hole fill) fill = a[smallerChild lt a hole fill] := by
        rw [Array.getD_eq_getD_getElem?, Array.getElem?_eq_getElem childInside]
        rfl
      rw [fall, if_pos hasChild]
      refine (rest (by simpa using childInside) x).trans ?_
      simp only [Array.toList_setIfInBounds]
      rw [value]
      exact set_move_perm (by rw [Array.length_toList]; exact inside)
        (by rw [Array.length_toList]; exact childInside) x
  | case2 a hole leaf =>
      intro _ x
      rw [fall, if_neg leaf]

/-- Pushing adds the entry. -/
theorem push_perm (lt : α → α → Bool) (a : Array α) (item : α) :
    (push lt a item).toList.Perm (a.toList ++ [item]) := by
  refine (rise_perm lt item (a.push item) a.size (by simp)).trans ?_
  simp [Array.toList_setIfInBounds, List.set_append_right]

theorem mem_push {lt : α → α → Bool} {item x : α} :
    x ∈ (push lt a item).toList ↔ x ∈ a.toList ∨ x = item := by
  rw [(push_perm lt a item).mem_iff, List.mem_append, List.mem_singleton]

/-- An array whose last entry is `last` is its pop with `last` after it. -/
theorem toList_eq_pop_append {last : α} (foundLast : a[a.size - 1]? = some last) :
    a.toList = a.pop.toList ++ [last] := by
  have sizePos : 0 < a.size := by
    have := (Array.getElem?_eq_some_iff.1 foundLast).1
    omega
  have nonNil : a.toList ≠ [] := List.ne_nil_of_length_pos (by simpa using sizePos)
  have lastEq : a.toList.getLast nonNil = last := by
    obtain ⟨_, value⟩ := Array.getElem?_eq_some_iff.1 foundLast
    rw [List.getLast_eq_getElem]
    simpa using value
  rw [Array.toList_pop, ← lastEq, List.dropLast_concat_getLast]

/-- A heap with an entry answers a pop. -/
theorem pop_isSome (lt : α → α → Bool) {a : Array α} (nonempty : 0 < a.size) :
    (pop lt a).isSome = true := by
  have last : a.back? = some a[a.size - 1] := by
    rw [Array.back?_eq_getElem?, Array.getElem?_eq_getElem (by omega)]
  unfold pop
  rw [last]
  dsimp only
  split <;> rfl

/-- Popping takes out the root and answers it. -/
theorem pop_perm {top : α} {rest : Array α} (popped : pop lt a = some (top, rest)) :
    a[0]? = some top ∧ a.toList.Perm (top :: rest.toList) := by
  unfold pop at popped
  split at popped
  · cases popped
  · rename_i last foundLast
    rw [Array.back?_eq_getElem?] at foundLast
    have whole := toList_eq_pop_append foundLast
    dsimp only at popped
    split at popped
    · rename_i empty
      cases popped
      have noRest : a.pop.toList = [] := List.length_eq_zero_iff.1 (by
        rw [Array.length_toList]
        exact Array.isEmpty_iff_size_eq_zero.1 empty)
      rw [noRest, List.nil_append] at whole
      refine ⟨?_, by rw [whole, noRest]⟩
      rw [← Array.getElem?_toList, whole]
      rfl
    · rename_i nonempty
      simp only [Option.some.injEq, Prod.mk.injEq] at popped
      obtain ⟨rfl, rfl⟩ := popped
      have popSize : 0 < a.pop.size :=
        Nat.pos_of_ne_zero fun zero => nonempty (Array.isEmpty_iff_size_eq_zero.2 zero)
      obtain ⟨first, tail, split⟩ : ∃ first tail, a.pop.toList = first :: tail := by
        cases listed : a.pop.toList with
        | nil =>
            rw [← Array.length_toList, listed] at popSize
            exact absurd popSize (Nat.lt_irrefl 0)
        | cons first tail => exact ⟨first, tail, rfl⟩
      have topValue : a.pop.getD 0 last = first := by
        rw [Array.getD_eq_getD_getElem?, ← Array.getElem?_toList, split]
        rfl
      have rose := rise_perm lt last _ _ (fall_inside lt last a.pop 0 popSize).1
      have fell := fall_perm lt last a.pop 0 popSize last
      refine ⟨?_, ?_⟩
      · rw [topValue, ← Array.getElem?_toList, whole, split]
        rfl
      · rw [topValue]
        refine List.Perm.trans ?_ (List.Perm.cons first (rose.trans fell).symm)
        rw [whole, split, Array.toList_setIfInBounds, split]
        simp only [List.set_cons_zero, List.cons_append]
        exact List.Perm.cons first (List.perm_append_singleton last tail)

end GameScript.Heap

/-!
# Binary heaps over a comparison test

A heap is an array in level order: the entry at `i` has its children at
`2 * i + 1` and `2 * i + 2`. Entries are compared only through a test
`lt a b`, "`a` comes strictly before `b`". The test need not be an order: a
time that is not a number compares false both ways with every time. So the
exact moves of the sifts, and not only the multiset they keep, decide where
each entry ends up and which entry leaves first; the functions here make
exactly those moves.

`push` appends the new entry and lets it rise past every parent it comes
strictly before. `pop` answers the root, lets the hole at the root fall to a
leaf, always towards the left child unless the left child does not come
strictly before the right one, puts the last entry into the hole and lets it
rise again.
-/

namespace GameScript.Heap

variable {α : Type}

/-- The position of the parent of the entry at `i`, for `0 < i`. -/
def parent (i : Nat) : Nat := (i - 1) / 2

theorem parent_lt {i : Nat} (h : 0 < i) : parent i < i := by
  unfold parent; omega

/--
Put `item` into the hole at `pos`: while the hole has a parent that `item`
comes strictly before, that parent moves down into the hole and the hole moves
up to the parent's place.
-/
def rise (lt : α → α → Bool) (item : α) (a : Array α) (pos : Nat) : Array α :=
  if 0 < pos then
    let above := a.getD (parent pos) item
    if lt item above then rise lt item (a.setIfInBounds pos above) (parent pos)
    else a.setIfInBounds pos item
  else a.setIfInBounds pos item
termination_by pos
decreasing_by unfold parent; omega

/--
The child a falling hole at `pos` moves to: the left one, unless a right one
exists and the left one does not come strictly before it.
-/
def smallerChild (lt : α → α → Bool) (a : Array α) (pos : Nat) (fill : α) : Nat :=
  let left := 2 * pos + 1
  if left + 1 < a.size && !lt (a.getD left fill) (a.getD (left + 1) fill) then left + 1 else left

theorem lt_smallerChild (lt : α → α → Bool) (a : Array α) (pos : Nat) (fill : α) :
    pos < smallerChild lt a pos fill := by
  simp only [smallerChild]; split <;> omega

/--
Let the hole at `pos` fall to a leaf: the chosen child moves up into the hole
until the hole has no child. Answers the array and where the hole ended.
-/
def fall (lt : α → α → Bool) (fill : α) (a : Array α) (pos : Nat) : Array α × Nat :=
  if 2 * pos + 1 < a.size then
    let child := smallerChild lt a pos fill
    fall lt fill (a.setIfInBounds pos (a.getD child fill)) child
  else (a, pos)
termination_by a.size - pos
decreasing_by
  have := lt_smallerChild lt a pos fill
  simp only [Array.size_setIfInBounds]
  omega

/-- Add an entry. -/
def push (lt : α → α → Bool) (a : Array α) (item : α) : Array α :=
  rise lt item (a.push item) a.size

/--
Take the root out. The last entry fills its place: the hole falls from the
root to a leaf, and the last entry rises from there.
-/
def pop (lt : α → α → Bool) (a : Array α) : Option (α × Array α) :=
  match a.back? with
  | none => none
  | some last =>
    let rest := a.pop
    if rest.isEmpty then some (last, rest)
    else
      let top := rest.getD 0 last
      let (holed, pos) := fall lt last rest 0
      some (top, rise lt last holed pos)

end GameScript.Heap

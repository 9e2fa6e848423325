/-!
# Sorting by runs

`Runs.sort lt xs` sorts stably by a strict test `lt`, "comes strictly
before", in the manner of an adaptive merge sort. The list is cut into chunks
of at least `minRun` entries (all of it when it has fewer than 64). Each
chunk starts with its natural run, the longest prefix in which no entry comes
strictly before its predecessor, or else in which every entry does, and then
that run reversed. The rest of the chunk is placed entry by entry with binary
insertion, after every entry it does not come strictly before. The chunks are
merged, an entry of a later chunk going first only when it comes strictly
before.

When `lt` is a strict weak order any stable sort answers the same list. When
it is not (a time that is not a number compares false both ways), the answer
depends on which comparisons are made; for fewer than 64 entries these are
made exactly as described, which is what fixes the order of such entries.
-/

namespace GameScript.Runs

variable {α : Type}

/-- How many entries of `xs` continue a run after `p` in which none comes strictly before its predecessor. -/
def climbing (lt : α → α → Bool) : α → List α → Nat
  | _, [] => 0
  | p, x :: xs => if lt x p then 0 else climbing lt x xs + 1

/-- How many entries of `xs` continue a run after `p` in which each comes strictly before its predecessor. -/
def falling (lt : α → α → Bool) : α → List α → Nat
  | _, [] => 0
  | p, x :: xs => if lt x p then falling lt x xs + 1 else 0

/-- The length of the natural run at the start of a list, and whether it falls. -/
def leading (lt : α → α → Bool) : List α → Nat × Bool
  | [] => (0, false)
  | [_] => (1, false)
  | x :: y :: rest =>
    if lt y x then (falling lt y rest + 2, true) else (climbing lt y rest + 2, false)

theorem leading_pos (lt : α → α → Bool) (x : α) (xs : List α) : 0 < (leading lt (x :: xs)).1 := by
  cases xs with
  | nil => simp [leading]
  | cons y rest => simp only [leading]; split <;> simp

/-- The least slot in `[l, r)` of a sorted array whose entry `x` comes strictly before, or `r`. -/
def slot (lt : α → α → Bool) (a : Array α) (x : α) (l r : Nat) : Nat :=
  if l < r then
    let p := l + (r - l) / 2
    if lt x (a.getD p x) then slot lt a x l p else slot lt a x (p + 1) r
  else l
termination_by r - l

/-- Binary insertion: each entry goes after every entry of the sorted array it does not come strictly before. -/
def insertAll (lt : α → α → Bool) (a : Array α) : List α → Array α
  | [] => a
  | x :: xs => insertAll lt (a.insertIdxIfInBounds (slot lt a x 0 a.size) x) xs

/-- The shortest chunk for a list of `n` entries: `n` below 64, otherwise between 32 and 64. -/
def minRun (n : Nat) (odd : Bool := false) : Nat :=
  if n < 64 then n + (if odd then 1 else 0) else minRun (n / 2) (odd || n % 2 == 1)
termination_by n
decreasing_by omega

/-- Cut a list into sorted chunks of at least `least` entries (the last may be shorter). -/
def chunks (lt : α → α → Bool) (least : Nat) : List α → List (List α)
  | [] => []
  | x :: rest =>
    let k := (leading lt (x :: rest)).1
    let run := if (leading lt (x :: rest)).2 then ((x :: rest).take k).reverse else (x :: rest).take k
    let size := max k (min least (rest.length + 1))
    (insertAll lt run.toArray (((x :: rest).drop k).take (size - k))).toList ::
      chunks lt least ((x :: rest).drop size)
termination_by xs => xs.length
decreasing_by
  have := leading_pos lt x rest
  simp only [List.length_drop, List.length_cons]
  omega

/-- Merge two sorted lists; an entry of the second goes first only when it comes strictly before. -/
def merge (lt : α → α → Bool) : List α → List α → List α
  | [], ys => ys
  | xs, [] => xs
  | x :: xs, y :: ys => if lt y x then y :: merge lt (x :: xs) ys else x :: merge lt xs (y :: ys)

/-- Sort stably by `lt`. -/
def sort (lt : α → α → Bool) (xs : List α) : List α :=
  (chunks lt (minRun xs.length) xs).foldl (merge lt) []

end GameScript.Runs

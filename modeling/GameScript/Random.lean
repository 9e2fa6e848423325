/-!
# The random source

Random numbers come from the 32-bit Mersenne Twister (MT19937). A source is
seeded from an integer by feeding the 32-bit words of its magnitude, least
significant first, to the twister's array initialisation (zero feeds the
single word 0). A uniform double in `[0, 1)` takes two outputs `a` and `b`
and is `(⌊a / 32⌋ · 2^26 + ⌊b / 64⌋) / 2^53`, so every double it returns
is a multiple of `2^-53`.
-/

namespace GameScript

/-- The twister's state: 624 words and the position of the next word to hand out. -/
structure RandomSource where
  words : Array UInt32
  index : Nat
  deriving Inhabited

namespace RandomSource

/-- The number of words of state. -/
def size : Nat := 624

/-- The state seeded by a single word. -/
def ofWord (seed : UInt32) : Array UInt32 :=
  (List.range (size - 1)).foldl (fun (ws : Array UInt32) i =>
    let prev := ws.getD i 0
    ws.push ((1812433253 : UInt32) * (prev ^^^ (prev >>> 30)) + (i + 1).toUInt32)) #[seed]

/-- The 32-bit words of a natural number, least significant first; zero has the word 0. -/
def wordsOf (n : Nat) : List UInt32 :=
  if n < Nat.pow 2 32 then [n.toUInt32] else n.toUInt32 :: wordsOf (n / Nat.pow 2 32)
termination_by n
decreasing_by simp only [Nat.pow_eq] at *; omega

/--
One step of array seeding at position `i`: the word is mixed with its
predecessor by `mix`, and past the last word the walk starts again at 1 with
the last word copied to the front.
-/
def mixAt (ws : Array UInt32) (i : Nat) (mix : UInt32 → UInt32 → UInt32) : Array UInt32 × Nat :=
  let prev := ws.getD (i - 1) 0
  let ws := ws.setIfInBounds i (mix (ws.getD i 0) (prev ^^^ (prev >>> 30)))
  if i + 1 ≥ size then (ws.setIfInBounds 0 (ws.getD (size - 1) 0), 1) else (ws, i + 1)

/-- The state seeded by a non-empty list of words. -/
def ofKey (key : List UInt32) : Array UInt32 :=
  let keys := key.toArray
  let (ws, i, _) := (List.range (max size keys.size)).foldl (fun (ws, i, j) _ =>
    let (ws, i) := mixAt ws i fun w p => (w ^^^ (p * 1664525)) + keys.getD j 0 + j.toUInt32
    (ws, i, if j + 1 ≥ keys.size then 0 else j + 1)) (ofWord 19650218, 1, 0)
  let (ws, _) := (List.range (size - 1)).foldl (fun (ws, i) _ =>
    mixAt ws i fun w p => (w ^^^ (p * 1566083941)) - i.toUInt32) (ws, i)
  ws.setIfInBounds 0 0x80000000

/-- A source seeded by an integer: the words of its magnitude. -/
def ofSeed (seed : Int) : RandomSource :=
  ⟨ofKey (wordsOf seed.natAbs), size⟩

/-- The next state block: every word is regenerated from its successor and the word 397 on. -/
def twist (ws : Array UInt32) : Array UInt32 :=
  (List.range size).foldl (fun ws k =>
    let y := (ws.getD k 0 &&& 0x80000000) ||| (ws.getD ((k + 1) % size) 0 &&& 0x7FFFFFFF)
    let z := ws.getD ((k + 397) % size) 0 ^^^ (y >>> 1)
    ws.setIfInBounds k (if y &&& 1 == 1 then z ^^^ 0x9908B0DF else z)) ws

/-- A word scrambled for output. -/
def temper (y : UInt32) : UInt32 :=
  let y := y ^^^ (y >>> 11)
  let y := y ^^^ ((y <<< 7) &&& 0x9D2C5680)
  let y := y ^^^ ((y <<< 15) &&& 0xEFC60000)
  y ^^^ (y >>> 18)

/-- The next 32-bit output. -/
def next (r : RandomSource) : UInt32 × RandomSource :=
  let (ws, i) := if r.index ≥ size then (twist r.words, 0) else (r.words, r.index)
  (temper (ws.getD i 0), ⟨ws, i + 1⟩)

/-- A uniform double in `[0, 1)` with 53 random bits. -/
def uniform (r : RandomSource) : Float × RandomSource :=
  let (a, r) := r.next
  let (b, r) := r.next
  (Float.ofNat ((a >>> 5).toNat * 67108864 + (b >>> 6).toNat) / 9007199254740992.0, r)

end RandomSource

end GameScript

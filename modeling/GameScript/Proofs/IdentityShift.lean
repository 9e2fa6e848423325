import GameScript.Value.Operator
import GameScript.Value.Identity

/-!
# Moving identities

The identity of an object is only ever compared: with another identity, to
tell one object from another, and with 0, to tell a temporary from an object
that is stored.  So moving every identity up by one amount `d`, the 0 of a
temporary staying 0, changes nothing that a script can see.

`Value.shift d` moves the identities of a value.  This module proves that
every operation on values commutes with it: the number and the truth a value
stands for, equality and order, the operators, the debugging text (with entity
texts that agree on moved holders), and stamping, which from a counter moved
up by `d` hands out the moved identities.
-/

namespace GameScript

/-- An identity moved up by `d`; the 0 of a temporary stays 0. -/
def shiftIdent (d i : Nat) : Nat := if i = 0 then 0 else i + d

section ShiftIdent

variable {d i j : Nat}

@[simp]
theorem shiftIdent_zero (d : Nat) : shiftIdent d 0 = 0 := rfl

theorem shiftIdent_of_pos (positive : 0 < i) : shiftIdent d i = i + d := by
  simp [shiftIdent, Nat.pos_iff_ne_zero.1 positive]

@[simp]
theorem shiftIdent_eq_zero : shiftIdent d i = 0 ↔ i = 0 := by
  unfold shiftIdent
  split <;> omega

@[simp]
theorem shiftIdent_inj : shiftIdent d i = shiftIdent d j ↔ i = j := by
  unfold shiftIdent
  split <;> split <;> omega

@[simp]
theorem shiftIdent_beq : (shiftIdent d i == shiftIdent d j) = (i == j) := by
  by_cases same : i = j
  · subst same
    simp only [beq_self_eq_true]
  · rw [beq_eq_false_iff_ne.2 same, beq_eq_false_iff_ne.2 fun moved => same (shiftIdent_inj.1 moved)]

@[simp]
theorem shiftIdent_bne_zero : (shiftIdent d i != 0) = (i != 0) := by
  change (shiftIdent d i != shiftIdent d 0) = (i != 0)
  simp only [bne, shiftIdent_beq]

/-- Stamping from a counter moved up by `d` hands out the moved identity and counter. -/
theorem stampIdent_shift (positive : 0 < i) (ident : Nat) :
    stampIdent (shiftIdent d ident) (i + d) =
      (shiftIdent d (stampIdent ident i).1, (stampIdent ident i).2 + d) := by
  unfold stampIdent
  by_cases temporary : ident = 0
  · subst temporary
    simp only [shiftIdent_zero, beq_self_eq_true, if_true, Prod.mk.injEq]
    exact ⟨(shiftIdent_of_pos positive).symm, by omega⟩
  · simp [temporary]

end ShiftIdent

namespace Vec2

/-- A vector with the identities of its components moved up by `d`. -/
def shift (d : Nat) (v : Vec2) : Vec2 :=
  { v with xIdent := shiftIdent d v.xIdent, yIdent := shiftIdent d v.yIdent }

@[simp] theorem shift_x (d : Nat) (v : Vec2) : (v.shift d).x = v.x := rfl
@[simp] theorem shift_y (d : Nat) (v : Vec2) : (v.shift d).y = v.y := rfl
@[simp] theorem shift_xIdent (d : Nat) (v : Vec2) : (v.shift d).xIdent = shiftIdent d v.xIdent := rfl
@[simp] theorem shift_yIdent (d : Nat) (v : Vec2) : (v.shift d).yIdent = shiftIdent d v.yIdent := rfl

theorem stamp_shift {d next : Nat} (positive : 0 < next) (v : Vec2) :
    (v.shift d).stamp (next + d) = ((v.stamp next).1.shift d, (v.stamp next).2 + d) := by
  have counted : 0 < (stampIdent v.xIdent next).2 := by unfold stampIdent; split <;> omega
  simp only [stamp, shift_xIdent, shift_yIdent, stampIdent_shift positive, stampIdent_shift counted]
  rfl

end Vec2

namespace Color

/-- A colour with the identities of its components moved up by `d`. -/
def shift (d : Nat) (c : Color) : Color :=
  { c with rIdent := shiftIdent d c.rIdent, gIdent := shiftIdent d c.gIdent,
           bIdent := shiftIdent d c.bIdent, aIdent := shiftIdent d c.aIdent }

theorem stamp_shift {d next : Nat} (positive : 0 < next) (c : Color) :
    (c.shift d).stamp (next + d) = ((c.stamp next).1.shift d, (c.stamp next).2 + d) := by
  have grows : ∀ i n, 0 < n → 0 < (stampIdent i n).2 := by
    intro i n _
    unfold stampIdent
    split <;> omega
  simp only [stamp, shift, stampIdent_shift positive, stampIdent_shift (grows _ _ positive),
    stampIdent_shift (grows _ _ (grows _ _ positive)),
    stampIdent_shift (grows _ _ (grows _ _ (grows _ _ positive)))]

end Color

mutual

/-- A value with every identity in it moved up by `d`. -/
def Value.shift (d : Nat) : Value → Value
  | .null => .null
  | .bool b => .bool b
  | .int n => .int n
  | .float x ident => .float x (shiftIdent d ident)
  | .str s => .str s
  | .vec2 v => .vec2 (v.shift d)
  | .color c => .color (c.shift d)
  | .entity id => .entity id
  | .map ident entries => .map (shiftIdent d ident) (Value.shiftEntries d entries)
  | .list ident items => .list (shiftIdent d ident) (Value.shiftItems d items)

/-- List members with their identities moved up by `d`. -/
def Value.shiftItems (d : Nat) : List Value → List Value
  | [] => []
  | v :: rest => v.shift d :: Value.shiftItems d rest

/-- Map entries with their identities moved up by `d`. -/
def Value.shiftEntries (d : Nat) : List (Value × Value) → List (Value × Value)
  | [] => []
  | (k, v) :: rest => (k.shift d, v.shift d) :: Value.shiftEntries d rest

end

/-- A container being written, with the identity of a list or map moved up by `d`. -/
def Holder.shift (d : Nat) : Holder → Holder
  | .object ident => .object (shiftIdent d ident)
  | .properties entity => .properties entity
  | .fields serial => .fields serial

namespace Value

variable {d : Nat}

theorem shiftItems_eq_map (items : List Value) : shiftItems d items = items.map (shift d) := by
  induction items with
  | nil => rfl
  | cons v rest more => simp only [shiftItems, more, List.map_cons]

theorem shiftEntries_eq_map (entries : List (Value × Value)) :
    shiftEntries d entries = entries.map fun entry => (entry.1.shift d, entry.2.shift d) := by
  induction entries with
  | nil => rfl
  | cons entry rest more => simp only [shiftEntries, more, List.map_cons]

@[simp]
theorem toNumber_shift (v : Value) : (v.shift d).toNumber = v.toNumber := by
  cases v <;> rfl

@[simp]
theorem truthy_shift (v : Value) : (v.shift d).truthy = v.truthy := by
  cases v <;> rfl

@[simp]
theorem numberView?_shift (v : Value) : (v.shift d).numberView? = v.numberView? := by
  cases v <;> rfl

@[simp]
theorem shift_toValue (n : Number) : n.toValue.shift d = n.toValue := by
  cases n <;> rfl

theorem numeric_shift (v : Value) : (v.shift d).numeric = v.numeric.shift d := by
  cases v <;> rfl

@[simp]
theorem length_shiftEntries (entries : List (Value × Value)) :
    (shiftEntries d entries).length = entries.length := by
  rw [shiftEntries_eq_map, List.length_map]

@[simp]
theorem isEmpty_shiftItems (items : List Value) : (shiftItems d items).isEmpty = items.isEmpty := by
  cases items <;> rfl

/-! ## Equality and order -/

theorem sameDouble_shift (x y : Float) (i j : Nat) :
    sameDouble x (shiftIdent d i) y (shiftIdent d j) = sameDouble x i y j := by
  simp only [sameDouble, shiftIdent_bne_zero, shiftIdent_beq]

theorem vec2Matches_shift (a b : Vec2) : vec2Matches (a.shift d) (b.shift d) = vec2Matches a b := by
  simp only [vec2Matches, Vec2.shift_x, Vec2.shift_y, Vec2.shift_xIdent, Vec2.shift_yIdent,
    sameDouble_shift]

theorem colorMatches_shift (p q : Color) : colorMatches (p.shift d) (q.shift d) = colorMatches p q := by
  simp only [colorMatches, Color.shift, sameDouble_shift]

theorem oneDouble_shift (a b : Value) : oneDouble (a.shift d) (b.shift d) = oneDouble a b := by
  cases a <;> cases b <;> simp only [shift, oneDouble, shiftIdent_bne_zero, shiftIdent_beq]

/-- Looking up moved entries with a test that reads moved keys as it read the old ones. -/
theorem findEntry_shift (moved accepts : Value → Bool) (same : ∀ key, moved (key.shift d) = accepts key)
    (entries : List (Value × Value)) :
    findEntry moved (shiftEntries d entries) = (findEntry accepts entries).map (shift d) := by
  induction entries with
  | nil => rfl
  | cons entry rest more =>
    obtain ⟨k, v⟩ := entry
    simp only [shiftEntries, findEntry, same k]
    split
    · rfl
    · exact more

mutual

theorem equals_shift : (a b : Value) → equals (a.shift d) (b.shift d) = equals a b
  | .null, b | .bool _, b | .int _, b | .float _ _, b | .str _, b | .entity _, b => by
    cases b <;> rfl
  | .vec2 v, b => by
    cases b
    case vec2 w => exact vec2Matches_shift v w
    all_goals rfl
  | .color c, b => by
    cases b
    case color c' => exact colorMatches_shift c c'
    all_goals rfl
  | .list _ as, b => by
    cases b
    case list _ bs => exact itemsEqual_shift as bs
    all_goals rfl
  | .map _ as, b => by
    cases b
    case map _ bs =>
      simp only [shift, equals, length_shiftEntries, entriesWithin_shift as bs]
    all_goals rfl

theorem itemsEqual_shift : (as bs : List Value) →
    itemsEqual (shiftItems d as) (shiftItems d bs) = itemsEqual as bs
  | [], [] | [], _ :: _ | _ :: _, [] => rfl
  | a :: as, b :: bs => by
    simp only [shiftItems, itemsEqual, oneDouble_shift, equals_shift a b, itemsEqual_shift as bs]

theorem entriesWithin_shift : (as bs : List (Value × Value)) →
    entriesWithin (shiftEntries d as) (shiftEntries d bs) = entriesWithin as bs
  | [], _ => rfl
  | (k, v) :: rest, other => by
    have keys : ∀ key, (oneDouble (k.shift d) (key.shift d) || equals (k.shift d) (key.shift d)) =
        (oneDouble k key || equals k key) := fun key => by
      rw [oneDouble_shift, equals_shift k key]
    simp only [shiftEntries, entriesWithin, entriesWithin_shift rest other,
      findEntry_shift (fun key => oneDouble (k.shift d) key || equals (k.shift d) key)
        (fun key => oneDouble k key || equals k key) keys]
    cases findEntry (fun key => oneDouble k key || equals k key) other with
    | none => rfl
    | some w => simp only [Option.map, oneDouble_shift, equals_shift v w]

end

theorem ordered_shift (l r : Value) : ordered (l.shift d) (r.shift d) = ordered l r := by
  cases l <;> cases r <;> rfl

end Value

/-! ## Text -/

theorem Holder.shift_injective (d : Nat) : Function.Injective (Holder.shift d) := by
  intro a b same
  cases a <;> cases b <;> simp_all [Holder.shift]

/-- A container is open among the moved holders when it was among the old ones. -/
theorem Holder.contains_shift (d : Nat) (opened : List Holder) (holder : Holder) :
    (opened.map (Holder.shift d)).contains (holder.shift d) = opened.contains holder := by
  simp only [List.contains_eq_mem, decide_eq_decide, List.mem_map]
  constructor
  · rintro ⟨other, member, same⟩
    rwa [Holder.shift_injective d same] at member
  · intro member
    exact ⟨_, member, rfl⟩

theorem Holder.isOpen_shift (d : Nat) (opened : List Holder) (ident : Nat) :
    Holder.isOpen (opened.map (Holder.shift d)) (shiftIdent d ident) = Holder.isOpen opened ident := by
  simp only [Holder.isOpen, shiftIdent_bne_zero]
  rw [← Holder.contains_shift d opened (.object ident)]
  rfl

/--
Entity texts that agree across moved identities: the same names, and the same
record of every entity when the moved one is written within the moved holders.
-/
structure TextsAgree (d : Nat) (moved plain : EntityText) : Prop where
  name : moved.name = plain.name
  record : ∀ opened id, moved.record (opened.map (Holder.shift d)) id = plain.record opened id

@[simp]
theorem Vec2.format_shift (d : Nat) (v : Vec2) : (v.shift d).format = v.format := rfl

@[simp]
theorem Vec2.repr_shift (d : Nat) (v : Vec2) : (v.shift d).repr = v.repr := rfl

@[simp]
theorem Color.format_shift (d : Nat) (c : Color) : (c.shift d).format = c.format := rfl

@[simp]
theorem Color.repr_shift (d : Nat) (c : Color) : (c.shift d).repr = c.repr := rfl

section Text

variable {d : Nat} {moved plain : EntityText}

mutual

theorem Value.repr_shift (agree : TextsAgree d moved plain) (opened : List Holder) : (v : Value) →
    (v.shift d).repr moved (opened.map (Holder.shift d)) = v.repr plain opened
  | .null | .bool _ | .int _ | .float _ _ | .str _ | .vec2 _ | .color _ => rfl
  | .entity id => agree.record opened id
  | .map ident entries => by
    simp only [Value.shift, Value.repr, Holder.isOpen_shift]
    split
    · rfl
    · rw [show Holder.object (shiftIdent d ident) :: opened.map (Holder.shift d) =
          (Holder.object ident :: opened).map (Holder.shift d) from rfl,
        Value.reprEntries_shift agree _ entries]
  | .list ident items => by
    simp only [Value.shift, Value.repr, Value.isEmpty_shiftItems, Holder.isOpen_shift]
    split
    · rfl
    split
    · rfl
    · rw [show Holder.object (shiftIdent d ident) :: opened.map (Holder.shift d) =
          (Holder.object ident :: opened).map (Holder.shift d) from rfl,
        Value.reprItems_shift agree _ items]

theorem Value.reprItems_shift (agree : TextsAgree d moved plain) (opened : List Holder) :
    (items : List Value) →
    Value.reprItems moved (opened.map (Holder.shift d)) (Value.shiftItems d items) =
      Value.reprItems plain opened items
  | [] => rfl
  | [v] => by
    simp only [Value.shiftItems, Value.reprItems]
    exact Value.repr_shift agree opened v
  | v :: w :: rest => by
    simp only [Value.shiftItems, Value.reprItems]
    rw [Value.repr_shift agree opened v]
    have more := Value.reprItems_shift agree opened (w :: rest)
    simp only [Value.shiftItems] at more
    rw [more]

theorem Value.reprEntries_shift (agree : TextsAgree d moved plain) (opened : List Holder) :
    (entries : List (Value × Value)) →
    Value.reprEntries moved (opened.map (Holder.shift d)) (Value.shiftEntries d entries) =
      Value.reprEntries plain opened entries
  | [] => rfl
  | [(k, v)] => by
    simp only [Value.shiftEntries, Value.reprEntries, Value.repr_shift agree opened k,
      Value.repr_shift agree opened v]
  | (k, v) :: entry :: rest => by
    simp only [Value.shiftEntries, Value.reprEntries, Value.repr_shift agree opened k,
      Value.repr_shift agree opened v]
    have more := Value.reprEntries_shift agree opened (entry :: rest)
    simp only [Value.shiftEntries] at more
    rw [more]

end

theorem Value.format_shift (agree : TextsAgree d moved plain) (v : Value) :
    (v.shift d).format moved = v.format plain := by
  cases v with
  | entity id => simp only [Value.shift, Value.format, agree.name]
  | map ident entries => exact Value.repr_shift agree [] (.map ident entries)
  | list ident items => exact Value.repr_shift agree [] (.list ident items)
  | _ => rfl

/-! ## Operators -/

@[simp] theorem Vec2.add_shift (a b : Vec2) : (a.shift d).add (b.shift d) = a.add b := rfl
@[simp] theorem Vec2.sub_shift (a b : Vec2) : (a.shift d).sub (b.shift d) = a.sub b := rfl
@[simp] theorem Vec2.scale_shift (a : Vec2) (k : Float) : (a.shift d).scale k = a.scale k := rfl

/--
An operator reads moved operands as it reads the old ones.  The proof runs
through every pair of kinds of operands, since each operator picks its case by
the kinds of both; texts of lists, maps and entities come from `repr_shift`.
-/
theorem Value.binary_shift (agree : TextsAgree d moved plain) (op : BinOp) (l r : Value) :
    Value.binary moved op (l.shift d) (r.shift d) = Value.binary plain op l r := by
  have onMap : ∀ i es, (Value.map (shiftIdent d i) (Value.shiftEntries d es)).repr moved [] =
      (Value.map i es).repr plain [] := fun i es => Value.repr_shift agree [] (.map i es)
  have onList : ∀ i items, (Value.list (shiftIdent d i) (Value.shiftItems d items)).repr moved [] =
      (Value.list i items).repr plain [] := fun i items => Value.repr_shift agree [] (.list i items)
  have onName : ∀ id, moved.name id = plain.name id := fun id => by rw [agree.name]
  cases op with
  | equal | notEqual => simp only [Value.binary, Value.equals_shift]
  | less | greater | lessEq | greaterEq => simp only [Value.binary, Value.ordered_shift]
  | add | sub | mul | div =>
    cases l <;> cases r <;> simp only [Value.binary, Value.shift, Value.toNumber, Value.format,
      Vec2.add_shift, Vec2.sub_shift, Vec2.scale_shift, Value.scaleVec, onMap, onList, onName,
      Vec2.format_shift, Color.format_shift] <;> rfl

end Text

namespace Value

variable {d : Nat}

theorem shift_map_toValue (x : Except Fault Number) :
    shift d <$> (Number.toValue <$> x) = Number.toValue <$> x := by
  cases x with
  | error => rfl
  | ok n => cases n <;> rfl

theorem shift_map_scaleVec (a : Vec2) (k : Number) : shift d <$> scaleVec a k = scaleVec a k := by
  unfold scaleVec
  cases k.toFloat <;> rfl

theorem shift_map_bind_scaleVec (a : Vec2) (x : Except Fault Number) :
    shift d <$> (x >>= scaleVec a) = x >>= scaleVec a := by
  cases x with
  | error => rfl
  | ok k => exact shift_map_scaleVec a k

theorem shift_map_joined (x y : Except Fault String) :
    shift d <$> (do return Value.str ((← x) ++ (← y))) = (do return Value.str ((← x) ++ (← y))) := by
  cases x <;> cases y <;> rfl

/-- An operator answers a new temporary: never one of its operands, nor anything inside one. -/
theorem shift_map_binary (t : EntityText) (op : BinOp) (l r : Value) :
    shift d <$> binary t op l r = binary t op l r := by
  cases op <;> simp only [binary]
  all_goals
    repeat' split
  all_goals first
    | rfl
    | exact shift_map_joined _ _
    | exact shift_map_toValue _
    | exact shift_map_scaleVec _ _
    | exact shift_map_bind_scaleVec _ _

theorem unary_shift (op : UnaryOp) (v : Value) : unary op (v.shift d) = (unary op v).shift d := by
  cases op <;> cases v <;> rfl

/-! ## Stamping -/

mutual

theorem le_stamp (next : Nat) : (v : Value) → next ≤ (v.stamp next).2
  | .null | .bool _ | .int _ | .str _ | .entity _ => Nat.le_refl _
  | .float _ ident => by
    simp only [stamp, stampIdent]
    split <;> omega
  | .vec2 v => by
    simp only [stamp, Vec2.stamp, stampIdent]
    split <;> split <;> omega
  | .color c => by
    simp only [stamp, Color.stamp, stampIdent]
    split <;> split <;> split <;> split <;> omega
  | .map ident entries => by
    simp only [stamp]
    split
    · have := le_stampEntries (next + 1) entries
      omega
    · exact Nat.le_refl _
  | .list ident items => by
    simp only [stamp]
    split
    · have := le_stampItems (next + 1) items
      omega
    · exact Nat.le_refl _

theorem le_stampItems (next : Nat) : (items : List Value) → next ≤ (stampItems items next).2
  | [] => Nat.le_refl _
  | v :: rest => by
    have first := le_stamp next v
    have more := le_stampItems (v.stamp next).2 rest
    simp only [stampItems]
    omega

theorem le_stampEntries (next : Nat) : (entries : List (Value × Value)) →
    next ≤ (stampEntries entries next).2
  | [] => Nat.le_refl _
  | (k, v) :: rest => by
    have key := le_stamp next k
    have value := le_stamp (k.stamp next).2 v
    have more := le_stampEntries (v.stamp (k.stamp next).2).2 rest
    simp only [stampEntries]
    omega

end

mutual

/-- Stamping a moved value from the moved counter hands out the moved identities. -/
theorem stamp_shift {next : Nat} (positive : 0 < next) : (v : Value) →
    (v.shift d).stamp (next + d) = ((v.stamp next).1.shift d, (v.stamp next).2 + d)
  | .null | .bool _ | .int _ | .str _ | .entity _ => rfl
  | .float x ident => by
    simp only [shift, stamp, stampIdent_shift positive]
  | .vec2 v => by
    simp only [shift, stamp, Vec2.stamp_shift positive]
  | .color c => by
    simp only [shift, stamp, Color.stamp_shift positive]
  | .map ident entries => by
    by_cases temporary : ident = 0
    · subst temporary
      have inner := stampEntries_shift (Nat.succ_pos next) entries
      simp only [shift, stamp, shiftIdent_zero, beq_self_eq_true, if_true]
      rw [show next + d + 1 = next + 1 + d by omega, inner, shiftIdent_of_pos positive]
    · simp [shift, stamp, temporary]
  | .list ident items => by
    by_cases temporary : ident = 0
    · subst temporary
      have inner := stampItems_shift (Nat.succ_pos next) items
      simp only [shift, stamp, shiftIdent_zero, beq_self_eq_true, if_true]
      rw [show next + d + 1 = next + 1 + d by omega, inner, shiftIdent_of_pos positive]
    · simp [shift, stamp, temporary]

theorem stampItems_shift {next : Nat} (positive : 0 < next) : (items : List Value) →
    stampItems (shiftItems d items) (next + d) =
      (shiftItems d (stampItems items next).1, (stampItems items next).2 + d)
  | [] => rfl
  | v :: rest => by
    have counted : 0 < (v.stamp next).2 := Nat.lt_of_lt_of_le positive (le_stamp next v)
    simp only [shiftItems, stampItems, stamp_shift positive v, stampItems_shift counted rest]

theorem stampEntries_shift {next : Nat} (positive : 0 < next) : (entries : List (Value × Value)) →
    stampEntries (shiftEntries d entries) (next + d) =
      (shiftEntries d (stampEntries entries next).1, (stampEntries entries next).2 + d)
  | [] => rfl
  | (k, v) :: rest => by
    have counted : 0 < (k.stamp next).2 := Nat.lt_of_lt_of_le positive (le_stamp next k)
    have counted' : 0 < (v.stamp (k.stamp next).2).2 :=
      Nat.lt_of_lt_of_le counted (le_stamp _ v)
    simp only [shiftEntries, stampEntries, stamp_shift positive k, stamp_shift counted v,
      stampEntries_shift counted' rest]

end

/-! ## Temporaries -/

mutual

/-- Whether no identity stands anywhere in a value, as in every value a host hands in. -/
def isTemporary : Value → Bool
  | .float _ ident => ident == 0
  | .vec2 v => v.xIdent == 0 && v.yIdent == 0
  | .color c => c.rIdent == 0 && c.gIdent == 0 && c.bIdent == 0 && c.aIdent == 0
  | .map ident entries => ident == 0 && entriesTemporary entries
  | .list ident items => ident == 0 && itemsTemporary items
  | .null | .bool _ | .int _ | .str _ | .entity _ => true

/-- Whether no identity stands anywhere in a list of values. -/
def itemsTemporary : List Value → Bool
  | [] => true
  | v :: rest => v.isTemporary && itemsTemporary rest

/-- Whether no identity stands anywhere in the entries of a map. -/
def entriesTemporary : List (Value × Value) → Bool
  | [] => true
  | (k, v) :: rest => k.isTemporary && v.isTemporary && entriesTemporary rest

end

mutual

/-- Moving identities leaves a value with none as it is. -/
theorem shift_of_isTemporary : (v : Value) → v.isTemporary = true → v.shift d = v
  | .null, _ | .bool _, _ | .int _, _ | .str _, _ | .entity _, _ => rfl
  | .float x ident, temporary => by
    simp only [isTemporary, beq_iff_eq] at temporary
    subst temporary
    rfl
  | .vec2 ⟨_, _, _, _⟩, temporary => by
    simp only [isTemporary, Bool.and_eq_true, beq_iff_eq] at temporary
    obtain ⟨rfl, rfl⟩ := temporary
    rfl
  | .color ⟨_, _, _, _, _, _, _, _⟩, temporary => by
    simp only [isTemporary, Bool.and_eq_true, beq_iff_eq] at temporary
    obtain ⟨⟨⟨rfl, rfl⟩, rfl⟩, rfl⟩ := temporary
    rfl
  | .map ident entries, temporary => by
    simp only [isTemporary, Bool.and_eq_true, beq_iff_eq] at temporary
    simp only [shift, temporary.1, shiftIdent_zero, shiftEntries_of_temporary entries temporary.2]
  | .list ident items, temporary => by
    simp only [isTemporary, Bool.and_eq_true, beq_iff_eq] at temporary
    simp only [shift, temporary.1, shiftIdent_zero, shiftItems_of_temporary items temporary.2]

theorem shiftItems_of_temporary : (items : List Value) → itemsTemporary items = true →
    shiftItems d items = items
  | [], _ => rfl
  | v :: rest, temporary => by
    simp only [itemsTemporary, Bool.and_eq_true] at temporary
    simp only [shiftItems, shift_of_isTemporary v temporary.1,
      shiftItems_of_temporary rest temporary.2]

theorem shiftEntries_of_temporary : (entries : List (Value × Value)) →
    entriesTemporary entries = true → shiftEntries d entries = entries
  | [], _ => rfl
  | (k, v) :: rest, temporary => by
    simp only [entriesTemporary, Bool.and_eq_true] at temporary
    simp only [shiftEntries, shift_of_isTemporary k temporary.1.1,
      shift_of_isTemporary v temporary.1.2, shiftEntries_of_temporary rest temporary.2]

end

end Value

end GameScript

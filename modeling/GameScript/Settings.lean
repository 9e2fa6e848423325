import GameScript.Value.Basic
import GameScript.Number.Reading
import GameScript.Number.Binary64
import GameScript.Text.Ranges

/-!
# Session settings

The tunables of one session, each with a default and a bound, read from loose
input values. Reading coerces leniently: a double field takes integers,
booleans and numeric text; an integer field takes booleans, whole doubles and
integer text; a boolean field takes 0 and 1 and the words `yes`, `no`, `on`,
`off`, `true`, `false`, `t`, `f`, `y`, `n`. Integer text is an optional minus
and digits, read once leading zeros (and underscores among them) are dropped;
a point followed by zeros may end it, and underscores may stand between
digits, but a plus sign may not begin it. A value that cannot be read, or
breaks its field's bound, is reported under the field's name with the kind of
failure, every failing field in field order. Unknown names are ignored.
-/

namespace GameScript

/-- The tunables of one session. -/
structure Settings where
  /-- The step a tick advances by when none is given; above zero. -/
  tickDelta : Float := 1.0 / 60.0
  /-- How many log entries are kept; from 1 to 1000. -/
  maxLogEntries : Nat := 100
  /-- How deeply method calls may nest; at least 1. -/
  maxCallDepth : Nat := 64
  /-- How many scheduled calls one tick runs at most; at least 1. -/
  maxCallbacksPerTick : Nat := 100
  /-- The seed of the random source; none means an unseeded source. -/
  randomSeed : Option Int := none
  /-- Width of the spawn area; above zero. -/
  worldWidth : Float := 800.0
  /-- Height of the spawn area; above zero. -/
  worldHeight : Float := 600.0
  /-- Distance kept from the edges when spawning; at least zero. -/
  spawnMargin : Float := 100.0
  /-- Whether each instantiated component gets a world entity. -/
  bindEntities : Bool := true
  deriving Inhabited

/-- Why a setting was refused. -/
inductive SettingError where
  | greaterThan
  | greaterThanEqual
  | lessThanEqual
  | finiteNumber
  | intFromFloat
  | intParsing
  | intParsingSize
  | intType
  | floatParsing
  | floatType
  | boolParsing
  | boolType
  deriving Repr, DecidableEq, Inhabited

namespace SettingError

/-- The name under which a refusal is reported. -/
def tag : SettingError → String
  | .greaterThan => "greater_than"
  | .greaterThanEqual => "greater_than_equal"
  | .lessThanEqual => "less_than_equal"
  | .finiteNumber => "finite_number"
  | .intFromFloat => "int_from_float"
  | .intParsing => "int_parsing"
  | .intParsingSize => "int_parsing_size"
  | .intType => "int_type"
  | .floatParsing => "float_parsing"
  | .floatType => "float_type"
  | .boolParsing => "bool_parsing"
  | .boolType => "bool_type"

end SettingError

namespace Settings

/-- Blank characters trimmed around numeric text: Unicode white space, without the four separators. -/
def isTrimmed (c : Char) : Bool :=
  Text.isBlank c && !(0x1C ≤ c.toNat && c.toNat ≤ 0x1F)

/-- Text without blanks at either end. -/
def trim (cs : List Char) : List Char :=
  ((cs.dropWhile isTrimmed).reverse.dropWhile isTrimmed).reverse

/--
Text with its underscores removed, when each underscore stands alone and
neither end is one.
-/
def stripUnderscores (cs : List Char) : Option (List Char) :=
  if cs.head? == some '_' || cs.getLast? == some '_' then none
  else
    let rec go : Option Char → List Char → Option (List Char)
      | _, [] => some []
      | some '_', '_' :: _ => none
      | _, '_' :: rest => go (some '_') rest
      | _, c :: rest => (c :: ·) <$> go (some c) rest
    go none cs

/-- The digits of a decimal: whole part, fraction, with at least one digit in all. -/
def mantissa? (cs : List Char) : Option (List Char × List Char × List Char) :=
  let whole := cs.takeWhile Char.isDigit
  let rest := cs.dropWhile Char.isDigit
  match rest with
  | '.' :: more =>
    let fraction := more.takeWhile Char.isDigit
    if whole.isEmpty && fraction.isEmpty then none
    else some (whole, fraction, more.dropWhile Char.isDigit)
  | _ => if whole.isEmpty then none else some (whole, [], rest)

/-- The exponent part `e`/`E`, a sign and digits, of the whole remaining text. -/
def exponent? : List Char → Option Int
  | [] => some 0
  | e :: rest =>
    if e != 'e' && e != 'E' then none
    else
      let (negative, digits) := Reading.splitSign rest
      if digits.isEmpty || !digits.all Char.isDigit then none
      else
        let n : Int := Reading.digitsValue digits
        some (if negative then -n else n)

/--
Numeric text as a double: a sign, then `inf`, `infinity` or `nan` in any
case, or digits with an optional point and an optional exponent, rounded to
nearest.
-/
def readDouble? (cs : List Char) : Option Float :=
  let (negative, body) := Reading.splitSign cs
  let word := String.ofList (body.map Reading.lowerAscii)
  if word == "inf" || word == "infinity" then some (Binary64.infinity negative)
  else if word == "nan" then some Binary64.notANumber
  else do
    let (whole, fraction, rest) ← mantissa? body
    let e ← exponent? rest
    some (Reading.decimalToFloat negative (Reading.digitsValue (whole ++ fraction))
      (e - fraction.length))

/--
Integer text in its strict form: an optional minus sign, then `0` alone or
ASCII digits not starting with `0`.
-/
def readInteger? (cs : List Char) : Option Int :=
  let (negative, digits) := match cs with
    | '-' :: rest => (true, rest)
    | _ => (false, cs)
  if digits.isEmpty || !digits.all Char.isDigit then none
  else if digits.head? == some '0' && digits.length > 1 then none
  else
    let n : Int := Reading.digitsValue digits
    some (if negative then -n else n)

/--
Text with its leading zeros dropped: when it starts with `0`, every `0` and
`_` up to the first other character goes, and text of nothing else is `0`.
-/
def dropLeadingZeros (cs : List Char) : List Char :=
  match cs with
  | '0' :: rest =>
    match rest.dropWhile (fun c => c == '0' || c == '_') with
    | [] => ['0']
    | more => more
  | _ => cs

/-- Integer text read after its leading zeros are dropped. -/
def readLoose? (cs : List Char) : Option Int :=
  readInteger? (dropLeadingZeros cs)

/-- Integer text that ends in a point and at least one zero, without them. -/
def stripPointZeros (cs : List Char) : Option (List Char) :=
  match cs.dropWhile (· != '.') with
  | '.' :: zeros =>
    if !zeros.isEmpty && zeros.all (· == '0') then some (cs.takeWhile (· != '.')) else none
  | _ => none

/-- A double field's input as a double. -/
def doubleInput : Value → Except SettingError Float
  | .float x _ => .ok x
  | .int n =>
    match Binary64.ofInt? n with
    | some x => .ok x
    | none => .error .floatType
  | .bool b => .ok (if b then 1.0 else 0.0)
  | .str s =>
    match readDouble? (trim s.toList) with
    | some x => .ok x
    | none =>
      match (stripUnderscores s.toList).bind readDouble? with
      | some x => .ok x
      | none => .error .floatParsing
  | _ => .error .floatType

/-- A whole double as an integer: not finite, not whole and too large each fail. -/
def wholeOfDouble (x : Float) : Except SettingError Int :=
  match Binary64.shape x with
  | .notANumber | .infinite _ => .error .finiteNumber
  | .finite f =>
    if !f.isIntegral then .error .intFromFloat
    else if -9223372036854775808.0 < x && x < 9223372036854775808.0 then .ok f.truncate
    else .error .intParsingSize

/-- An integer field's input as an integer. -/
def integerInput : Value → Except SettingError Int
  | .int n => .ok n
  | .bool b => .ok (if b then 1 else 0)
  | .float x _ => wholeOfDouble x
  | .str s =>
    let cs := trim s.toList
    if (String.ofList cs).utf8ByteSize > 4300 then .error .intParsingSize
    else
      let underscoresDropped :=
        if Reading.underscoresValid cs then some (cs.filter (· != '_')) else none
      match readLoose? cs, (stripPointZeros cs).bind readLoose?,
          underscoresDropped.bind readLoose? with
      | some n, _, _ => .ok n
      | none, some n, _ => .ok n
      | none, none, some n => .ok n
      | none, none, none => .error .intParsing
  | _ => .error .intType

/-- The truth an integer stands for: only 0 and 1 stand for one. -/
def truthOfInteger (n : Int) : Except SettingError Bool :=
  if n == 0 then .ok false else if n == 1 then .ok true else .error .boolParsing

/-- Whether an integer fits in 64 signed bits, the integers read as such for a truth value. -/
def isWord (n : Int) : Bool :=
  -9223372036854775808 ≤ n && n ≤ 9223372036854775807

/-- A boolean field's input as a truth value. -/
def truthInput : Value → Except SettingError Bool
  | .bool b => .ok b
  | .str s =>
    let w := String.ofList (s.toList.map Reading.lowerAscii)
    if s == "0" || w == "f" || w == "n" || w == "no" || w == "off" || w == "false" then .ok false
    else if s == "1" || w == "t" || w == "y" || w == "on" || w == "yes" || w == "true" then .ok true
    else .error .boolParsing
  | .int n => if isWord n then truthOfInteger n else .error .boolType
  | .float x _ =>
    match wholeOfDouble x with
    | .ok n => truthOfInteger n
    | .error _ => .error .boolType
  | _ => .error .boolType

/-- A double above `bound`. -/
def doubleAbove (bound : Float) (v : Value) : Except SettingError Float := do
  let x ← doubleInput v
  if x > bound then return x else throw .greaterThan

/-- A double at least `bound`. -/
def doubleAtLeast (bound : Float) (v : Value) : Except SettingError Float := do
  let x ← doubleInput v
  if x >= bound then return x else throw .greaterThanEqual

/-- An integer from `low`, and at most `high` when there is one. -/
def countWithin (low : Int) (high : Option Int) (v : Value) : Except SettingError Nat := do
  let n ← integerInput v
  if n < low then throw .greaterThanEqual
  match high with
  | some h => if n > h then throw .lessThanEqual
  | none => pure ()
  return n.toNat

/-- An optional integer: null stands for none. -/
def optionalInteger : Value → Except SettingError (Option Int)
  | .null => .ok none
  | v => some <$> integerInput v

/-- The value given for `name`, the last one if it is given twice. -/
def lookup (values : List (String × Value)) (name : String) : Option Value :=
  (values.reverse.find? (·.1 == name)).map (·.2)

/-- One field read with `read` when given, else its default; a refusal is recorded under its name. -/
def field {α : Type} (values : List (String × Value)) (name : String) (default : α)
    (read : Value → Except SettingError α) : α × List (String × SettingError) :=
  match lookup values name with
  | none => (default, [])
  | some v =>
    match read v with
    | .ok a => (a, [])
    | .error e => (default, [(name, e)])

/-- Settings from named input values, or every refusal in field order. -/
def ofValues (values : List (String × Value)) : Except (List (String × SettingError)) Settings :=
  let d : Settings := {}
  let tickDelta := field values "tick_delta" d.tickDelta (doubleAbove 0.0)
  let maxLogEntries := field values "max_log_entries" d.maxLogEntries (countWithin 1 (some 1000))
  let maxCallDepth := field values "max_call_depth" d.maxCallDepth (countWithin 1 none)
  let maxCallbacksPerTick :=
    field values "max_callbacks_per_tick" d.maxCallbacksPerTick (countWithin 1 none)
  let randomSeed := field values "random_seed" d.randomSeed optionalInteger
  let worldWidth := field values "world_width" d.worldWidth (doubleAbove 0.0)
  let worldHeight := field values "world_height" d.worldHeight (doubleAbove 0.0)
  let spawnMargin := field values "spawn_margin" d.spawnMargin (doubleAtLeast 0.0)
  let bindEntities := field values "bind_entities" d.bindEntities truthInput
  let refusals := tickDelta.2 ++ maxLogEntries.2 ++ maxCallDepth.2 ++ maxCallbacksPerTick.2 ++
    randomSeed.2 ++ worldWidth.2 ++ worldHeight.2 ++ spawnMargin.2 ++ bindEntities.2
  if refusals.isEmpty then
    .ok { tickDelta := tickDelta.1, maxLogEntries := maxLogEntries.1, maxCallDepth := maxCallDepth.1,
          maxCallbacksPerTick := maxCallbacksPerTick.1, randomSeed := randomSeed.1,
          worldWidth := worldWidth.1, worldHeight := worldHeight.1, spawnMargin := spawnMargin.1,
          bindEntities := bindEntities.1 }
  else .error refusals

/-- The refusals as one message: `name: kind` for each, joined by `; `. -/
def refusalMessage (refusals : List (String × SettingError)) : String :=
  "; ".intercalate (refusals.map fun (name, e) => name ++ ": " ++ e.tag)

/-- The settings as named values, in field order. -/
def entries (s : Settings) : List (String × Value) :=
  [("tick_delta", .float s.tickDelta 0), ("max_log_entries", .int s.maxLogEntries),
   ("max_call_depth", .int s.maxCallDepth), ("max_callbacks_per_tick", .int s.maxCallbacksPerTick),
   ("random_seed", match s.randomSeed with | some n => .int n | none => .null),
   ("world_width", .float s.worldWidth 0), ("world_height", .float s.worldHeight 0),
   ("spawn_margin", .float s.spawnMargin 0), ("bind_entities", .bool s.bindEntities)]

end Settings

end GameScript

import GameScript.Number.Reading
import GameScript.Text.Quoted
import GameScript.Text.Ranges
import GameScript.Log

/-!
# Command-line arguments

The command line takes a source file or `--example NAME` (exactly one of the
two), and the options `--ticks N`, `--dt SECONDS`, `--seed N`, `--dump-ast`,
`--log-level LEVEL` and `-h`/`--help`.

Arguments are read left to right. A long option may be abbreviated to any
prefix that names only it, and may carry its value after `=`. A word that
starts with `-` is an option unless it is a negative number (digits of any
script, a final line feed allowed) or contains a space; after the first `--`
every word is a positional one. An option that takes a value takes the next
word unless that word is an option or the `--` itself. `-h` may repeat its
letter (`-hh`); any other letter after it is refused. The source file takes
the first positional word together with a `--` right before or after it; a
`--` it does not take is an unrecognised word. The first failure ends the
reading with a message; `-h` ends it with the help text. After the last word,
a missing source comes before unrecognised words.
-/

namespace GameScript.Cli

/-- The options of the command line. -/
inductive Flag where
  | help | program | ticks | dt | seed | dumpAst | logLevel
  deriving Repr, DecidableEq, Inhabited

namespace Flag

/-- Every spelling of every option, in the order they are searched. -/
def spellings : List (String × Flag) :=
  [("-h", .help), ("--help", .help), ("--example", .program), ("--ticks", .ticks), ("--dt", .dt),
   ("--seed", .seed), ("--dump-ast", .dumpAst), ("--log-level", .logLevel)]

/-- The name of an option in messages: its spellings joined by `/`. -/
def label : Flag → String
  | .help => "-h/--help" | .program => "--example" | .ticks => "--ticks" | .dt => "--dt"
  | .seed => "--seed" | .dumpAst => "--dump-ast" | .logLevel => "--log-level"

/-- Whether an option takes a value. -/
def takesValue : Flag → Bool
  | .help | .dumpAst => false
  | _ => true

end Flag

/-- What the command line asks for. -/
structure Arguments where
  file : Option String := none
  program : Option String := none
  ticks : Int := 60
  dt : Option Float := none
  seed : Option Int := none
  dumpAst : Bool := false
  logLevel : LogLevel := .warning
  deriving Inhabited

/-- The outcome of reading the command line. -/
inductive Reading where
  | run (args : Arguments)
  | help
  | failure (message : String)
  deriving Inhabited

/-- A word of the command line, classified. -/
inductive Word where
  | positional (text : String)
  | option (flag : Flag) (spelling : String) (value : Option String)
  | unknown (text : String)
  /-- The first `--`, after which every word is positional. -/
  | separator
  deriving Inhabited

/-- The names of the bundled programs, in name order. -/
def exampleNames : List String := ["atom", "firefly", "pinger", "spawner"]

/-- The names of the log levels, in severity order from the lowest shown. -/
def levelNames : List String := ["DEBUG", "INFO", "WARNING", "ERROR"]

/-- Whether a character is a decimal digit of some script. -/
def isAnyDigit (c : Char) : Bool :=
  (Text.decimalValue? c).isSome

/--
Whether a word reads as a negative number: `-` then digits, or digits, a point
and at least one digit, where digits may be of any script and one final line
feed may follow.
-/
def isNegativeNumber (w : String) : Bool :=
  match w.toList with
  | '-' :: rest =>
    let body := if rest.getLast? == some '\n' then rest.dropLast else rest
    let whole := body.takeWhile isAnyDigit
    match body.dropWhile isAnyDigit with
    | [] => !whole.isEmpty
    | '.' :: fraction => !fraction.isEmpty && fraction.all isAnyDigit
    | _ => false
  | _ => false

/-- The option spellings that start with a prefix, in search order. -/
def matching (pfx : String) : List (String × Flag) :=
  Flag.spellings.filter fun (spelling, _) => spelling.startsWith pfx

/-- Classify a word; an abbreviation that fits several options fails. -/
def classify (w : String) : Except String Word :=
  let cs := w.toList
  if cs.isEmpty || cs.head? != some '-' then .ok (.positional w)
  else match Flag.spellings.find? (·.1 == w) with
  | some (spelling, flag) => .ok (.option flag spelling none)
  | none =>
    if cs.length == 1 then .ok (.positional w)
    else
      let (name, value) := match cs.findIdx? (· == '=') with
        | some i => (String.ofList (cs.take i), some (String.ofList (cs.drop (i + 1))))
        | none => (w, none)
      match value.bind fun _ => Flag.spellings.find? (·.1 == name) with
      | some (spelling, flag) => .ok (.option flag spelling value)
      | none =>
        let found :=
          if cs.take 2 == ['-', '-'] then matching name
          else Flag.spellings.filter fun (spelling, _) => spelling == String.ofList (cs.take 2)
        match found with
        | [(spelling, flag)] =>
          if cs.take 2 == ['-', '-'] then .ok (.option flag spelling value)
          else .ok (.option flag spelling (some (String.ofList (cs.drop 2))))
        | _ :: _ :: _ =>
          .error ("ambiguous option: " ++ w ++ " could match " ++ ", ".intercalate (found.map (·.1)))
        | [] =>
          if isNegativeNumber w || cs.contains ' ' then .ok (.positional w)
          else .ok (.unknown w)

/-- Classify every word; after `--` every word is positional. -/
def classifyAll : List String → Except String (List Word)
  | [] => .ok []
  | "--" :: rest => .ok (.separator :: rest.map Word.positional)
  | w :: rest => do
    let word ← classify w
    let words ← classifyAll rest
    return word :: words

/-- The state of reading: the arguments so far, whether the source file was read, and unrecognised words. -/
structure Progress where
  args : Arguments := {}
  fileGiven : Bool := false
  fileRead : Bool := false
  exampleGiven : Bool := false
  extras : List String := []
  deriving Inhabited

/-- `invalid choice` message for a value outside `choices`. -/
def invalidChoice (value : String) (choices : List String) : String :=
  "invalid choice: " ++ Text.quote value ++ " (choose from " ++
    ", ".intercalate (choices.map Text.quote) ++ ")"

/-- Store the value of an option, or say why it is refused. -/
def store (p : Progress) (flag : Flag) (value : String) : Except String Progress :=
  let refuse (why : String) : Except String Progress := .error ("argument " ++ flag.label ++ ": " ++ why)
  match flag with
  | .program =>
    if !exampleNames.contains value then refuse (invalidChoice value exampleNames)
    else if p.fileGiven then refuse "not allowed with argument file"
    else .ok { p with args := { p.args with program := some value }, exampleGiven := true }
  | .ticks =>
    match Reading.readInt? value with
    | some n => .ok { p with args := { p.args with ticks := n } }
    | none => refuse ("invalid int value: " ++ Text.quote value)
  | .dt =>
    match Reading.readFloat? value with
    | some x => .ok { p with args := { p.args with dt := some x } }
    | none => refuse ("invalid float value: " ++ Text.quote value)
  | .seed =>
    match Reading.readInt? value with
    | some n => .ok { p with args := { p.args with seed := some n } }
    | none => refuse ("invalid int value: " ++ Text.quote value)
  | .logLevel =>
    match levelNames.zip [LogLevel.debug, .info, .warning, .error] |>.find? (·.1 == value) with
    | some (_, level) => .ok { p with args := { p.args with logLevel := level } }
    | none => refuse (invalidChoice value levelNames)
  | _ => .ok p

/-- The source file takes a positional word, unless it is taken: then the word is unrecognised. -/
def takePositional (p : Progress) (w : String) : Except String Progress :=
  if p.fileRead then .ok { p with extras := p.extras ++ [w] }
  else if p.exampleGiven then .error "argument file: not allowed with argument --example"
  else .ok { p with args := { p.args with file := some w }, fileGiven := true, fileRead := true }

/--
`-h` with letters after it: each further `h` repeats it, and the first other
letter is refused together with the letters after it.
-/
def helpChain : List Char → Except String Unit
  | [] => .ok ()
  | 'h' :: rest => helpChain rest
  | cs => .error ("argument -h/--help: ignored explicit argument " ++ Text.quote (String.ofList cs))

/-- Read classified words left to right. -/
def readWords (p : Progress) (words : List Word) : Except String (Option Progress) :=
  match words with
  | [] => .ok (some p)
  | .separator :: .positional w :: more =>
    if p.fileRead then readWords { p with extras := p.extras ++ ["--"] } (.positional w :: more)
    else do readWords (← takePositional p w) more
  | .separator :: rest =>
    if p.fileRead then readWords { p with extras := p.extras ++ ["--"] } rest
    else readWords { p with fileRead := true } rest
  | .positional w :: .separator :: more =>
    if p.fileRead then do readWords (← takePositional p w) (.separator :: more)
    else do readWords (← takePositional p w) more
  | .positional w :: rest => do readWords (← takePositional p w) rest
  | .unknown w :: rest => readWords { p with extras := p.extras ++ [w] } rest
  | .option flag spelling value :: rest =>
    if !flag.takesValue then
      match value with
      | some v =>
        if flag == .help && spelling == "-h" && !v.isEmpty then
          match helpChain v.toList with
          | .ok () => .ok none
          | .error message => .error message
        else .error ("argument " ++ flag.label ++ ": ignored explicit argument " ++ Text.quote v)
      | none =>
        if flag == .help then .ok none
        else readWords { p with args := { p.args with dumpAst := true } } rest
    else
      match value with
      | some v => do readWords (← store p flag v) rest
      | none =>
        match rest with
        | .positional v :: more => do readWords (← store p flag v) more
        | _ => .error ("argument " ++ flag.label ++ ": expected one argument")
termination_by words.length

/-- Read the command line. -/
def read (argv : List String) : Reading :=
  match classifyAll argv with
  | .error message => .failure message
  | .ok words =>
    match readWords {} words with
    | .error message => .failure message
    | .ok none => .help
    | .ok (some p) =>
      if !p.fileGiven && !p.exampleGiven then
        .failure "one of the arguments file --example is required"
      else if !p.extras.isEmpty then
        .failure ("unrecognized arguments: " ++ " ".intercalate p.extras)
      else .run p.args

/-- The usage lines printed before an error and at the top of the help. -/
def usage : String :=
  "usage: soulscript [-h] [--example \x7batom,firefly,pinger,spawner\x7d]\n" ++
  "                  [--ticks TICKS] [--dt DT] [--seed SEED] [--dump-ast]\n" ++
  "                  [--log-level \x7bDEBUG,INFO,WARNING,ERROR\x7d]\n" ++
  "                  [file]\n"

/-- The help text. -/
def helpText : String :=
  usage ++ "\n" ++
  "Run SoulScript components for a number of ticks.\n\n" ++
  "positional arguments:\n" ++
  "  file                  SoulScript source file\n\n" ++
  "options:\n" ++
  "  -h, --help            show this help message and exit\n" ++
  "  --example \x7batom,firefly,pinger,spawner\x7d\n" ++
  "                        Run a bundled sample program\n" ++
  "  --ticks TICKS         Number of ticks to run (default: 60)\n" ++
  "  --dt DT               Seconds per tick (default: 1/60)\n" ++
  "  --seed SEED           Random seed for reproducible runs\n" ++
  "  --dump-ast            Print the parsed declarations and exit\n" ++
  "  --log-level \x7bDEBUG,INFO,WARNING,ERROR\x7d\n" ++
  "                        Host logging level (default: WARNING)\n"

/-- The text printed for a refused command line. -/
def failureText (message : String) : String :=
  usage ++ "soulscript: error: " ++ message ++ "\n"

end GameScript.Cli

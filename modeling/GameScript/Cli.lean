import GameScript.Cli.Arguments
import GameScript.Session.Host
import GameScript.Examples
import GameScript.Syntax.Print

/-!
# The command line

`Cli.run` is the whole command line as a function of its arguments, of the
text of the source file it names and of the platform it runs on: it loads the program (a file or a
bundled example), runs it for the asked number of ticks, and prints a summary
(instances created, ticks run, the clock to three decimals), each registered
component with its state and fields, and every log entry kept. With
`--dump-ast` it prints one line per declaration instead.

Diagnostics at or above the chosen level go to the error stream as
`LEVEL channel: message`, in the order they were written, with the scan and
syntax errors of loading printed after those of loading. A syntax error ends
the run with status 1; a refused command line with status 2 and the usage.
Settings that cannot be accepted, failures escaping a tick, and a field
holding an integer too long for text end the run without output.
-/

namespace GameScript.Cli

/-- What a run printed and its exit status. -/
structure Outcome where
  exit : Nat
  stdout : String
  stderr : String
  deriving Inhabited

/-- Why a run ended without output. -/
inductive Escape where
  | settings (message : String)
  | fault (f : Fault)
  deriving Inhabited

/-- Why the source file could not be read. -/
inductive ReadFailure where
  | missing
  | directory
  deriving Inhabited

/-- The system's words for a failed read of `path`. -/
def ReadFailure.text (path : String) : ReadFailure → String
  | .missing => "[Errno 2] No such file or directory: " ++ Text.quote path
  | .directory => "[Errno 21] Is a directory: " ++ Text.quote path

/-- The diagnostic lines from position `start` on, at or above `level`. -/
def diagnostics (s : Session) (level : LogLevel) (start : Nat) : String :=
  String.join ((s.trace.toList.drop start).filterMap fun r =>
    if r.level.severity ≥ level.severity then
      some (r.level.label ++ " " ++ r.channel ++ ": " ++ r.message ++ "\n")
    else none)

/-- Run `n` ticks of the configured step. -/
def runTicks : Nat → Sim Unit
  | 0 => pure ()
  | n + 1 => do
    Sim.tick none
    runTicks n

/-- The summary printed after a run; fails when a field holds an integer too long for text. -/
def summary (s : Session) (created : Nat) : Except Fault String := do
  let head := digitText created ++ " component(s), " ++ digitText s.ticks ++ " tick(s), t=" ++
    Float.fixedText 3 s.time ++ "s\n"
  let components ← s.registered.mapM fun (_, c) => do
    let fields ← c.fields.mapM fun (k, v) => do return k ++ "=" ++ (← s.format v)
    return "  " ++ c.name ++ " [" ++ (if c.active then "active" else "inactive") ++ "] " ++
      ", ".intercalate fields ++ "\n"
  let entries := (s.log.view).map fun e => "  [" ++ e.level.tag ++ "] " ++ e.message ++ "\n"
  return head ++ String.join components ++ String.join entries

/-- The settings the options ask for. -/
def settingsOf (args : Arguments) : Except String Settings :=
  let values := (args.dt.map fun x => [("tick_delta", Value.float x 0)]).getD [] ++
    (args.seed.map fun n => [("random_seed", Value.int n)]).getD []
  match Settings.ofValues values with
  | .ok s => .ok s
  | .error refusals => .error (Settings.refusalMessage refusals)

/-- Run the program `source` as the options ask, on a platform. -/
def execute (args : Arguments) (source : String) (platform : Platform) : Except Escape Outcome := do
  let settings ← match settingsOf args with
    | .ok s => pure s
    | .error m => throw (.settings m)
  let level := args.logLevel
  let start := Session.create settings platform
  if args.dumpAst then
    match (Sim.parse source).run start with
    | .ok (parsed, _) s =>
      let logs := diagnostics s level 0
      match parsed with
      | .error e => return ⟨1, "", logs ++ e.logText ++ "\n"⟩
      | .ok ds => return ⟨0, String.join (ds.map fun d => d.summary ++ "\n"), logs⟩
    | .error f _ => throw (.fault f)
  else
    match (Sim.load source []).run start with
    | .error f _ => throw (.fault f)
    | .ok report loaded =>
      let early := diagnostics loaded level 0
      let errors := String.join (report.scanErrors.map fun e => e.logText ++ "\n") ++
        String.join (report.syntaxError.toList.map fun e => e.logText ++ "\n")
      if report.syntaxError.isSome then return ⟨1, "", early ++ errors⟩
      match (runTicks args.ticks.toNat).run loaded with
      | .error f _ => throw (.fault f)
      | .ok _ s =>
        match summary s report.components.length with
        | .error f => throw (.fault f)
        | .ok text => return ⟨0, text, early ++ errors ++ diagnostics s level loaded.trace.size⟩

/-- The source file named on a command line, if it names one. -/
def sourcePath? (argv : List String) : Option String :=
  match read argv with
  | .run args => if args.program.isSome then none else args.file
  | _ => none

/--
The whole command line on a platform: `fileText` gives the text of a file, or
why it cannot be read.
-/
def run (argv : List String) (fileText : String → Except ReadFailure String) (platform : Platform) :
    Except Escape Outcome :=
  match read argv with
  | .help => .ok ⟨0, helpText, ""⟩
  | .failure message => .ok ⟨2, "", failureText message⟩
  | .run args =>
    let file := args.file.getD ""
    let source : Except ReadFailure String := match args.program with
      | some name => .ok ((Examples.find? name).getD "")
      | none => fileText file
    match source with
    | .ok text => execute args text platform
    | .error why => .ok ⟨2, "", "Cannot read " ++ file ++ ": " ++ why.text file ++ "\n"⟩

end GameScript.Cli

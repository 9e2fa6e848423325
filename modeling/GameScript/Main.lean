import GameScript.Cli
import GameScript.Validation

/-!
# The program

Reads the source file the command line names, runs the command line on the
host's platform, prints what it printed and exits with its status.
-/

open GameScript

/-- Read a source file, telling a missing file from a directory. -/
def readSource (path : String) : IO (Except Cli.ReadFailure String) := do
  try
    return .ok (← IO.FS.readFile path)
  catch e =>
    match e with
    | .inappropriateType .. => return .error .directory
    | .otherError code _ => return .error (if code == 21 then .directory else .missing)
    | _ => return .error .missing

/-- The little-endian 32-bit words of bytes, four bytes a word. -/
def wordsOfBytes : List UInt8 → List UInt32
  | b0 :: b1 :: b2 :: b3 :: rest =>
    (b0.toUInt32 ||| (b1.toUInt32 <<< 8) ||| (b2.toUInt32 <<< 16) ||| (b3.toUInt32 <<< 24)) ::
      wordsOfBytes rest
  | _ => []

/--
The platform the program runs on: a key of 624 words read from the operating
system's entropy, for the one seeding a run makes, and the validation
library's wording.
-/
def hostPlatform : IO Platform := do
  let bytes ← IO.getRandomBytes (4 * RandomSource.size).toUSize
  let key := wordsOfBytes bytes.toList
  return { entropy := fun _ => key, refusalWording := Validation.wording }

/-- Run the command line. -/
def main (argv : List String) : IO UInt32 := do
  let content ← match Cli.sourcePath? argv with
    | some path => do
      let text ← readSource path
      pure (some (path, text))
    | none => pure none
  let fileText (path : String) : Except Cli.ReadFailure String :=
    match content with
    | some (p, text) => if p == path then text else .error .missing
    | none => .error .missing
  match Cli.run argv fileText (← hostPlatform) with
  | .ok outcome =>
    IO.print outcome.stdout
    IO.eprint outcome.stderr
    return outcome.exit.toUInt32
  | .error (.settings message) =>
    IO.eprintln ("ValidationError: " ++ message)
    return 1
  | .error (.fault f) =>
    IO.eprintln f.message
    return 1

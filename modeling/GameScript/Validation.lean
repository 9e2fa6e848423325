import GameScript.Fault
import GameScript.Number.Text

/-!
# The validation library's wording

The interpreter leaves the wording of a refused vector or colour to the
platform it runs on (`Platform.refusalWording`): the wording is the
validation library's, not the language's.  This module gives the wording of
the library the program is built with, pydantic 2.14, which the command line
runs on.  A refusal counts its errors and names the model, then gives each
refused field with the integer it was given and where to read more.
-/

namespace GameScript.Validation

/-- Where the text of a refused field sends the reader for more on the refusal. -/
def fieldRefusalReference : String := "https://errors.pydantic.dev/2.14/v/float_type"

/--
The text of a refused integer: its digits, cut to the first 25 and the last
24 characters around `...` when longer than 50, or a placeholder when it has
too many digits to be written at all.
-/
def refusedIntText (n : Int) : String :=
  let text := intText n
  if (digitText n.natAbs).length > intTextLimit then "<unprintable int object>"
  else if text.length > 50 then
    String.ofList (text.toList.take 25) ++ "..." ++ String.ofList (text.toList.drop (text.length - 24))
  else text

/-- The text of one refused field: its name, why, and the integer given. -/
def fieldRefusalText (field : String) (input : Int) : String :=
  field ++ "\n  Input should be a valid number [type=float_type, input_value=" ++ refusedIntText input ++
    ", input_type=int]\n    For further information visit " ++ fieldRefusalReference

/-- The library's wording of a refusal of fields. -/
def wording : RefusalWording := fun model refused =>
  digitText refused.length ++ " validation error" ++ (if refused.length == 1 then "" else "s") ++
    " for " ++ model ++ String.join (refused.map fun (field, input) => "\n" ++ fieldRefusalText field input)

end GameScript.Validation

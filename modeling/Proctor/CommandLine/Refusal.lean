import Proctor.CommandLine.Form
import Proctor.Text.Similar

/-!
# Refusals

Why a command line is refused, by cause, and the wording of it.
-/

namespace Proctor.CommandLine

/-- What is wrong with a value. -/
inductive Fault where
  | noChoice (value : String) (names : List String)
  | noNumber (value : String)
  | notPositive (value : Int)
  | noBoolean (value : String)
  | fileMissing (value : String)
  | isDirectory (value : String)
  deriving DecidableEq, Repr

/-- What is wrong. -/
def Fault.message : Fault → String
  | noChoice value names =>
    Text.quoted value ++ " is not one of " ++ ", ".intercalate (names.map Text.quoted) ++ "."
  | noNumber value => Text.quoted value ++ " is not a valid integer range."
  | notPositive value => toString value ++ " is not in the range x>=1."
  | noBoolean value => Text.quoted value ++ " is not a valid boolean."
  | fileMissing value => "File " ++ Text.quoted value ++ " does not exist."
  | isDirectory value => "File " ++ Text.quoted value ++ " is a directory."

/-- Why a command line is refused. -/
inductive Refusal where
  | unknownOption (name : String) (similar : List String)
  | needsValue (name : String)
  | takesNoValue (name : String)
  | missing (hint : String)
  | invalid (hint : String) (fault : Fault)
  | extra (words : List String)
  | unknownCommand (name : String)
  | noCommand
  /-- A target of a batch that names no file and line. -/
  | badTarget (why : Error)
  deriving Repr

namespace Refusal

/-- Options that may have been meant. -/
def suggestion : List String → String
  | [] => ""
  | [name] => " Did you mean " ++ name ++ "?"
  | names => " (Possible options: " ++ ", ".intercalate names ++ ")"

/-- Why the command line is refused. -/
def message : Refusal → String
  | unknownOption name similar => "No such option: " ++ name ++ suggestion similar
  | needsValue name => "Option " ++ Text.quoted name ++ " requires an argument."
  | takesNoValue name => "Option " ++ Text.quoted name ++ " does not take a value."
  | missing hint => "Missing argument " ++ hint ++ "."
  | invalid hint fault => "Invalid value for " ++ hint ++ ": " ++ fault.message
  | extra [word] => "Got unexpected extra argument (" ++ word ++ ")"
  | extra words => "Got unexpected extra arguments (" ++ " ".intercalate words ++ ")"
  | unknownCommand name => "No such command " ++ Text.quoted name ++ "."
  | noCommand => "Missing command."
  | badTarget why => why.message

/-- Is the usage of the command given, too? The value of an option is a matter of that
option alone. -/
def showsUsage : Refusal → Bool
  | needsValue _ | takesNoValue _ => false
  | _ => true

/-- What is said about a command line that is refused. -/
def text (f : Form) (r : Refusal) : String :=
  (if r.showsUsage then f.usage ++ "\n" ++ f.advice ++ "\n\n" else "") ++
    "Error: " ++ r.message ++ "\n"

end Refusal

end Proctor.CommandLine

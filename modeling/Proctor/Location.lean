import Proctor.Error
import Proctor.Path
import Proctor.Text.Letter

/-!
# Locations in output

Where a line of output names a place in a file: a file name, a colon and a line
number, and possibly another colon and a column. A file name is a whole run of name
characters whose last dot has a letter after it and a character that can end a name
before it.
-/

namespace Proctor

/-- A place in a file, with the line of output that names it. -/
structure Location where
  file : String
  line : Int
  column : Int
  text : String
  deriving DecidableEq, Repr

namespace Location

/-- A character of a file name or of the path to it. -/
def isNameChar (c : Char) : Bool :=
  Text.isWordChar c || c == '.' || c == '/' || c == '\\' || c == '-'

/-- Can a run of name characters, given from its end, be a file with an ending? -/
def isFileName (reversed : List Char) : Bool :=
  let ending := reversed.takeWhile (· != '.')
  match reversed.drop ending.length with
  | '.' :: c :: _ =>
    ending.all Text.isWordChar && (ending.getLast?.map Char.isAlpha).getD false &&
      (Text.isWordChar c || c == '-')
  | _ => false

/-- The digits at the beginning of a text, and what follows them. -/
def leadingDigits (cs : List Char) : List Char × List Char :=
  (cs.takeWhile Text.isDecimal, cs.dropWhile Text.isDecimal)

/-- The digits of a line number and of a column, if they come next, each after a
colon. -/
def numbers? (cs : List Char) : Option (List Char × List Char) :=
  match cs with
  | ':' :: rest =>
    let (line, rest) := leadingDigits rest
    if line.isEmpty then none
    else match rest with
      | ':' :: rest => some (line, (leadingDigits rest).1)
      | _ => some (line, [])
  | _ => none

/-- The first file name with numbers after it: the name, and the digits of both
numbers. `run` holds the name characters right before the text, nearest first. -/
def scanFrom (run : List Char) : List Char → Option (List Char × List Char × List Char)
  | [] => none
  | c :: rest =>
    if isNameChar c then scanFrom (c :: run) rest
    else if isFileName run then
      match numbers? (c :: rest) with
      | some (line, column) => some (run.reverse, line, column)
      | none => scanFrom [] rest
    else scanFrom [] rest

/-- A number of a location; one with too many digits cannot be read. -/
def number (digits : List Char) : Except Error Nat :=
  match Text.parseNat? digits with
  | some n => .ok n
  | none => .error .noNumber

/-- A file name as seen from a working directory. -/
def resolveIn (directory : Option Path) (file : String) : String :=
  match directory with
  | some d => if (Path.parse file).isAbsolute then file else (d.child file).text
  | none => file

/-- The place that a line of output names, if it names one. -/
def ofLine? (directory : Option Path) (line : String) : Except Error (Option Location) :=
  match scanFrom [] line.toList with
  | none => .ok none
  | some (file, row, column) => do
    let row ← number row
    let column ← if column.isEmpty then pure 1 else number column
    return some ⟨resolveIn directory (String.ofList file), row, column,
      String.ofList (Text.strip line.toList)⟩

/-- The places that lines of output name, at most one a line. -/
def ofLines (directory : Option Path) (lines : List String) : Except Error (List Location) := do
  return (← lines.mapM (ofLine? directory)).filterMap id

end Location

end Proctor

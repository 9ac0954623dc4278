import Proctor.Path
import Proctor.Error

/-!
# Located tests

What is known about a test that has been found: its name, where it stands, and the
suite, class or module around it.
-/

namespace Proctor

/-- What a test stands in. -/
structure Context where
  /-- The names of what encloses the test; never empty. -/
  describe : String
  /-- How many enclosing things there are beyond the first. -/
  level : Nat := 0
  /-- Is the whole file, and nothing inside it, what encloses the test? -/
  fileScope : Bool := false
  deriving DecidableEq, Repr

/-- A context, if it has a description and no negative level. -/
def Context.make (describe : String) (level : Int) (fileScope : Bool) : Except Error Context :=
  if describe.isEmpty then .error (.unfit .emptyDescription)
  else match level with
    | .ofNat n => .ok ⟨describe, n, fileScope⟩
    | level => .error (.unfit (.negative "nested_level" level))

/-- A test that has been found. Lines and columns count from one. -/
structure TestInfo where
  /-- The name; none when the group of its pattern took no part in the match. -/
  name : Option String
  file : Path
  line : Int
  column : Int := 1
  language : String := ""
  context : Option Context := none
  deriving DecidableEq, Repr

namespace TestInfo

/-- The name as text. -/
def nameText (t : TestInfo) : String := t.name.getD "None"

/-- The name as a value. -/
def nameValue (t : TestInfo) : Value := (t.name.map Value.text).getD .null

/-- What tells tests of a selection apart. -/
def key (t : TestInfo) : Option String × Path := (t.name, t.file)

/-- The context inside the file, if there is one. -/
def innerContext? (t : TestInfo) : Option Context :=
  t.context.filter fun c => !c.fileScope

/-- The name a test is shown by. -/
def displayName (t : TestInfo) : String :=
  match t.innerContext? with
  | some c => t.file.name ++ "::" ++ c.describe ++ "::" ++ t.nameText
  | none => t.file.name ++ "::" ++ t.nameText

end TestInfo

end Proctor

import Proctor.Command.Template
import Proctor.Profile
import Proctor.ProjectRoot
import Proctor.TestInfo

/-!
# Commands

The command that runs a test: the first template of the list for the mode, filled
with what is known about the test.
-/

namespace Proctor

/-- The ways of running a test. -/
inductive Mode where
  | normal
  | debug
  | coverage
  deriving DecidableEq, Repr

namespace Mode

/-- All modes. -/
def all : List Mode := [normal, debug, coverage]

/-- The name of a mode. -/
def name : Mode → String
  | normal => "normal"
  | debug => "debug"
  | coverage => "coverage"

/-- The mode a value names. -/
def ofValue (v : Value) : Except Error Mode :=
  match v.asText?.bind fun s => all.find? fun m => m.name == s with
  | some m => .ok m
  | none => .error (.unfit (.mode v))

/-- The mode of a name. -/
def named (s : String) : Except Error Mode := ofValue (.text s)

end Mode

namespace Command

/-- The templates a profile has for a mode of its own. -/
def ownTemplates (p : Profile) : Mode → List String
  | .normal => p.commands
  | .debug => p.debugCommands.getD []
  | .coverage => p.coverageCommands.getD []

/-- The templates for a mode; a mode without any uses those of the normal one. -/
def templatesFor (p : Profile) (mode : Mode) : Except Error (List String) :=
  match ownTemplates p mode with
  | [] => if p.commands.isEmpty then .error (.misconfigured .noTemplates) else .ok p.commands
  | own => .ok own

/-- What joins a context and a name when the profile does not say. -/
def defaultSeparator : String := "::"

/-- The name of a test with that of its context before it. -/
def qualifiedName (t : TestInfo) (separator : Value) : Option String :=
  match t.innerContext? with
  | none => t.name
  | some c =>
    let joint := if separator.isSet then separator.display else defaultSeparator
    some (c.describe ++ joint ++ t.nameText)

/-- What a placeholder stands for; a name that is missing has no value. -/
def value? (t : TestInfo) (root : Option Path) (separator : Value) :
    Placeholder → Option String
  | .name => t.name
  | .qualifiedName => qualifiedName t separator
  | .file => some (ProjectRoot.relative t.file root)
  | .fullFile => some t.file.text
  | .directory => some t.file.parent.text
  | .stem => some t.file.stem
  | .ending => some (String.ofList (t.file.ending.toList.dropWhile (· == '.')))

/-- What a placeholder stands for, nothing being an empty text. -/
def valueFor (t : TestInfo) (root : Option Path) (separator : Value) (p : Placeholder) : String :=
  (value? t root separator p).getD ""

/-- The root that files are named from: the given one, or that of the project. -/
def rootFor (tree : FileTree) (p : Profile) (t : TestInfo) (root : Option Path) :
    Except Error (Option Path) :=
  match root with
  | some r => .ok (some r)
  | none => ProjectRoot.ofFile tree p.rootMarkers t.file

/-- The command that runs a test in a mode. -/
def build (tree : FileTree) (p : Profile) (t : TestInfo) (mode : Mode)
    (root : Option Path) : Except Error (List String) := do
  let template := (← templatesFor p mode).headD ""
  let root ← rootFor tree p t root
  match expand (valueFor t root p.separator) template with
  | [] => throw (.emptyCommand template)
  | words => return words

end Command

end Proctor

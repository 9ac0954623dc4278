import Proctor.Profile

/-!
# Configurations

The settings of one run of the tool, as they are once a file, the environment and
the defaults have been put together.
-/

namespace Proctor

/-- The ways of presenting a result. -/
inductive OutputMode where
  | quickfix
  | terminal
  | floating
  deriving DecidableEq, Repr

namespace OutputMode

/-- All modes, in the order messages list them. -/
def all : List OutputMode := [quickfix, terminal, floating]

/-- The name of a mode. -/
def name : OutputMode → String
  | quickfix => "quickfix"
  | terminal => "terminal"
  | floating => "floating"

/-- The names of all modes. -/
def names : List String := all.map name

/-- The mode of a name. -/
def named? (s : String) : Option OutputMode := all.find? fun m => m.name == s

end OutputMode

/-- The ways of choosing the directory a test runs in. -/
inductive DirectoryRule where
  /-- The directory the tool runs in. -/
  | current
  /-- The directory of the test file. -/
  | fileDirectory
  /-- The root of the project the test file belongs to. -/
  | projectRoot
  deriving DecidableEq, Repr

namespace DirectoryRule

/-- All rules, in the order messages list them. -/
def all : List DirectoryRule := [current, fileDirectory, projectRoot]

/-- The name of a rule. -/
def name : DirectoryRule → String
  | current => "current"
  | fileDirectory => "file_dir"
  | projectRoot => "project_root"

/-- The names of all rules. -/
def names : List String := all.map name

/-- The rule of a name. -/
def named? (s : String) : Option DirectoryRule := all.find? fun r => r.name == s

end DirectoryRule

/-- A configuration. -/
structure Config where
  languages : List (String × Profile)
  logLevel : String := "WARNING"
  output : OutputMode := .quickfix
  /-- The time a test may take, in milliseconds. -/
  timeout : Nat := 30000
  directory : DirectoryRule := .projectRoot
  /-- What is added to the environment of a test; any value, as the file has it. -/
  env : Value := .table []
  /-- The overrides of all projects, as the file has them. -/
  projects : List (String × Value) := []

/-- Environment variables. -/
abbrev Environment := List (String × String)

namespace Environment

/-- The value of a variable; one that is set to nothing counts as not set. -/
def get? (env : Environment) (name : String) : Option String :=
  match env.lookup name with
  | some "" => none
  | v => v

end Environment

end Proctor

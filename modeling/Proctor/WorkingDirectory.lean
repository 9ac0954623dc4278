import Proctor.Config
import Proctor.Job
import Proctor.ProjectRoot
import Proctor.Registry

/-!
# Working directories

The directory a test runs in. A rule chooses it: the options of a run may name one,
and otherwise the configured one counts.
-/

namespace Proctor.WorkingDirectory

/-- The rule that counts for a run: the one its options name, or else the configured
one. -/
def ruleFor (configured : DirectoryRule) (strategy : Option String) :
    Except Error DirectoryRule :=
  match strategy.filter (!·.isEmpty) with
  | none => .ok configured
  | some name =>
    match DirectoryRule.named? name with
    | some rule => .ok rule
    | none => .error (.misconfigured (.unknownDirectory name DirectoryRule.names))

/-- The markers of a language; a language without a profile has none. -/
def markersOf (registry : Registry) (language : String) : List Value :=
  ((registry.find? language).map Profile.rootMarkers).getD []

/-- The directory that a rule chooses for a test. Without a project root the
directory of the file takes its place. -/
def ofRule (tree : FileTree) (registry : Registry) (t : TestInfo) :
    DirectoryRule → Except Error Path
  | .current => .ok tree.current
  | .fileDirectory => .ok t.file.parent
  | .projectRoot =>
    (ProjectRoot.ofFile tree (markersOf registry t.language) t.file).map fun root =>
      root.getD t.file.parent

/-- The directory a test runs in. -/
def resolve (tree : FileTree) (registry : Registry) (configured : DirectoryRule)
    (t : TestInfo) (strategy : Option String) : Except Error Path := do
  ofRule tree registry t (← ruleFor configured strategy)

end Proctor.WorkingDirectory

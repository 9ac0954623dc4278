import Proctor.Command
import Proctor.Log

/-!
# What building a command says

The records that building the command of a test leaves in the journal: that a mode
has no templates of its own, which directory is the root of the project and which
marker shows it, and the finished command.
-/

namespace Proctor.Journal

/-- The first marker that a directory holds, as far as the markers are texts. -/
def markerIn? (tree : FileTree) (directory : Path) : List Value → Option String
  | .text marker :: rest =>
    if tree.has (directory.child marker) then some marker else markerIn? tree directory rest
  | _ => none

/-- What is said about the root of a project, once it has been found. -/
def ofRoot (tree : FileTree) (markers : List Value) (file : Path) : List Log.Record :=
  match ProjectRoot.ofFile tree markers file with
  | .ok (some root) =>
    let marker := markerIn? tree root (markers ++ ProjectRoot.generic.map .text)
    [.plain .debug "utils.paths" "Found project root"
      [("root", .text root.text), ("marker", (marker.map Value.text).getD .null)]]
  | _ => []

/-- What is said about the templates for a mode. -/
def ofTemplates (p : Profile) (mode : Mode) : List Log.Record :=
  if mode != .normal && (Command.ownTemplates p mode).isEmpty then
    [.plain .debug "execution.command"
      "No templates for mode, falling back to normal commands" [("mode", .text mode.name)]]
  else []

/-- What is said about a command, once it has been built. -/
def ofBuilt (tree : FileTree) (p : Profile) (t : TestInfo) (mode : Mode) : List Log.Record :=
  match Command.templatesFor p mode, Command.build tree p t mode none with
  | .ok templates, .ok command =>
    [{ level := .debug, logger := "execution.command", event := "Built test command",
       mark := some "build",
       entries := [("template", .text (templates.headD "")),
         ("command", .list (command.map .text)), ("mode", .text mode.name)] }]
  | _, _ => []

/-- What is said while the command of a test is built. -/
def ofCommand (tree : FileTree) (p : Profile) (t : TestInfo) (mode : Mode) : List Log.Record :=
  ofTemplates p mode ++
    (match Command.templatesFor p mode with
    | .ok _ => ofRoot tree p.rootMarkers t.file
    | .error _ => []) ++
    ofBuilt tree p t mode

end Proctor.Journal

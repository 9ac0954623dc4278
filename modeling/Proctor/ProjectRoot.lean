import Proctor.Error
import Proctor.FileTree

/-!
# Project roots

The root of a project is the nearest directory, going up from a file, that holds
one of some markers. The way up is that of the path as it is written.
-/

namespace Proctor.ProjectRoot

/-- The markers that count in every language. -/
def generic : List String :=
  [".git", "Cargo.toml", "go.mod", "package.json", "pyproject.toml", "Makefile"]

/-- Does the directory hold one of the markers? A marker must be a text. -/
def holdsMarker (tree : FileTree) (directory : Path) : List Value → Except Error Bool
  | [] => .ok false
  | .text marker :: rest =>
    if tree.has (directory.child marker) then .ok true else holdsMarker tree directory rest
  | _ :: _ => .error .wrongType

/-- The first of some directories that holds a marker. -/
def firstHolding (tree : FileTree) (markers : List Value) : List Path → Except Error (Option Path)
  | [] => .ok none
  | directory :: rest => do
    if ← holdsMarker tree directory markers then return some directory
    else firstHolding tree markers rest

/-- The directories in which markers are looked for: the place itself, unless it is
a file, and all directories above it. -/
def upFrom (tree : FileTree) (start : Path) : List Path :=
  let first := if tree.isFile start then start.parent else start
  first :: first.ancestors

/-- The nearest directory at or above a place that holds a marker. -/
def find (tree : FileTree) (markers : List Value) (start : Path) : Except Error (Option Path) :=
  if markers.isEmpty then .ok none else firstHolding tree markers (upFrom tree start)

/-- The root of the project a file belongs to. -/
def ofFile (tree : FileTree) (markers : List Value) (file : Path) : Except Error (Option Path) :=
  find tree (markers ++ generic.map .text) file.parent

/-- A file as seen from a root, or by its mere name when it lies outside. -/
def relative (file : Path) (root : Option Path) : String :=
  match root.bind file.relativeTo? with
  | some p => p.text
  | none => file.name

end Proctor.ProjectRoot

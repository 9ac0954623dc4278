import Proctor.Text.Line

/-!
# Paths

A path is a root and a list of parts. Empty parts and single dots vanish when a
path is read; double dots stay, because what they mean depends on the file tree.
Two slashes at the beginning are a root of their own, three or more count as one.
-/

namespace Proctor

/-- What a path starts from. -/
inductive Path.Root where
  /-- The working directory. -/
  | relative
  | slash
  | doubleSlash
  deriving DecidableEq, Repr

/-- A path: its root and its parts. -/
structure Path where
  root : Path.Root
  parts : List String
  deriving DecidableEq, Repr

namespace Path

/-- How a root is written. -/
def Root.text : Root → String
  | .relative => ""
  | .slash => "/"
  | .doubleSlash => "//"

/-- The path that stands for the working directory itself. -/
def here : Path := ⟨.relative, []⟩

instance : Inhabited Path := ⟨here⟩

/-- The root a text starts with. -/
def rootOf : List Char → Root
  | '/' :: '/' :: '/' :: _ => .slash
  | '/' :: '/' :: _ => .doubleSlash
  | '/' :: _ => .slash
  | _ => .relative

/-- Does a piece between slashes count as a part? -/
def isPart (piece : List Char) : Bool :=
  !piece.isEmpty && piece != ['.']

/-- Read a path. -/
def parse (s : String) : Path :=
  let cs := s.toList
  ⟨rootOf cs, ((Text.splitOn '/' cs).filter isPart).map String.ofList⟩

/-- Write a path. -/
def text (p : Path) : String :=
  if p.root = .relative && p.parts.isEmpty then "."
  else p.root.text ++ "/".intercalate p.parts

instance : ToString Path := ⟨text⟩

/-- Does the path have a root of its own? -/
def isAbsolute (p : Path) : Bool := p.root != .relative

/-- One path below another; an absolute second path stands alone. -/
def join (a b : Path) : Path :=
  if b.isAbsolute then b else ⟨a.root, a.parts ++ b.parts⟩

/-- A path read from a text, below another. -/
def child (a : Path) (s : String) : Path := a.join (parse s)

/-- The path without its last part; a path without parts is its own parent. -/
def parent (p : Path) : Path := { p with parts := p.parts.dropLast }

/-- The last part, or nothing. -/
def name (p : Path) : String := p.parts.getLast?.getD ""

/-- Where the ending of a name begins: at its last dot, if that is neither its
first character nor its last. -/
def cut (name : List Char) : List Char × List Char :=
  let ending := name.reverse.takeWhile (· != '.')
  let stem := name.reverse.drop (ending.length + 1)
  if ending.isEmpty || stem.isEmpty || ending.length == name.length then (name, [])
  else (stem.reverse, '.' :: ending.reverse)

/-- The last part without its ending. -/
def stem (p : Path) : String := String.ofList (cut p.name.toList).1

/-- The ending of the last part, with its dot, or nothing. -/
def ending (p : Path) : String := String.ofList (cut p.name.toList).2

/-- The proper ancestors that a number of parts has, nearest first. -/
def ancestorsFrom (root : Root) (parts : List String) : Nat → List Path
  | 0 => []
  | n + 1 => ⟨root, parts.take n⟩ :: ancestorsFrom root parts n

/-- The proper ancestors, nearest first. -/
def ancestors (p : Path) : List Path := ancestorsFrom p.root p.parts p.parts.length

/-- The path seen from another, if it lies below it. -/
def relativeTo? (p base : Path) : Option Path :=
  if p.root = base.root && base.parts.isPrefixOf p.parts then
    some ⟨.relative, p.parts.drop base.parts.length⟩
  else none

/-- The parts that decide the order of paths: the root counts as the first. -/
def key (p : Path) : List String :=
  if p.isAbsolute then p.root.text :: p.parts else p.parts

/-- The order of paths, part by part. -/
def before (a b : Path) : Bool := a.key < b.key

/-- The parts of a path with double dots carried out; above the top there is only
the top. -/
def carryOut (done : List String) : List String → List String
  | [] => done.reverse
  | ".." :: rest => carryOut (done.drop 1) rest
  | part :: rest => carryOut (part :: done) rest

/-- The absolute path, without double dots, that a path stands for. -/
def resolve (current p : Path) : Path :=
  ⟨.slash, carryOut [] (current.join p).parts⟩

@[simp] theorem join_root_of_relative {a b : Path} (h : b.root = .relative) :
    a.join b = ⟨a.root, a.parts ++ b.parts⟩ := by
  simp [join, isAbsolute, h]

@[simp] theorem resolve_root (current p : Path) : (resolve current p).root = .slash := rfl

end Path

end Proctor

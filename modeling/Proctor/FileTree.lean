import Proctor.Path
import Proctor.Text.Utf8

/-!
# File trees

A file tree as a value: directories hold named entries, files hold bytes. Every
question about files is asked of a tree and a working directory, so an answer
depends on nothing else. Double dots in a path are followed through the tree.
-/

namespace Proctor

/-- A file or a directory. -/
inductive Node where
  | file (content : List UInt8) (executable : Bool)
  | directory (entries : List (String × Node))

namespace Node

instance : Inhabited Node := ⟨.directory []⟩

/-- Is it a directory? -/
def isDirectory : Node → Bool
  | directory _ => true
  | file .. => false

/-- The entries of a directory. -/
def entries : Node → List (String × Node)
  | directory es => es
  | file .. => []

/-- Put an entry in the place of the one with its name, or at the end. -/
def put (name : String) (node : Node) : List (String × Node) → List (String × Node)
  | [] => [(name, node)]
  | (k, v) :: rest => if k = name then (k, node) :: rest else (k, v) :: put name node rest

/-- The tree with a node at the given place; directories on the way are made, and
what was no directory gives way to one. -/
def insertAt (node : Node) : List String → Node → Node
  | [], _ => node
  | part :: rest, top =>
    let below := (top.entries.lookup part).getD (directory [])
    directory (put part (insertAt node rest below) top.entries)

end Node

/-- Why a path leads nowhere. -/
inductive Unreachable where
  /-- There is no such entry. -/
  | absent
  /-- Something on the way is no directory. -/
  | notDirectory
  deriving DecidableEq, Repr

/-- A file tree and the working directory in it. -/
structure FileTree where
  top : Node
  current : Path

namespace FileTree

/-- Follow parts from the head of a list of directories, innermost first. -/
def follow : List Node → List String → Except Unreachable Node
  | [], _ => .error .absent
  | at_ :: _, [] => .ok at_
  | at_ :: above, part :: rest =>
    if at_.isDirectory then
      if part = ".." then
        follow (if above.isEmpty then [at_] else above) rest
      else
        match at_.entries.lookup part with
        | some node => follow (node :: at_ :: above) rest
        | none => .error .absent
    else .error .notDirectory

/-- What a path leads to. -/
def find (t : FileTree) (p : Path) : Except Unreachable Node :=
  follow [t.top] (t.current.join p).parts

/-- Does the path lead anywhere? A tree can always be asked: there are no permissions to lack,
and no name is too long to be looked for, so an answer is never refused. A system that limits
the length of names, or that keeps directories from some users, may fail instead. -/
def has (t : FileTree) (p : Path) : Bool :=
  match t.find p with
  | .ok _ => true
  | .error _ => false

/-- Does the path lead to a file? -/
def isFile (t : FileTree) (p : Path) : Bool :=
  match t.find p with
  | .ok (.file ..) => true
  | _ => false

/-- Does the path lead to a directory? -/
def isDirectory (t : FileTree) (p : Path) : Bool :=
  match t.find p with
  | .ok (.directory _) => true
  | _ => false

/-- The tree with a node at an absolute path. -/
def insert (t : FileTree) (p : Path) (node : Node) : FileTree :=
  { t with top := Node.insertAt node (Path.resolve t.current p).parts t.top }

/-- The tree without what a path leads to. -/
def erase (t : FileTree) (p : Path) : FileTree :=
  match t.find p.parent with
  | .ok (.directory es) => t.insert p.parent (.directory (es.filter (·.1 != p.name)))
  | _ => t

/-- Something done to a tree. -/
inductive Change where
  /-- There is a node at the path from then on. -/
  | put (path : Path) (node : Node)
  /-- There is nothing at the path any more. -/
  | erase (path : Path)
  /-- The file at the path, if there is one, has more bytes at its end. -/
  | append (path : Path) (bytes : List UInt8)

/-- The tree after a change. -/
def after (t : FileTree) : Change → FileTree
  | .put p node => t.insert p node
  | .erase p => t.erase p
  | .append p bytes =>
    match t.find p with
    | .ok (.file content executable) => t.insert p (.file (content ++ bytes) executable)
    | _ => t

mutual

/-- The files below a node, each with its path below `path`. -/
def filesBelow (path : Path) : Node → List Path
  | .file .. => [path]
  | .directory es => filesIn path es

/-- The files below the entries of a directory. -/
def filesIn (path : Path) : List (String × Node) → List Path
  | [] => []
  | (name, node) :: rest =>
    filesBelow { path with parts := path.parts ++ [name] } node ++ filesIn path rest

end

/-- The files below a directory. -/
def files (t : FileTree) (root : Path) : List Path :=
  match t.find root with
  | .ok (.directory es) => filesIn root es
  | _ => []

/-- Why a file cannot be read. -/
inductive Unreadable where
  | unreachable (why : Unreachable)
  | isDirectory
  deriving DecidableEq, Repr

/-- The bytes of a file. -/
def read (t : FileTree) (p : Path) : Except Unreadable (List UInt8) :=
  match t.find p with
  | .ok (.file content _) => .ok content
  | .ok (.directory _) => .error .isDirectory
  | .error why => .error (.unreachable why)

end FileTree

end Proctor

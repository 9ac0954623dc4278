import Proctor.Error
import Proctor.FileTree
import Proctor.Text.Line

/-!
# Buffers

The lines of a file as tests are looked for in them. The bytes are read as text,
ill-formed parts replaced; carriage returns count as line ends, and the text is
then cut at every character at which a line can end.
-/

namespace Proctor.Buffer

/-- The lines of a run of bytes. -/
def ofBytes (bytes : List UInt8) : List String :=
  (Text.lines (Text.unifyBreaks (Text.Utf8.decode bytes))).map String.ofList

/-- The error of a file that cannot be read. -/
def errorOf : FileTree.Unreadable → Error
  | .unreachable .absent => .fileMissing
  | .unreachable .notDirectory => .notDirectory
  | .isDirectory => .isDirectory

/-- The lines of a file. -/
def read (tree : FileTree) (file : Path) : Except Error (List String) :=
  ((tree.read file).map ofBytes).mapError errorOf

end Proctor.Buffer

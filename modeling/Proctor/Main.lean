import Proctor.CommandLine
import Proctor.Machine.Process

/-!
# The program

The command line as a program. It takes its words, the variables it may read and the
files around the working directory from the system, hands them to `CommandLine.run`,
and puts the result back: the two outputs, the files that have changed, and the exit
code. Nothing is decided here. Its host is `Machine.host`.
-/

namespace Proctor.Program

/-- The variables that the tool reads, or that programs it starts may need. -/
def variableNames : List String := [
  "TESTATPOINT_CONF", "TESTATPOINT_LOG_LEVEL", "TESTATPOINT_LOG_FILE", "TESTATPOINT_JSON_LOGS",
  "TESTATPOINT_OUTPUT_MODE", "TESTATPOINT_TIMEOUT", "COLUMNS", "PATH", "HOME"]

/-- The environment, as far as the tool reads it. -/
def environment : IO Environment := do
  variableNames.filterMapM fun name => do
    return (← IO.getEnv name).map fun value => (name, value)

/-- The entries of a directory; one that cannot be read has none. -/
def entriesOf (directory : String) : IO (List IO.FS.DirEntry) := do
  try
    return (← (IO.FS.DirEntry.mk directory ".").path.readDir).toList
  catch _ => return []

/-- The bytes of a file; one that cannot be read has none. -/
def bytesOf (file : String) : IO (List UInt8) := do
  try
    return (← IO.FS.readBinFile file).toList
  catch _ => return []

/-- Does a file begin like a script that names its interpreter? -/
def isScript (bytes : List UInt8) : Bool := bytes.take 2 == [35, 33]

/-- Everything at an entry of a directory. Links to directories are left out. -/
partial def nodeOf (entry : IO.FS.DirEntry) : IO (Option Node) := do
  match (← entry.path.symlinkMetadata).type with
  | .dir =>
    let below ← entriesOf entry.path.toString
    let nodes ← below.filterMapM fun e => do
      return (← nodeOf e).map fun node => (e.fileName, node)
    return some (.directory nodes)
  | .symlink =>
    if ← entry.path.isDir then return none
    else return some (.file (← bytesOf entry.path.toString) false)
  | _ =>
    let bytes ← bytesOf entry.path.toString
    return some (.file bytes (isScript bytes))

/-- Everything in a directory. -/
def directoryAt (path : String) : IO Node := do
  let nodes ← (← entriesOf path).filterMapM fun e => do
    return (← nodeOf e).map fun node => (e.fileName, node)
  return .directory nodes

/-- The names in a directory: directories and files without what is in them. -/
def namesAt (path : String) : IO Node := do
  let nodes ← (← entriesOf path).mapM fun e => do
    return (e.fileName, if ← e.path.isDir then .directory [] else .file [] false)
  return .directory nodes

/-- The files around a directory: the names in the directories above it, and everything
in the root of its project, or in the directory itself. -/
def treeAround (current : Path) : IO FileTree := do
  let mut tree : FileTree := ⟨.directory [], current⟩
  for directory in current.ancestors.reverse do
    tree := tree.insert directory (← namesAt directory.text)
  let base := match ProjectRoot.find tree (ProjectRoot.generic.map .text) current with
    | .ok (some root) => root
    | _ => current
  return tree.insert base (← directoryAt base.text)

/-- Write the files that differ from what they were. -/
def writeBack (before after : FileTree) : IO Unit := do
  for file in after.files (Path.parse "/") do
    let now := (after.read file).toOption
    if now != (before.read file).toOption then
      IO.FS.createDirAll file.parent.text
      IO.FS.writeBinFile file.text ⟨(now.getD []).toArray⟩

/-- The exit code of the program; what escapes is told. -/
def finish (exit : CommandLine.Exit) : IO UInt32 := do
  match exit with
  | .code n => return UInt32.ofNat (n % 256).toNat
  | .escaped why =>
    IO.eprintln ("Error: " ++ why.message)
    return 1

end Proctor.Program

/-- The program. -/
def main (words : List String) : IO UInt32 := do
  let current := Proctor.Path.parse (← IO.currentDir).toString
  let tree ← Proctor.Program.treeAround current
  let result := Proctor.CommandLine.run {
    words, tree, environment := ← Proctor.Program.environment
    time := toString (← IO.monoMsNow) }
  IO.print result.stdout
  IO.eprint result.stderr
  Proctor.Program.writeBack tree result.tree
  Proctor.Program.finish result.exit

import Proctor.Engine.Host
import Proctor.Machine.Interpreter
import Proctor.Text.Quoted

/-!
# Processes

A host whose only programs are shells, their scripts, and a few utilities. What it is asked
to start becomes a process, unless there is no such program, and the whole life of the
process is worked out as soon as it is known when it will be asked to terminate.
-/

namespace Proctor.Machine

open Host (Launch Refusal Emission Trace)

/-- The environment of every program, unless it is changed. -/
def environment : List (String × String) :=
  [("PATH", ":".intercalate Utility.directories), ("HOME", "/root")]

/-- How deeply the steps of an interpretation may be nested. -/
def depth : Nat := 100000

/-- What a process is, once its program has been found. -/
inductive Image where
  | utility (name : String) (args : List String)
  | shell (args : List String)
  deriving DecidableEq, Repr

/-- The state that a process begins with. -/
def shellOf (l : Launch) (terminateAt : Option Nat) : Shell :=
  { terminateAt, bindings := l.environment, exported := l.environment.map (·.1),
    origin := l.tree, tree := { l.tree with current := Path.resolve l.tree.current l.directory } }

/-- An error of the system about a file. -/
def systemError (number : Nat) (text file : String) : Refusal :=
  .because ("[Errno " ++ toString number ++ "] " ++ text ++ ": " ++ file)

/-- The directory, if a process can be started in it. -/
def checkDirectory (l : Launch) : Except Refusal Unit :=
  match l.tree.find l.directory with
  | .ok (.directory _) => .ok ()
  | .error .absent => .error .missing
  | .ok (.file ..) | .error .notDirectory =>
    .error (systemError 20 "Not a directory"
      ("PosixPath(" ++ Text.quoted l.directory.text ++ ")"))

/-- What the file at a path is when it is started under a name. -/
def imageOfFile (s : Shell) (name : String) (p : Path) (args : List String) :
    Except Refusal Image :=
  let called := if name.toList.contains '/' then name else p.text
  match s.tree.find p with
  | .ok (.file content true) =>
    match Interpreter.interpreter? content with
    | some (i, more) =>
      if Interpreter.shells.contains i then .ok (.shell (more ++ called :: args))
      else if Utility.names.contains i then .ok (.utility i (more ++ called :: args))
      else .error .missing
    | none => .error (systemError 8 "Exec format error" (Text.quoted name))
  | .ok _ => .error (systemError 13 "Permission denied" (Text.quoted name))
  | .error .notDirectory => .error (systemError 20 "Not a directory" (Text.quoted name))
  | .error .absent => .error .missing

/-- What a command is when it is started. -/
def image (l : Launch) : Except Refusal Image := do
  checkDirectory l
  let s := shellOf l none
  match l.command with
  | [] => throw .missing
  | "" :: _ => throw (systemError 13 "Permission denied" (Text.quoted ""))
  | name :: args =>
    match Interpreter.locate s name with
    | .utility u => return if Interpreter.shells.contains u then .shell args else .utility u args
    | .file p => imageOfFile s name p args
    | .absent =>
      if name.toList.contains '/' then imageOfFile s name (Path.parse name) args
      else throw .missing

/-- The shell at the end of the process. -/
def live (l : Launch) (terminateAt : Option Nat) : Image → Shell
  | .utility u args => Interpreter.utility depth (shellOf l terminateAt) 1 u args
  | .shell args =>
    Interpreter.becomeShell depth (Interpreter.childShell (shellOf l terminateAt)) args

/-- The exit code of a process that has come to its end. -/
def exitCode? (s : Shell) : Option Int :=
  match s.flow with
  | .exiting k => some k
  | .killed signal => some (-(signal : Int))
  | .endless => none
  | _ => some s.status

/-- What was written to the outputs, in order of time. -/
def emissionsOf (s : Shell) : List Emission :=
  let all := s.chunks.reverse.filterMap fun c =>
    match c.sink with
    | .stream stream => some ⟨c.time, stream, c.bytes⟩
    | _ => none
  Timeline.sort Emission.time all

/-- The life of a process that is asked to terminate at a moment, or never. -/
def trace (l : Launch) (image : Image) (terminateAt : Option Nat) : Trace :=
  let s := live l terminateAt image
  let ended := (exitCode? s).map fun _ => s.now
  let closed (f : Child → Bool) : Option Nat :=
    Timeline.last? (ended :: (s.children.filter f).map (·.ended))
  { emissions := emissionsOf s
    exit := (exitCode? s).map fun code => (s.now, code)
    stdoutClosed := closed (·.holdsStdout)
    stderrClosed := closed (·.holdsStderr)
    others := s.children.map fun c => (c.started, c.ended)
    changes := (Timeline.sort Deed.time s.deeds.reverse).map fun d => (d.time, d.change) }

/-- The host with the machine's programs. -/
instance host : Host where
  start l := (image l).map (trace l)

end Proctor.Machine

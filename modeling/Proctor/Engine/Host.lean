import Proctor.Capture
import Proctor.FileTree

/-!
# Hosts

What starts the processes of jobs and lets them live. A host is asked to start a program
and either refuses, or tells the whole life of the process and of those it starts in turn,
as soon as it is known when they will be asked to terminate. What programs there are, what
they write, how they exit and what they do to the files is up to the host alone.
-/

namespace Proctor

namespace Host

/-- A program to be started: for which job and when, its command, where it is started and with
what environment, and the files there are at that moment. -/
structure Launch where
  job : Nat
  moment : Nat
  command : List String
  directory : Path
  environment : List (String × String)
  tree : FileTree

/-- Why a program is not started. -/
inductive Refusal where
  /-- The program or the directory does not exist. -/
  | missing
  /-- Any other reason, in the system's words. -/
  | because (reason : String)
  deriving DecidableEq, Repr

/-- What a process writes, at a moment since its start. -/
structure Emission where
  time : Nat
  stream : Stream
  bytes : List UInt8

/-- The life of a process and of those it has started, told in milliseconds since its
start. -/
structure Trace where
  emissions : List Emission
  /-- When and how it ends, if it ever does. -/
  exit : Option (Nat × Int)
  /-- When nobody can write to an output any more. -/
  stdoutClosed : Option Nat
  stderrClosed : Option Nat
  /-- When other processes begin and, if they ever do, end. -/
  others : List (Nat × Option Nat)
  /-- What they do to the files, in order of time. -/
  changes : List (Nat × FileTree.Change)

/-- The life of processes that are asked to terminate at a moment since their start, or
never. -/
abbrev Life := Option Nat → Trace

end Host

/-- What starts programs. The same command may fare differently as another job or at another
moment, so that nothing is assumed of programs but that they have a life. -/
class Host where
  start : Host.Launch → Except Host.Refusal Host.Life

end Proctor

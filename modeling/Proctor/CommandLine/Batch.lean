import Proctor.CommandLine.Desk
import Proctor.Target

/-!
# Batches

Select the tests at some targets, and run all that were found at once. A target whose
file is missing, or at which no test stands, is passed over with a warning.
-/

namespace Proctor.CommandLine

/-- What became of a target. -/
inductive Sighting where
  | fileMissing
  | nothing
  | selected (t : TestInfo)
  deriving Repr

namespace Sighting

/-- The warning about a target that was passed over. -/
def warning (target : Target) : Sighting → Option String
  | fileMissing => some ("Warning: skipping missing file " ++ target.file.text)
  | nothing =>
    some ("Warning: no test found at " ++ target.file.text ++ ":" ++ toString target.line)
  | selected _ => none

end Sighting

/-- Select the test at a target. -/
def selectTarget (language : Option String) (s : Session) (target : Target) :
    Session × Except Error Sighting :=
  if s.tree.isFile target.file then
    let (s, found) := s.selectAtPoint target.file.text none target.line language
    (s, found.map fun t => (t.map .selected).getD .nothing)
  else (s, .ok .fileMissing)

namespace Desk

/-- Select the tests at some targets, one after the other. -/
def selectTargets (language : Option String) :
    List Target → Desk → Session → Desk × Except Error Session
  | [], d, s => (d, .ok s)
  | target :: rest, d, s =>
    match selectTarget language s target with
    | (s, .error why) => ((d.follow s).1, .error why)
    | (s, .ok sighting) =>
      let (d, s) := d.follow s
      let d := match sighting.warning target with
        | some warning => d.notice warning
        | none => d
      selectTargets language rest d s

/-- How a call ends whose jobs are over. -/
def exitFor (s : Session) (ids : List Nat) : Exit :=
  match Job.exitCodeFor (ids.filterMap fun id => s.world.engine.jobs[id]?) with
  | .ok (.int n) => .code n
  | .ok _ => .code 1
  | .error why => .escaped why

/-- Run the selected tests and wait for all of them. -/
def runSelected [Host] (d : Desk) (s : Session) (options : RunOptions) : Desk × Exit :=
  match s.runSelected options with
  | (s, .error why) => ((d.follow s.abandon).1, .escaped why)
  | (s, .ok ids) =>
    let s := s.wait ids
    ((d.follow s).1, if ids.isEmpty then .code 1 else exitFor s ids)

/-- Run the tests at some targets. -/
def batch [Host] (d : Desk) (own : LogOptions) (r : BatchRequest) : Desk × Except Refusal Exit :=
  let d := d.configureFor own
  match r.targets.mapM Target.parse with
  | .error (.badTarget target) => (d, .error (.badTarget (.badTarget target)))
  | .error why => (d, .ok (.escaped why))
  | .ok targets =>
    match d.openSession r.config with
    | (d, .error exit) => (d, .ok exit)
    | (d, .ok s) =>
      match selectTargets r.language targets d s with
      | (d, .error why) => (d, .ok (.escaped why))
      | (d, .ok s) =>
        if s.selected.isEmpty then (d.notice "No tests selected", .ok (.code 1))
        else
          let d := d.print
            ("Running " ++ toString s.selected.length ++ " selected test(s)")
          let (d, exit) := d.runSelected s r.options
          (d, .ok exit)

end Desk

end Proctor.CommandLine

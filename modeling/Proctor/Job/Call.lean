import Mathlib.Data.List.Destutter
import Proctor.Job

/-!
# Calls on a job

The three requests that move a job on, as data, so that a life of a job is a list of
them. A call that is refused is answered with an error, and the life goes on.
-/

namespace Proctor.Job

/-- What can be asked of a job. -/
inductive Call where
  | run (directory : Path)
  | complete (exitCode : Int) (stdout stderr : Option (List String)) (timedOut : Bool)
      (errorMessage : Option String)
  | cancel
  deriving DecidableEq, Repr

namespace Call

/-- The state a call leads to. -/
def target : Call → JobState
  | run _ => .running
  | complete .. => .completed
  | cancel => .cancelled

/-- The change that a call asks for. -/
def change (now : Moment) : Call → Change
  | run directory => .running directory now
  | complete exitCode stdout stderr timedOut errorMessage =>
    .completed { exitCode := .int exitCode, stdout, stderr, timedOut, errorMessage } now
  | cancel => .cancelled now

end Call

/-- What a call is answered with, and the job after it. -/
def call (j : Job) (now : Moment) (c : Call) : Except Error Unit × Job :=
  j.perform (c.change now)

/-- The jobs after each of some calls, the refused ones among them. -/
def stages (j : Job) : List (Moment × Call) → List Job
  | [] => []
  | x :: rest => (j.call x.1 x.2).2 :: (j.call x.1 x.2).2.stages rest

/-- The job after some calls. -/
def after (j : Job) (calls : List (Moment × Call)) : Job :=
  calls.foldl (fun j x => (j.call x.1 x.2).2) j

/-- The states that a job passes through, the one it is in at first included. Staying in
a state counts once. -/
def passed (j : Job) (calls : List (Moment × Call)) : List JobState :=
  ((j :: j.stages calls).map state).destutter (· ≠ ·)

end Proctor.Job

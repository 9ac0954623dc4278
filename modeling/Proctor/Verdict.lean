import Proctor.Job

/-!
# Verdicts

What a job came to, in one word, as every report shows it.
-/

namespace Proctor

/-- What a job came to. The exit code is null while the job is not over. -/
inductive Verdict where
  | cancelled
  | timedOut (code : Value)
  | couldNotRun (code : Value)
  | passed
  | failed (code : Value)
  deriving Repr

namespace Verdict

/-- The verdict on a job. -/
def ofJob (j : Job) : Verdict :=
  if j.state == .cancelled then cancelled
  else if j.timedOut then timedOut j.exitCode
  else if j.errorMessage.isSome then couldNotRun j.exitCode
  else if j.exitCode.same (.int 0) then passed
  else failed j.exitCode

/-- An exit code in brackets. -/
def exitText (code : Value) : String :=
  " (exit " ++ code.display ++ ")"

/-- The verdict in words. -/
def label : Verdict → String
  | cancelled => "CANCELLED"
  | timedOut code => "TIMED OUT" ++ exitText code
  | couldNotRun code => "COULD NOT RUN" ++ exitText code
  | passed => "PASSED"
  | failed code => "FAILED" ++ exitText code

/-- How the verdict is set off where there are colours. -/
def style : Verdict → String
  | cancelled => "yellow"
  | passed => "bold green"
  | _ => "bold red"

/-- Did the test pass? -/
def isPass : Verdict → Bool
  | passed => true
  | _ => false

/-- Is the failure the system's, and not the test's? -/
def isSystemFailure : Verdict → Bool
  | timedOut _ | couldNotRun _ => true
  | _ => false

end Verdict

end Proctor

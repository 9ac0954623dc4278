import Proctor.Number.Fixed
import Proctor.TestInfo
import Proctor.Value.Order

/-!
# Jobs

The record of one attempt to run a test. A job is created, then running, and in the
end completed or cancelled; every other step is refused and leaves the record as it
was.
-/

namespace Proctor

/-- Overrides for a single run. What is absent is taken from the configuration. -/
structure RunOptions where
  mode : Value := .text "normal"
  output : Option String := none
  directory : Option String := none
  /-- The time the test may take, in milliseconds. -/
  timeout : Option Int := none
  env : List (String × Value) := []

/-- Where a job stands. -/
inductive JobState where
  | created
  | running
  | completed
  | cancelled
  deriving DecidableEq, Repr

namespace JobState

/-- The name of a state. -/
def name : JobState → String
  | created => "CREATED"
  | running => "RUNNING"
  | completed => "COMPLETED"
  | cancelled => "CANCELLED"

/-- The sign of a state. -/
def emoji : JobState → String
  | created => "📝"
  | running => "🔄"
  | completed => "🏁"
  | cancelled => "⏹️"

/-- Is the job over? -/
def isTerminal : JobState → Bool
  | completed | cancelled => true
  | created | running => false

/-- The steps of a job's life. -/
def allows : JobState → JobState → Bool
  | created, running => true
  | running, completed => true
  | running, cancelled => true
  | _, _ => false

end JobState

/-- The exit code of a job whose time ran out. -/
def timeoutExitCode : Int := 124

/-- The exit code of a job that could not be started. -/
def spawnFailureExitCode : Int := 127

/-- The exit code of a cancelled job. -/
def cancelledExitCode : Int := -1

/-- A moment, in seconds since some fixed one. -/
abbrev Moment := Number.Ratio

/-- One attempt to run a test. -/
structure Job where
  command : List String
  test : TestInfo
  options : RunOptions := {}
  state : JobState := .created
  stdout : List String := []
  stderr : List String := []
  /-- The exit code; null until the job is over. A process always gives a whole
  number, but whoever completes a job by hand may record any value. -/
  exitCode : Value := .null
  started : Option Moment := none
  ended : Option Moment := none
  directory : Option Path := none
  timedOut : Bool := false
  errorMessage : Option String := none

/-- How a process ended, as it is recorded. -/
structure Outcome where
  exitCode : Value
  /-- The captured lines; without any, those there are stay. -/
  stdout : Option (List String) := none
  stderr : Option (List String) := none
  timedOut : Bool := false
  errorMessage : Option String := none

namespace Job

/-- Is the job over? -/
def isTerminal (j : Job) : Bool := j.state.isTerminal

/-- Is the job running? -/
def isRunning (j : Job) : Bool := j.state == .running

/-- Did the test pass? -/
def succeeded (j : Job) : Bool := j.state == .completed && j.exitCode.same (.int 0)

/-- Is the failure the system's, and not the test's? -/
def couldNotRun (j : Job) : Bool := j.timedOut || j.errorMessage.isSome

/-- How long the job took, once it is over. -/
def duration? (j : Job) : Option Number.Ratio :=
  match j.started, j.ended with
  | some a, some b => some (Number.Ratio.distance a b)
  | _, _ => none

/-- A change of a job, made one field at a time. A change that is refused ends there;
what it has written before that stays written. -/
abbrev Change := ExceptT Error (StateM Job) Unit

namespace Change

/-- Go on to a state, if the job's life allows that step. -/
def moveTo (target : JobState) : Change := do
  let j ← get
  if j.state.allows target then set { j with state := target }
  else throw (.illegalStep (.move j.state.name target.name j.test.nameText))

/-- Record how the job ended. Lines that are not given stay as they are. -/
def finish (exitCode : Value) (stdout stderr : Option (List String)) (now : Moment) :
    Change := do
  modify fun j => { j with exitCode }
  modify fun j => { j with ended := some now }
  if let some lines := stdout then modify fun j => { j with stdout := lines }
  if let some lines := stderr then modify fun j => { j with stderr := lines }

/-- Run in a directory. -/
def running (directory : Path) (now : Moment) : Change := do
  moveTo .running
  modify fun j => { j with directory := some directory }
  modify fun j => { j with started := some now }

/-- Be completed. -/
def completed (o : Outcome) (now : Moment) : Change := do
  moveTo .completed
  finish o.exitCode o.stdout o.stderr now
  modify fun j => { j with timedOut := o.timedOut }
  modify fun j => { j with errorMessage := o.errorMessage }

/-- Be cancelled. -/
def cancelled (now : Moment) : Change := do
  moveTo .cancelled
  finish (.int cancelledExitCode) none none now

end Change

/-- What a change comes to, and the job after it, refused or not. -/
def perform (j : Job) (c : Change) : Except Error Unit × Job := (c.run.run j : Id _)

/-- What is answered to a change that the job's life does not allow. -/
def refusal (j : Job) (target : JobState) : Error :=
  .illegalStep (.move j.state.name target.name j.test.nameText)

@[simp] theorem perform_bind (j : Job) (c : Change) (rest : Unit → Change) :
    j.perform (c >>= rest) =
      match j.perform c with
      | (.ok u, k) => k.perform (rest u)
      | (.error e, k) => (.error e, k) := by
  simp only [perform, bind, ExceptT.bind, ExceptT.mk, ExceptT.run, ExceptT.bindCont,
    StateT.run, StateT.bind]
  rcases h : c j with ⟨_ | _, k⟩ <;> rfl

@[simp] theorem perform_modify (j : Job) (f : Job → Job) :
    j.perform (modify f) = (.ok (), f j) := rfl

@[simp] theorem perform_pure (j : Job) : j.perform (pure ()) = (.ok (), j) := rfl

@[simp] theorem perform_moveTo (j : Job) (target : JobState) :
    j.perform (.moveTo target) =
      if j.state.allows target then (.ok (), { j with state := target })
      else (.error (j.refusal target), j) := by
  change (if j.state.allows target then _ else _ : Change) j = _
  split <;> rfl

/-- All that recording an end writes. -/
@[simp] theorem perform_finish (j : Job) (exitCode : Value)
    (stdout stderr : Option (List String)) (now : Moment) :
    j.perform (.finish exitCode stdout stderr now) =
      (.ok (), { j with
        exitCode, ended := some now, stdout := stdout.getD j.stdout,
        stderr := stderr.getD j.stderr }) := by
  cases stdout <;> cases stderr <;> rfl

/-- The job after a change that is not refused. -/
def changed (j : Job) (c : Change) : Except Error Job :=
  match j.perform c with
  | (.ok _, j) => .ok j
  | (.error e, _) => .error e

/-- The job running in a directory. -/
def markRunning (j : Job) (directory : Path) (now : Moment) : Except Error Job :=
  j.changed (.running directory now)

/-- The job completed. -/
def markCompleted (j : Job) (o : Outcome) (now : Moment) : Except Error Job :=
  j.changed (.completed o now)

/-- The job cancelled. -/
def markCancelled (j : Job) (now : Moment) : Except Error Job :=
  j.changed (.cancelled now)

/-- The job with all that running in a directory writes. -/
def asRunning (j : Job) (directory : Path) (now : Moment) : Job :=
  { j with state := .running, directory := some directory, started := some now }

/-- The job with all that its completion writes. -/
def asCompleted (j : Job) (o : Outcome) (now : Moment) : Job :=
  { j with
    state := .completed, exitCode := o.exitCode, ended := some now,
    stdout := o.stdout.getD j.stdout, stderr := o.stderr.getD j.stderr,
    timedOut := o.timedOut, errorMessage := o.errorMessage }

/-- The job with all that its cancellation writes. -/
def asCancelled (j : Job) (now : Moment) : Job :=
  { j with state := .cancelled, exitCode := .int cancelledExitCode, ended := some now }

/-- A refused run leaves every field as it was. -/
theorem perform_running (j : Job) (directory : Path) (now : Moment) :
    j.perform (.running directory now) =
      if j.state.allows .running then (.ok (), j.asRunning directory now)
      else (.error (j.refusal .running), j) := by
  by_cases allowed : j.state.allows .running
  · simp only [Change.running, perform_bind, perform_moveTo, perform_modify, allowed, if_true,
      asRunning]
  · simp [Change.running, allowed]

/-- A refused completion leaves every field as it was. -/
theorem perform_completed (j : Job) (o : Outcome) (now : Moment) :
    j.perform (.completed o now) =
      if j.state.allows .completed then (.ok (), j.asCompleted o now)
      else (.error (j.refusal .completed), j) := by
  by_cases allowed : j.state.allows .completed
  · simp only [Change.completed, perform_bind, perform_moveTo, perform_finish, perform_modify,
      allowed, if_true, asCompleted]
  · simp [Change.completed, allowed]

/-- A refused cancellation leaves every field as it was. -/
theorem perform_cancelled (j : Job) (now : Moment) :
    j.perform (.cancelled now) =
      if j.state.allows .cancelled then (.ok (), j.asCancelled now)
      else (.error (j.refusal .cancelled), j) := by
  by_cases allowed : j.state.allows .cancelled
  · simp only [Change.cancelled, perform_bind, perform_moveTo, perform_finish,
      Option.getD_none, allowed, if_true, asCancelled]
  · simp [Change.cancelled, allowed]

/-- The job completed, unless it has its outcome already. -/
def completeOpen (j : Job) (o : Outcome) (now : Moment) : Job :=
  if j.isTerminal then j else (j.perform (.completed o now)).2

/-- The job cancelled, unless it has its outcome already. -/
def cancelOpen (j : Job) (now : Moment) : Job :=
  if j.isTerminal then j else (j.perform (.cancelled now)).2

theorem completeOpen_of_terminal {j : Job} (terminal : j.isTerminal) (o : Outcome) (now : Moment) :
    j.completeOpen o now = j := if_pos terminal

theorem completeOpen_of_running {j : Job} (running : j.state = .running) (o : Outcome)
    (now : Moment) : j.completeOpen o now = j.asCompleted o now := by
  simp [completeOpen, isTerminal, running, JobState.isTerminal, perform_completed,
    JobState.allows]

theorem cancelOpen_of_terminal {j : Job} (terminal : j.isTerminal) (now : Moment) :
    j.cancelOpen now = j := if_pos terminal

theorem cancelOpen_of_running {j : Job} (running : j.state = .running) (now : Moment) :
    j.cancelOpen now = j.asCancelled now := by
  simp [cancelOpen, isTerminal, running, JobState.isTerminal, perform_cancelled,
    JobState.allows]

theorem running_or_terminal {j : Job} (dispatched : j.state ≠ .created) :
    j.state = .running ∨ j.isTerminal := by
  unfold isTerminal
  cases h : j.state <;> simp_all [JobState.isTerminal]

theorem not_isTerminal_of_running {j : Job} (running : j.state = .running) :
    ¬ j.isTerminal := by
  simp [isTerminal, running, JobState.isTerminal]

theorem left_of_terminal {j : Job} (terminal : j.isTerminal) : j.state ≠ .created := by
  intro created
  simp [isTerminal, created, JobState.isTerminal] at terminal

/-- A job that was dispatched has an outcome after it was given one. -/
theorem isTerminal_completeOpen {j : Job} (dispatched : j.state ≠ .created) (o : Outcome)
    (now : Moment) : (j.completeOpen o now).isTerminal := by
  obtain running | terminal := running_or_terminal dispatched
  · rw [completeOpen_of_running running]
    rfl
  · rwa [completeOpen_of_terminal terminal]

/-- A job that was dispatched has an outcome after it was cancelled. -/
theorem isTerminal_cancelOpen {j : Job} (dispatched : j.state ≠ .created) (now : Moment) :
    (j.cancelOpen now).isTerminal := by
  obtain running | terminal := running_or_terminal dispatched
  · rw [cancelOpen_of_running running]
    rfl
  · rwa [cancelOpen_of_terminal terminal]

/-- The exit code that stands for a job that did not pass: its own if that is
positive, else one. -/
def failureCode (code : Value) : Except Error Value :=
  match code with
  | .null => .ok (.int 1)
  | code =>
    match code.fraction? with
    | some (numerator, _) => .ok (if numerator > 0 then code else .int 1)
    | none => .error .wrongType

/-- The exit code of a program that ran some jobs: zero when all of them passed,
else that of the first that did not. -/
def exitCodeFor : List Job → Except Error Value
  | [] => .ok (.int 0)
  | j :: rest => if j.succeeded then exitCodeFor rest else failureCode j.exitCode

end Job

end Proctor

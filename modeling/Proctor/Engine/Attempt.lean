import Proctor.Config
import Proctor.Engine.Task
import Proctor.Job
import Proctor.Log

/-!
# Attempts

An attempt is a job with the task that drives it and the processes it has started.
`Attempt.react?` says what an event does to an attempt, place by place; an event that
cannot happen where the task stands has no result.

A job gets its outcome from the first event that decides it: a stop at once, all
others when its task ends or when the engine's callback runs.
-/

namespace Proctor

/-- The part of the tool that speaks in the journal. -/
def Engine.logger : String := "execution.engine"

/-- A job and what drives it. -/
structure Attempt where
  job : Job
  /-- The task, once the job has been dispatched. -/
  task : Option Task := none
  /-- The processes, once one has been started. -/
  group : Option Group := none

namespace Attempt

/-- An attempt after something has happened to it, and what is said about that. -/
structure Turn where
  attempt : Attempt
  said : List Log.Record := []

/-- The attempt with its task in another phase. -/
def enter (a : Attempt) (t : Task) (phase : Phase) : Attempt :=
  { a with task := some (t.enter phase) }

/-- The attempt with its processes in another state. -/
def withGroup (a : Attempt) (g : Group) : Attempt := { a with group := some g }

/-! ## Outcomes -/

/-- A record about the job. -/
def record (a : Attempt) (level : Log.Level) (event : String) (mark : Option String)
    (entries : Log.Entries) : Log.Record :=
  { level, logger := Engine.logger, event, mark,
    entries := ("test", a.job.test.nameValue) :: entries }

/-- A record about the job, unless the job has its outcome already. -/
def recordOpen (a : Attempt) (level : Log.Level) (event : String) (mark : Option String)
    (entries : Log.Entries) : List Log.Record :=
  if a.job.isTerminal then [] else [a.record level event mark entries]

/-- The program of a job. -/
def programOf (j : Job) : String := j.command.headD ""

/-- What is said about a program that does not exist. -/
def missingMessage (j : Job) : String :=
  "Test command not found: '" ++ programOf j ++ "'. Is it installed and in the system's PATH?"

/-- What is said about a program that the system refuses to start. -/
def refusedMessage (j : Job) (reason : String) : String :=
  "Could not start test command '" ++ programOf j ++ "': " ++ reason

/-- What is said about a test whose time ran out. -/
def timeoutMessage (ms : Int) : String := "Test timed out after " ++ toString ms ++ " ms"

/-- What is said about a task that failed. -/
def faultMessage (detail : String) : String := "Internal error: " ++ detail

/-- The outcome of a job whose process could not be started. -/
def spawnFailure (message : String) : Outcome :=
  { exitCode := .int spawnFailureExitCode, stdout := some [], stderr := some [],
    errorMessage := some message }

/-- The time that a test may take, in milliseconds. -/
def timeoutFor (config : Config) (j : Job) : Int :=
  match j.options.timeout with
  | none | some 0 => config.timeout
  | some t => t

/-- The outcome of a job whose time ran out: it keeps the complete lines. -/
def timeoutOutcome (ms : Int) (g : Group) : Outcome :=
  { exitCode := .int timeoutExitCode, stdout := some g.stdout.lines,
    stderr := some g.stderr.lines, timedOut := true, errorMessage := some (timeoutMessage ms) }

/-- The outcome of a job whose process has ended by itself. -/
def exitOutcome (code : Int) (g : Group) : Outcome :=
  { exitCode := .int code, stdout := some g.stdout.lines, stderr := some g.stderr.lines }

/-- The outcome of a job whose task failed: the lines stay as they were. -/
def faultOutcome (detail : String) : Outcome :=
  { exitCode := .int spawnFailureExitCode, errorMessage := some (faultMessage detail) }

/-! ## Ends of a task -/

/-- The process could not be started, and the task returns with that outcome. -/
def refuse (now : Moment) (a : Attempt) (t : Task) (message : String) : Turn :=
  ⟨{ a.enter t (.ended .returned) with job := a.job.completeOpen (spawnFailure message) now },
   [a.record .error "Test command could not be started" none [("error", .text message)]]⟩

/-- The task ends for a setback. -/
def setBack (now : Moment) (a : Attempt) (t : Task) : Setback → Turn
  | .missing => a.refuse now t (missingMessage a.job)
  | .refused reason => a.refuse now t (refusedMessage a.job reason)
  | .crashed detail => ⟨a.enter t (.ended (.failed detail)), []⟩

/-- The task ends without having come to read anything: for a setback, or else for a
cancellation. -/
def giveUp (now : Moment) (a : Attempt) (t : Task) : Option Setback → Turn
  | some why => a.setBack now t why
  | none => ⟨a.enter t (.ended .cancelled), []⟩

/-- The task returns after the process has ended by itself. -/
def finish (now : Moment) (a : Attempt) (t : Task) (g : Group) (code : Int) : Turn :=
  ⟨{ a.enter t (.ended .returned) with job := a.job.completeOpen (exitOutcome code g) now },
   a.recordOpen .info "Test command finished" (some (if code == 0 then "pass" else "fail"))
     [("exit_code", .int code)]⟩

/-- The task ends after its processes have been made to end. -/
def conclude (now : Moment) (config : Config) (a : Attempt) (t : Task) (g : Group) :
    Cause → Turn
  | .timeout =>
    let ms := timeoutFor config a.job
    ⟨{ a.enter t (.ended .returned) with job := a.job.completeOpen (timeoutOutcome ms g) now },
     a.recordOpen .warning "Test command timed out" (some "time") [("timeout_ms", .int ms)]⟩
  | .cancellation => ⟨a.enter t (.ended .cancelled), []⟩
  | .fault detail => ⟨a.enter t (.ended (.failed detail)), []⟩

/-! ## Making processes end -/

/-- Give up an attempt to start a process that is there already. Only the first process
is killed and waited for, since the tool does not yet know of the group. -/
def drop (now : Moment) (a : Attempt) (t : Task) (g : Group) (why : Option Setback) : Turn :=
  if g.exitCode.isSome then a.giveUp now t why
  else ⟨(a.withGroup (g.signal .killFirst)).enter t (.dropping why), []⟩

/-- Ask the group to terminate, if there is anybody left. -/
def terminate (now : Moment) (config : Config) (a : Attempt) (t : Task) (g : Group)
    (cause : Cause) : Turn :=
  if g.isGone then a.conclude now config t g cause
  else ⟨(a.withGroup (g.signal .terminate)).enter t (.terminating cause), []⟩

/-- The record of a group that did not terminate in time. -/
def killRecord : Log.Record :=
  { level := .warning, logger := Engine.logger,
    event := "Process group ignored SIGTERM, sending SIGKILL" }

/-- Kill a group that did not terminate in time. -/
def kill (now : Moment) (config : Config) (a : Attempt) (t : Task) (g : Group)
    (cause : Cause) : Turn :=
  let killed := g.signal .kill
  if g.exitCode.isSome then
    let turn := (a.withGroup killed).conclude now config t killed cause
    { turn with said := killRecord :: turn.said }
  else ⟨(a.withGroup killed).enter t (.killing cause), [killRecord]⟩

/-! ## Events -/

/-- The task begins. -/
def begin (now : Moment) (a : Attempt) (t : Task) : Spawn → Turn
  | .started => ⟨(a.withGroup {}).enter t .starting, []⟩
  | .failed why => a.setBack now t why

/-- What happens to a task whose process has just been started. -/
def whileStarting (now : Moment) (a : Attempt) (t : Task) (g : Group) :
    TaskEvent → Option Turn
  | .attached .started => some ⟨a.enter t .collecting, []⟩
  | .attached (.failed why) => some (a.drop now t g (some why))
  | .cancelled => some (a.drop now t g none)
  | _ => none

/-- What happens to a task that has given up the attempt to start a process. -/
def whileDropping (now : Moment) (a : Attempt) (t : Task) (g : Group) (why : Option Setback) :
    TaskEvent → Option Turn
  | .resumed => if g.exitCode.isSome then some (a.giveUp now t why) else none
  | .cancelled => some (a.giveUp now t none)
  | _ => none

/-- What happens to a task whose output is being read. -/
def whileCollecting (now : Moment) (a : Attempt) (t : Task) (g : Group) :
    TaskEvent → Option Turn
  | .output stream bytes =>
    if g.isOpen stream then some ⟨a.withGroup (g.write bytes stream), []⟩ else none
  | .closed stream =>
    if g.isOpen stream then some ⟨a.withGroup (g.close stream), []⟩ else none
  | .resumed => g.completed?.map fun code => a.finish now t g code
  | .timeUp => some ⟨a.enter t (.breaking .timeout), []⟩
  | .fault detail =>
    if g.stdoutOpen || g.stderrOpen then some ⟨a.enter t (.breaking (.fault detail)), []⟩
    else none
  | .cancelled => some ⟨a.enter t (.breaking .cancellation), []⟩
  | _ => none

/-- What happens to a task whose reading is broken off. -/
def whileBreaking (now : Moment) (config : Config) (a : Attempt) (t : Task) (g : Group)
    (cause : Cause) : TaskEvent → Option Turn
  | .resumed => some (a.terminate now config t g cause)
  | .cancelled => some (a.terminate now config t g cause.cancelled)
  | _ => none

/-- What happens to a task whose group has been asked to terminate. A cancellation ends
the task at once, whatever the processes do. -/
def whileTerminating (now : Moment) (config : Config) (a : Attempt) (t : Task) (g : Group)
    (cause : Cause) : TaskEvent → Option Turn
  | .resumed => if g.exitCode.isSome then some (a.conclude now config t g cause) else none
  | .graceOver => some (a.kill now config t g cause)
  | .cancelled => some (a.conclude now config t g .cancellation)
  | _ => none

/-- What happens to a task whose group has been killed. -/
def whileKilling (now : Moment) (config : Config) (a : Attempt) (t : Task) (g : Group)
    (cause : Cause) : TaskEvent → Option Turn
  | .resumed => if g.exitCode.isSome then some (a.conclude now config t g cause) else none
  | .cancelled => some (a.conclude now config t g .cancellation)
  | _ => none

/-- What an event does to an attempt at the place where its task stands. -/
def goOn? (now : Moment) (config : Config) (a : Attempt) (t : Task) (event : TaskEvent) :
    Option Turn :=
  match t.phase, a.group with
  | .pending, _ =>
    match event with
    | .begin spawn => some (a.begin now t spawn)
    | .cancelled => some (a.giveUp now t none)
    | _ => none
  | .starting, some g => a.whileStarting now t g event
  | .dropping why, some g => a.whileDropping now t g why event
  | .collecting, some g => a.whileCollecting now t g event
  | .breaking cause, some g => a.whileBreaking now config t g cause event
  | .terminating cause, some g => a.whileTerminating now config t g cause event
  | .killing cause, some g => a.whileKilling now config t g cause event
  | _, _ => none

/-- Can the event come, as far as cancellations go? One that has been asked for comes
before all that the task could go on with, but not before what others do. -/
def admits (t : Task) : TaskEvent → Bool
  | .cancelled => t.cancelRequested
  | .begin _ | .attached _ | .timeUp | .graceOver => !t.cancelRequested
  | .resumed =>
    match t.phase with
    | .collecting | .terminating _ => true
    | _ => !t.cancelRequested
  | .output .. | .closed _ | .fault _ | .process _ => true

/-- What an event does to an attempt, if it can happen. -/
def react? (now : Moment) (config : Config) (a : Attempt) : TaskEvent → Option Turn
  | .process event => (a.group.bind (·.after? event)).map fun g => ⟨a.withGroup g, []⟩
  | event =>
    match a.task with
    | none => none
    | some t =>
      if admits t event then
        a.goOn? now config (if event = .cancelled then t.takeCancel else t) event
      else none

/-! ## The engine's callback -/

/-- The outcome that the callback gives to a job without one. -/
def settle (now : Moment) (a : Attempt) : Ending → Turn
  | .returned => ⟨a, []⟩
  | .cancelled => ⟨{ a with job := a.job.cancelOpen now }, []⟩
  | .failed detail =>
    ⟨{ a with job := a.job.completeOpen (faultOutcome detail) now },
     [a.record .error "Job task failed unexpectedly" none [("error", .text detail)]]⟩

end Attempt

end Proctor

import Proctor.Engine.Attempt
import Proctor.Layout.Markup.Reader
import Proctor.Report
import Proctor.WorkingDirectory

/-!
# The engine

The engine holds an attempt for every job. A job that has been dispatched stands in
the engine's *table* until the engine's own callback on its task has run, which takes
it out and delivers it. Nothing else delivers.

Whoever waits for some jobs registers a callback on the task of each of them that
stands in the table, and goes on once all these callbacks have run.

What happens to the engine, from outside or from inside, is an *event*, so every
interleaving of requests, tasks and callbacks is a list of events. An event that is
refused, or that cannot happen in the state of the engine, changes nothing.
-/

namespace Proctor

/-- A job, or what is left of it, as one report got it. -/
structure Delivery where
  job : Nat
  /-- The name of the way of reporting. -/
  mode : String
  /-- The job as it was when it was delivered. -/
  record : Job
  /-- The report; none when there is no such way of reporting. -/
  report : Except Error Report

/-- Somebody waits for jobs. -/
structure Wait where
  /-- The jobs that are waited for. -/
  jobs : List Nat
  /-- Those on whose tasks a callback has been registered that has not run yet. -/
  pending : List Nat
  /-- Has the wait come to its end? -/
  returned : Bool
  deriving DecidableEq, Repr

/-- The engine. A job is known by its place in the list of attempts. -/
structure Engine where
  config : Config
  /-- The width of the console that reports are made for. -/
  width : Nat := 80
  /-- How a report is made, by the name of the way of reporting and the width. -/
  sinks : String → Nat → Except Error (Job → Report) := Report.sinkFor
  attempts : List Attempt := []
  /-- The jobs that were dispatched and not yet delivered. -/
  table : List Nat := []
  waits : List Wait := []
  deliveries : List Delivery := []
  journal : List Log.Record := []

namespace Engine

/-- An engine to which nothing has happened yet. -/
def fresh (config : Config) (width : Nat) (sinks : String → Nat → Except Error (Job → Report)) :
    Engine :=
  { config, width, sinks }

/-- All jobs, in the order of their creation. -/
def jobs (e : Engine) : List Job := e.attempts.map Attempt.job

/-- The task of a job, if it has one. -/
def task? (e : Engine) (id : Nat) : Option Task := e.attempts[id]?.bind Attempt.task

/-- The processes of a job, if one was started. -/
def group? (e : Engine) (id : Nat) : Option Group := e.attempts[id]?.bind Attempt.group

/-- The engine with an attempt changed. -/
def setAttempt (e : Engine) (id : Nat) (a : Attempt) : Engine :=
  { e with attempts := e.attempts.set id a }

/-- The engine with more records in its journal. -/
def say (e : Engine) (records : List Log.Record) : Engine :=
  { e with journal := e.journal ++ records }

/-- The engine after something has happened to an attempt. -/
def take (e : Engine) (id : Nat) (turn : Attempt.Turn) : Engine :=
  (e.setAttempt id turn.attempt).say turn.said

/-- How many tasks in the table are not over. -/
def activeCount (e : Engine) : Nat :=
  (e.table.filter fun id => (e.task? id).any (!·.isOver)).length

/-! ## Requests -/

/-- A request to the engine, served one step after the other. A step that is refused ends the
request; what has been changed before that stays changed. -/
abbrev Request (α : Type) := ExceptT Error (StateM Engine) α

/-- What a request comes to, and the engine after it, refused or not. -/
def serve {α : Type} (e : Engine) (r : Request α) : Except Error α × Engine := (r.run.run e : Id _)

section

variable {α β : Type} (e : Engine)

@[simp] theorem serve_bind (r : Request α) (rest : α → Request β) :
    e.serve (r >>= rest) =
      match e.serve r with
      | (.ok a, e) => e.serve (rest a)
      | (.error why, e) => (.error why, e) := by
  simp only [serve, bind, ExceptT.bind, ExceptT.mk, ExceptT.run, ExceptT.bindCont,
    StateT.run, StateT.bind]
  rcases h : r e with ⟨_ | _, k⟩ <;> rfl

@[simp] theorem serve_pure (a : α) : e.serve (pure a) = (.ok a, e) := rfl

@[simp] theorem serve_throw (why : Error) :
    e.serve (throw why : Request α) = (.error why, e) := rfl

@[simp] theorem serve_get : e.serve get = (.ok e, e) := rfl

@[simp] theorem serve_modify (f : Engine → Engine) : e.serve (modify f) = (.ok (), f e) := rfl

@[simp] theorem serve_ofExcept (x : Except Error α) : e.serve (ofExcept x) = (x, e) := by
  cases x <;> rfl

end

/-- The engine with a new job, and the job's number. -/
def create (e : Engine) (command : List String) (test : TestInfo) (options : RunOptions) :
    Engine × Nat :=
  ({ e with attempts := e.attempts ++ [{ job := { command, test, options } }] },
   e.attempts.length)

/-- The record of a dispatch. -/
def dispatchRecord (j : Job) (directory : Path) : Log.Record :=
  { level := .info, logger, event := "Dispatching test", mark := some "run",
    entries := [("test", j.test.nameValue), ("command", .text (" ".intercalate j.command)),
      ("cwd", .text directory.text)] }

/-- The attempt with one more callback on its task. -/
def register (c : Callback) (a : Attempt) : Attempt :=
  { a with task := a.task.map (·.register c) }

namespace Request

/-- Refuse the request under a condition. -/
def refuseIf (condition : Bool) (why : Error) : Request Unit :=
  if condition then throw why else pure ()

@[simp] theorem serve_refuseIf (e : Engine) (condition : Bool) (why : Error) :
    e.serve (refuseIf condition why) = (if condition then .error why else .ok (), e) := by
  unfold refuseIf
  split <;> rfl

/-- The attempt at a job. -/
def attempt (id : Nat) : Request Attempt := do
  match (← get).attempts[id]? with
  | some a => return a
  | none => throw .missingKey

/-- Change a job, as far as the change comes. -/
def changeJob (id : Nat) (c : Job.Change) : Request Unit := do
  let a ← attempt id
  let (answer, job) := a.job.perform c
  modify (·.setAttempt id { a with job })
  ofExcept answer

/-- Give a job a task. There are no processes yet, and nobody is going to be called back. -/
def startTask (id : Nat) : Request Unit := do
  let a ← attempt id
  modify (·.setAttempt id { a with task := some { callbacks := [] }, group := none })

/-- Put a job into the table. -/
def enlist (id : Nat) : Request Unit := modify fun e => { e with table := e.table ++ [id] }

/-- Have a callback run once the task of a job is over. -/
def callWhenOver (id : Nat) (c : Callback) : Request Unit := do
  let a ← attempt id
  modify (·.setAttempt id (register c a))

/-- The second half of a dispatch: the job runs in a directory, and has a task in the table. -/
def proceed (now : Moment) (id : Nat) (j : Job) (directory : Path) : Request Unit := do
  changeJob id (.running directory now)
  modify (·.say [dispatchRecord j directory])
  startTask id
  enlist id
  callWhenOver id .own

/-- Dispatch a job. Every check comes before the first change. -/
def dispatch (tree : FileTree) (registry : Registry) (hasLoop : Bool) (now : Moment) (id : Nat) :
    Request Unit := do
  let j := (← attempt id).job
  refuseIf (j.state != .created) (.illegalStep (.dispatched j.test.nameText j.state.name))
  refuseIf (!hasLoop) .noLoop
  let configured := (← get).config.directory
  let directory ← ofExcept
    (WorkingDirectory.resolve tree registry configured j.test j.options.directory)
  proceed now id j directory

end Request

/-- The engine after a dispatch that is not refused. -/
def run (tree : FileTree) (registry : Registry) (hasLoop : Bool) (now : Moment) (e : Engine)
    (id : Nat) : Except Error Engine :=
  match e.serve (.dispatch tree registry hasLoop now id) with
  | (.ok _, e) => .ok e
  | (.error why, _) => .error why

/-- The record of a stop. -/
def stopRecord (j : Job) : Log.Record :=
  { level := .info, logger, event := "Stopped test execution",
    entries := [("test", j.test.nameValue)] }

/-- Ask for the cancellation of a task, unless it is over. -/
def requestCancel (a : Attempt) : Attempt :=
  { a with task := a.task.map fun t => if t.isOver then t else t.requestCancel }

/-- The attempt with a job that has been stopped. Its task is asked to give up, as far as
the engine knows of it. -/
def stopped (a : Attempt) (job : Job) (listed : Bool) : Attempt :=
  if listed then requestCancel { a with job } else { a with job }

/-- Stop a job that is running, and say whether it was. -/
def stop (now : Moment) (e : Engine) (id : Nat) : Engine × Bool :=
  match e.attempts[id]? with
  | none => (e, false)
  | some a =>
    match a.job.isRunning, a.job.markCancelled now with
    | true, .ok job =>
      ((e.setAttempt id (stopped a job (e.table.contains id))).say [stopRecord a.job], true)
    | _, _ => (e, false)

/-- Cancel the task of a job from outside, if it has one that is not over. -/
def cancel? (e : Engine) (id : Nat) : Option Engine :=
  match e.task? id with
  | none => none
  | some t =>
    if t.isOver then none
    else e.attempts[id]?.map fun a => e.setAttempt id (requestCancel a)

/-- Begin to wait for some jobs: the number of the wait. Without a job in the table
there is nothing to wait for. -/
def wait (e : Engine) (ids : List Nat) : Engine × Nat :=
  let number := e.waits.length
  let pending := e.table.filter (ids.contains ·)
  ({ e with
      attempts := e.attempts.mapIdx fun id a =>
        if pending.contains id then register (.wait number) a else a
      waits := e.waits ++ [⟨ids, pending, pending.isEmpty⟩] }, number)

/-- Come back from a wait on whose account no callback is left to run. -/
def resume? (e : Engine) (number : Nat) : Option Engine :=
  match e.waits[number]? with
  | none => none
  | some w =>
    if w.pending.isEmpty && !w.returned then
      some { e with waits := e.waits.set number { w with returned := true } }
    else none

/-! ## Tasks and callbacks -/

/-- What an event does to the task of a job, if it can happen. -/
def handle? (now : Moment) (e : Engine) (id : Nat) (event : TaskEvent) : Option Engine :=
  match e.attempts[id]? with
  | none => none
  | some a => (a.react? now e.config event).map (e.take id)

/-- The name of the way of reporting that a job asks for. -/
def modeFor (config : Config) (j : Job) : String :=
  match j.options.output.filter (!·.isEmpty) with
  | some mode => mode
  | none => config.output.name

/-- The delivery of a job. -/
def deliveryOf (e : Engine) (id : Nat) (j : Job) : Delivery :=
  let mode := modeFor e.config j
  { job := id, mode, record := j, report := (e.sinks mode e.width).map fun sink => sink j }

/-- What is said about a delivery that failed. -/
def deliveryRecords (d : Delivery) : List Log.Record :=
  let failed (why : Error) : Log.Record :=
    { level := .error, logger, event := "Output sink failed to render job",
      entries := [("output_mode", .text d.mode), ("error", .text why.message),
        ("exc_info", .bool true)] }
  match d.report with
  | .error why => Report.sinkRecords why ++ [failed why]
  | .ok r => (r.failure.map failed).toList

/-- Deliver a job. -/
def deliver (e : Engine) (id : Nat) (j : Job) : Engine :=
  let d := e.deliveryOf id j
  { e with deliveries := e.deliveries ++ [d], journal := e.journal ++ deliveryRecords d }

/-- The attempt with only some callbacks left. -/
def withCallbacks (a : Attempt) (t : Task) (rest : List Callback) : Attempt :=
  { a with task := some { t with callbacks := rest } }

/-- The engine's own callback: take the job out of the table, give it an outcome if it
has none, and deliver it. -/
def settle? (now : Moment) (e : Engine) (id : Nat) : Option Engine :=
  match e.attempts[id]? with
  | none => none
  | some a =>
    match a.task with
    | none => none
    | some t =>
      match t.phase, t.callbacks with
      | .ended ending, .own :: rest =>
        let turn := (withCallbacks a t rest).settle now ending
        some (({ e with table := e.table.filter (· != id) }.take id turn).deliver id
          turn.attempt.job)
      | _, _ => none

/-- The callback of somebody who waits. -/
def wake? (e : Engine) (id : Nat) : Option Engine :=
  match e.attempts[id]? with
  | none => none
  | some a =>
    match a.task with
    | none => none
    | some t =>
      match t.phase, t.callbacks with
      | .ended _, .wait number :: rest =>
        some { e.setAttempt id (withCallbacks a t rest) with
          waits := e.waits.modify number fun w =>
            { w with pending := w.pending.filter (· != id) } }
      | _, _ => none

/-- The first callback of a task that is over, whosever it is. -/
def callBack? (now : Moment) (e : Engine) (id : Nat) : Option Engine :=
  (e.settle? now id).or (e.wake? id)

/-! ## Histories -/

/-- Everything that can happen to an engine, at its moment. -/
inductive Event where
  | create (command : List String) (test : TestInfo) (options : RunOptions)
  | run (tree : FileTree) (registry : Registry) (hasLoop : Bool) (id : Nat)
  | stop (id : Nat)
  /-- Somebody cancels the task that a dispatch has given back. -/
  | cancel (id : Nat)
  | wait (ids : List Nat)
  /-- A wait comes to its end. -/
  | resume (number : Nat)
  | task (id : Nat) (event : TaskEvent)
  /-- The engine's callback on a task that is over. -/
  | settle (id : Nat)
  /-- The callback of a wait on a task that is over. -/
  | wake (id : Nat)

/-- What an event does, if it is not refused and can happen. -/
def step? (now : Moment) (e : Engine) : Event → Option Engine
  | .create command test options => some (e.create command test options).1
  | .run tree registry hasLoop id => (e.run tree registry hasLoop now id).toOption
  | .stop id => if (e.stop now id).2 then some (e.stop now id).1 else none
  | .cancel id => e.cancel? id
  | .wait ids => some (e.wait ids).1
  | .resume number => e.resume? number
  | .task id event => e.handle? now id event
  | .settle id => e.settle? now id
  | .wake id => e.wake? id

/-- The engine after an event. -/
def step (now : Moment) (e : Engine) (event : Event) : Engine :=
  (e.step? now event).getD e

/-- The engine after some events. -/
def play (e : Engine) (events : List (Moment × Event)) : Engine :=
  events.foldl (fun e x => e.step x.1 x.2) e

end Engine

end Proctor

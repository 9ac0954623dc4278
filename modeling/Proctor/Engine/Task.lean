import Proctor.Engine.Group

/-!
# Tasks

A dispatched job is driven by a *task*. A task stands still at one of a few places
until something happens that it waits for; its phase says where it stands. It can be
asked to give up at any moment. Such a cancellation reaches the task at the place it
stands at, ahead of everything else it could go on with; only the end of something it
waits for under a time limit may come before it, and then the cancellation is lost.

A task that has come to its end stays, until the callbacks registered on it have run,
one after the other in the order of their registration.
-/

namespace Proctor

/-- Why no process could be started. -/
inductive Setback where
  /-- The program, or the working directory, does not exist. -/
  | missing
  /-- The system refuses, for a reason. -/
  | refused (reason : String)
  /-- The attempt itself goes wrong. -/
  | crashed (detail : String)
  deriving DecidableEq, Repr

/-- What comes of the attempt to start a process. -/
inductive Spawn where
  | started
  | failed (why : Setback)
  deriving DecidableEq, Repr

/-- Why the processes of a job are made to end. -/
inductive Cause where
  | timeout
  | cancellation
  /-- Something unexpected, in its own words. -/
  | fault (detail : String)
  deriving DecidableEq, Repr

/-- The cause that counts when a cancellation comes on top. What went wrong before
stays what went wrong. -/
def Cause.cancelled : Cause → Cause
  | .fault detail => .fault detail
  | .timeout | .cancellation => .cancellation

/-- How a task ended. -/
inductive Ending where
  /-- In good order: the job, unless it was stopped, has its outcome. -/
  | returned
  | cancelled
  | failed (detail : String)
  deriving DecidableEq, Repr

/-- Where a task stands. -/
inductive Phase where
  /-- It has not begun. -/
  | pending
  /-- The process has been started, and its outputs are being connected. -/
  | starting
  /-- The attempt was given up, for a cancellation or a setback; the first process has
  been killed, and its end is waited for. -/
  | dropping (why : Option Setback)
  /-- The outputs are read, and the end of the process is waited for, for as long as the
  test may take. -/
  | collecting
  /-- The reading is broken off. -/
  | breaking (cause : Cause)
  /-- The group has been asked to terminate, and the end of the first process is waited
  for, for as long as the group has for it. -/
  | terminating (cause : Cause)
  /-- The group has been killed, and the end of the first process is waited for. -/
  | killing (cause : Cause)
  /-- It is over. -/
  | ended (ending : Ending)
  deriving DecidableEq, Repr

/-- Is a task over that stands here? -/
def Phase.isOver : Phase → Bool
  | .ended _ => true
  | _ => false

/-- What is called when a task is over. -/
inductive Callback where
  /-- The engine's own: the job is taken out of the table and delivered. -/
  | own
  /-- That of somebody who waits, by the number of the wait. -/
  | wait (number : Nat)
  deriving DecidableEq, Repr

/-- The task of a dispatched job. -/
structure Task where
  phase : Phase := .pending
  /-- Has a cancellation been asked for that has not reached the task yet? -/
  cancelRequested : Bool := false
  /-- The callbacks that have not run yet, in the order of their registration. -/
  callbacks : List Callback := [.own]
  deriving DecidableEq, Repr

namespace Task

/-- The task of a job that has just been dispatched: the first callback on it is the
engine's own. -/
def fresh : Task := {}

/-- Is the task over? -/
def isOver (t : Task) : Bool := t.phase.isOver

/-- The task with a cancellation asked for. -/
def requestCancel (t : Task) : Task := { t with cancelRequested := true }

/-- The task after a cancellation has reached it. -/
def takeCancel (t : Task) : Task := { t with cancelRequested := false }

/-- The task in another phase. -/
def enter (t : Task) (phase : Phase) : Task := { t with phase }

/-- The task with one more callback. -/
def register (t : Task) (c : Callback) : Task := { t with callbacks := t.callbacks ++ [c] }

end Task

/-- What can happen to a task. -/
inductive TaskEvent where
  /-- The task begins and tries to start the process. -/
  | begin (spawn : Spawn)
  /-- The attempt to start the process comes to its end. -/
  | attached (spawn : Spawn)
  /-- A piece of output is read. -/
  | output (stream : Stream) (bytes : List UInt8)
  /-- The end of an output is read: nobody can write to it any more. -/
  | closed (stream : Stream)
  /-- The time for the test has run out. -/
  | timeUp
  /-- Reading goes wrong. -/
  | fault (detail : String)
  /-- The time for terminating has run out. -/
  | graceOver
  /-- The task goes on: what it has waited for is there. -/
  | resumed
  /-- A cancellation that was asked for reaches the task. -/
  | cancelled
  /-- The processes do something, whoever waits for them. -/
  | process (event : ProcessEvent)
  deriving DecidableEq, Repr

end Proctor

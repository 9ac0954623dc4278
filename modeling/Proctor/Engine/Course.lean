import Proctor.Engine

/-!
# Courses

An engine together with what has happened to each of its jobs. The past is no part of
the engine and decides nothing; it is kept so that what is said about a job can refer
to what has happened to it. Only what has really happened counts: a request that was
refused and an event that could not happen leave no trace.
-/

namespace Proctor

/-- What can have happened to a job. -/
inductive Incident where
  /-- It was dispatched. -/
  | dispatched
  /-- It was stopped while it was running. -/
  | stopped
  /-- Its task was cancelled from outside. -/
  | cancelAsked
  /-- Something happened to its task. -/
  | task (event : TaskEvent)
  /-- The engine's callback on its task has run. -/
  | settled
  deriving DecidableEq, Repr

namespace Engine.Event

/-- What an event means for a job, and for which one. -/
def incident? : Engine.Event → Option (Nat × Incident)
  | .run _ _ _ id => some (id, .dispatched)
  | .stop id => some (id, .stopped)
  | .cancel id => some (id, .cancelAsked)
  | .task id event => some (id, .task event)
  | .settle id => some (id, .settled)
  | .create .. | .wait _ | .resume _ | .wake _ => none

end Engine.Event

/-- An engine and its past, what has happened last in front. -/
structure Course where
  engine : Engine
  past : List (Nat × Incident) := []

namespace Course

/-- What has happened to a job, the last thing first. -/
def incidents (c : Course) (id : Nat) : List Incident :=
  c.past.filterMap fun x => if x.1 = id then some x.2 else none

/-- The course after an event. -/
def step (now : Moment) (c : Course) (event : Engine.Event) : Course :=
  match c.engine.step? now event with
  | some engine => ⟨engine, event.incident?.toList ++ c.past⟩
  | none => c

/-- The course after some events. -/
def play (c : Course) (events : List (Moment × Engine.Event)) : Course :=
  events.foldl (fun c x => c.step x.1 x.2) c

end Course

/-- The course that an engine without a past takes under some events. -/
def Engine.course (e : Engine) (events : List (Moment × Engine.Event)) : Course :=
  Course.play ⟨e, []⟩ events

end Proctor

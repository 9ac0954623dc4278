import Proctor.Engine

/-!
# What a dispatch does

A dispatch is a request that is served one step after the other. Here it is said step by step
what each of them changes, and from that what all of them come to: all checks, of the job, of
the loop and of the directory, come before the first change. So a dispatch that is refused
leaves the engine as it was, and one that is not refused makes all its changes.
-/

namespace Proctor.Engine

variable {e : Engine} {id : Nat} {a b : Attempt} {now : Moment}

/-- The engine with a job dispatched. -/
def dispatched (now : Moment) (e : Engine) (id : Nat) (j : Job) (directory : Path) : Engine :=
  { e.setAttempt id { job := j.asRunning directory now, task := some .fresh } with
      table := e.table ++ [id] }.say [dispatchRecord (j.asRunning directory now) directory]

theorem attempts_setAttempt (found : e.attempts[id]? = some a) (b : Attempt) :
    (e.setAttempt id b).attempts[id]? = some b := by
  have inside : id < e.attempts.length := (List.getElem?_eq_some_iff.mp found).1
  exact List.getElem?_set_self inside

/-- A step that is not refused hands over to the next one. -/
theorem serve_bind_of_ok {α β : Type} {r : Request α} {answer : α} {k : Engine}
    (served : e.serve r = (.ok answer, k)) (rest : α → Request β) :
    e.serve (r >>= rest) = k.serve (rest answer) := by
  rw [serve_bind, served]

namespace Request

theorem serve_attempt (found : e.attempts[id]? = some a) :
    e.serve (attempt id) = (.ok a, e) := by
  simp [attempt, found]

theorem serve_attempt_of_none (none_ : e.attempts[id]? = none) :
    e.serve (attempt id) = (.error .missingKey, e) := by
  simp [attempt, none_]

theorem serve_changeJob (found : e.attempts[id]? = some a) (c : Job.Change) :
    e.serve (changeJob id c) =
      ((a.job.perform c).1, e.setAttempt id { a with job := (a.job.perform c).2 }) := by
  simp [changeJob, serve_attempt found]

theorem serve_startTask (found : e.attempts[id]? = some a) :
    e.serve (startTask id) =
      (.ok (), e.setAttempt id { a with task := some { callbacks := [] }, group := none }) := by
  simp [startTask, serve_attempt found]

theorem serve_enlist (e : Engine) (id : Nat) :
    e.serve (enlist id) = (.ok (), { e with table := e.table ++ [id] }) := rfl

theorem serve_callWhenOver (found : e.attempts[id]? = some a) (c : Callback) :
    e.serve (callWhenOver id c) = (.ok (), e.setAttempt id (register c a)) := by
  simp [callWhenOver, serve_attempt found]

variable (tree : FileTree) (registry : Registry) (hasLoop : Bool)

theorem serve_dispatch_of_none (none_ : e.attempts[id]? = none) :
    e.serve (dispatch tree registry hasLoop now id) = (.error .missingKey, e) := by
  rw [dispatch, serve_bind, serve_attempt_of_none none_]

/-- Once its checks have passed, a dispatch is not refused any more. -/
theorem serve_proceed (found : e.attempts[id]? = some a) (created : a.job.state = .created)
    (directory : Path) :
    e.serve (proceed now id a.job directory) = (.ok (), e.dispatched now id a.job directory) := by
  have allowed : a.job.state.allows .running := by rw [created]; rfl
  let running : Attempt := { a with job := a.job.asRunning directory now }
  let started : Attempt := { running with task := some { callbacks := [] }, group := none }
  let e₁ := (e.setAttempt id running).say [dispatchRecord a.job directory]
  let e₂ := e₁.setAttempt id started
  have changed : e.serve (changeJob id (.running directory now)) =
      (.ok (), e.setAttempt id running) := by
    rw [serve_changeJob found, Job.perform_running, if_pos allowed]
  have found₁ : e₁.attempts[id]? = some running := attempts_setAttempt found running
  have found₂ : { e₂ with table := e₂.table ++ [id] }.attempts[id]? = some started :=
    attempts_setAttempt found₁ started
  rw [proceed, serve_bind_of_ok changed, serve_bind_of_ok (serve_modify _ _),
    serve_bind_of_ok (serve_startTask found₁), serve_bind_of_ok (serve_enlist e₂ id),
    serve_callWhenOver found₂]
  -- Only the last of the three writes to the attempt is seen.
  simp only [e₂, e₁, dispatched, setAttempt, say, List.set_set]
  rfl

/-- A dispatch either makes all its changes, or it is refused and changes nothing. -/
theorem serve_dispatch (found : e.attempts[id]? = some a) :
    e.serve (dispatch tree registry hasLoop now id) =
      if a.job.state ≠ .created then
        (.error (.illegalStep (.dispatched a.job.test.nameText a.job.state.name)), e)
      else if hasLoop = false then (.error .noLoop, e)
      else
        match WorkingDirectory.resolve tree registry e.config.directory a.job.test
          a.job.options.directory with
        | .error why => (.error why, e)
        | .ok directory => (.ok (), e.dispatched now id a.job directory) := by
  simp only [dispatch, serve_bind, serve_attempt found, serve_refuseIf, serve_get, serve_ofExcept]
  cases state : a.job.state with
  | running => rfl
  | completed => rfl
  | cancelled => rfl
  | created =>
    cases hasLoop with
    | false => rfl
    | true =>
      simp only [bne_self_eq_false, Bool.not_true, Bool.false_eq_true, if_false, ne_eq,
        not_true_eq_false]
      cases WorkingDirectory.resolve tree registry e.config.directory a.job.test
          a.job.options.directory with
      | error why => rfl
      | ok directory => exact serve_proceed found state directory

end Request

variable (tree : FileTree) (registry : Registry) (hasLoop : Bool)

theorem run_of_none (none_ : e.attempts[id]? = none) :
    e.run tree registry hasLoop now id = .error .missingKey := by
  rw [run, Request.serve_dispatch_of_none tree registry hasLoop none_]

theorem run_of_some (found : e.attempts[id]? = some a) :
    e.run tree registry hasLoop now id =
      if a.job.state ≠ .created then
        .error (.illegalStep (.dispatched a.job.test.nameText a.job.state.name))
      else if hasLoop = false then .error .noLoop
      else
        (WorkingDirectory.resolve tree registry e.config.directory a.job.test
          a.job.options.directory).map (e.dispatched now id a.job) := by
  rw [run, Request.serve_dispatch tree registry hasLoop found]
  by_cases created : a.job.state ≠ .created
  · simp only [if_pos created]
  cases hasLoop with
  | false => simp only [if_neg created, if_true]
  | true =>
    simp only [if_neg created, Bool.true_eq_false, if_false]
    cases WorkingDirectory.resolve tree registry e.config.directory a.job.test
        a.job.options.directory with
    | error why => rfl
    | ok directory => rfl

end Proctor.Engine

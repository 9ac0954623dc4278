import Mathlib.Tactic.ByContra
import Proctor.Proofs.Engine.Request

/-!
# What an event does to the engine

`Steps` lists what can happen to an engine, one rule for each event, with all that has
to be so for the event to have an effect. `Engine.step?` takes these steps and no
others.
-/

namespace Proctor.Engine

variable {now : Moment} {e : Engine}

theorem markCancelled_of_running {j : Job} (running : j.state = .running) :
    j.markCancelled now = .ok (j.asCancelled now) := by
  simp [Job.markCancelled, Job.changed, Job.perform_cancelled, running, JobState.allows]

/-- The steps of an engine. -/
inductive Steps (now : Moment) (e : Engine) : Event → Engine → Prop
  | create {command : List String} {test : TestInfo} {options : RunOptions} :
      Steps now e (.create command test options)
        { e with attempts := e.attempts ++ [{ job := { command, test, options } }] }
  | run {tree : FileTree} {registry : Registry} {hasLoop : Bool} {id : Nat} {a : Attempt}
      {directory : Path} (found : e.attempts[id]? = some a) (created : a.job.state = .created) :
      Steps now e (.run tree registry hasLoop id)
        ({ e.setAttempt id { job := a.job.asRunning directory now, task := some .fresh } with
            table := e.table ++ [id] }.say
          [dispatchRecord (a.job.asRunning directory now) directory])
  | stop {id : Nat} {a : Attempt} (found : e.attempts[id]? = some a)
      (running : a.job.state = .running) :
      Steps now e (.stop id)
        ((e.setAttempt id (stopped a (a.job.asCancelled now) (e.table.contains id))).say
          [stopRecord a.job])
  | cancel {id : Nat} {a : Attempt} {t : Task} (found : e.attempts[id]? = some a)
      (task : a.task = some t) (going : t.isOver = false) :
      Steps now e (.cancel id) (e.setAttempt id (requestCancel a))
  | wait {ids : List Nat} : Steps now e (.wait ids) (e.wait ids).1
  | resume {number : Nat} {w : Wait} (found : e.waits[number]? = some w)
      (ready : w.pending = []) :
      Steps now e (.resume number)
        { e with waits := e.waits.set number { w with returned := true } }
  | task {id : Nat} {event : TaskEvent} {a : Attempt} {turn : Attempt.Turn}
      (found : e.attempts[id]? = some a) (reacts : a.react? now e.config event = some turn) :
      Steps now e (.task id event) (e.take id turn)
  | settle {id : Nat} {a : Attempt} {t : Task} {ending : Ending} {rest : List Callback}
      (found : e.attempts[id]? = some a) (task : a.task = some t)
      (ended : t.phase = .ended ending) (next : t.callbacks = .own :: rest) :
      Steps now e (.settle id)
        (({ e with table := e.table.filter (· != id) }.take id
          ((withCallbacks a t rest).settle now ending)).deliver id
            ((withCallbacks a t rest).settle now ending).attempt.job)
  | wake {id number : Nat} {a : Attempt} {t : Task} {ending : Ending} {rest : List Callback}
      (found : e.attempts[id]? = some a) (task : a.task = some t)
      (ended : t.phase = .ended ending) (next : t.callbacks = .wait number :: rest) :
      Steps now e (.wake id)
        { e.setAttempt id (withCallbacks a t rest) with
          waits := e.waits.modify number fun w =>
            { w with pending := w.pending.filter (· != id) } }

theorem run_steps {tree : FileTree} {registry : Registry} {hasLoop : Bool} {id : Nat}
    {e' : Engine} (h : e.run tree registry hasLoop now id = .ok e') :
    Steps now e (.run tree registry hasLoop id) e' := by
  cases found : e.attempts[id]? with
  | none => simp [run_of_none tree registry hasLoop found] at h
  | some a =>
    rw [run_of_some tree registry hasLoop found] at h
    split at h
    case isTrue => cases h
    case isFalse hstate =>
      split at h
      case isTrue => cases h
      case isFalse =>
        cases hdir : WorkingDirectory.resolve tree registry e.config.directory a.job.test
            a.job.options.directory with
        | error why => simp [hdir, Except.map] at h
        | ok directory =>
          obtain rfl : e.dispatched now id a.job directory = e' := by
            simpa only [hdir, Except.map, Except.ok.injEq] using h
          exact .run found (by simpa using hstate)

/-- A job that is running is stopped. -/
theorem stop_of_running {id : Nat} {a : Attempt} (found : e.attempts[id]? = some a)
    (running : a.job.state = .running) :
    e.stop now id =
      ((e.setAttempt id (stopped a (a.job.asCancelled now) (e.table.contains id))).say
        [stopRecord a.job], true) := by
  have isRunning : a.job.isRunning = true := by simp [Job.isRunning, running]
  simp only [stop, found, isRunning, markCancelled_of_running running]

/-- Any other stop is refused, and changes nothing. -/
theorem stop_of_not_running {id : Nat}
    (idle : ∀ a, e.attempts[id]? = some a → a.job.state ≠ .running) :
    e.stop now id = (e, false) := by
  unfold stop
  cases found : e.attempts[id]? with
  | none => rfl
  | some a =>
      have isRunning : a.job.isRunning = false := by simpa [Job.isRunning] using idle a found
      simp only [isRunning]

/-- A stop is granted exactly when the job is running. -/
theorem stop_granted_iff {id : Nat} :
    (e.stop now id).2 = true ↔
      ∃ a, e.attempts[id]? = some a ∧ a.job.state = .running := by
  constructor
  · intro granted
    by_contra idle
    rw [stop_of_not_running fun a found running => idle ⟨a, found, running⟩] at granted
    cases granted
  · rintro ⟨a, found, running⟩
    rw [stop_of_running found running]

theorem stop_steps {id : Nat} (granted : (e.stop now id).2 = true) :
    Steps now e (.stop id) (e.stop now id).1 := by
  obtain ⟨a, found, running⟩ := stop_granted_iff.mp granted
  rw [stop_of_running found running]
  exact .stop found running

theorem cancel?_steps {id : Nat} {e' : Engine} (h : e.cancel? id = some e') :
    Steps now e (.cancel id) e' := by
  unfold cancel? task? at h
  cases found : e.attempts[id]? with
  | none => simp [found] at h
  | some a =>
      cases task : a.task with
      | none => simp [found, task] at h
      | some t =>
          cases going : t.isOver with
          | true => simp [found, task, going] at h
          | false =>
              simp only [found, task, going, Option.bind_some, Option.map_some,
                Bool.false_eq_true, if_false, Option.some.injEq] at h
              subst h
              exact .cancel found task going

theorem resume?_steps {number : Nat} {e' : Engine} (h : e.resume? number = some e') :
    Steps now e (.resume number) e' := by
  unfold resume? at h
  split at h
  case h_1 => cases h
  case h_2 w found =>
    split at h
    case isTrue ready =>
      cases h
      simp only [Bool.and_eq_true, List.isEmpty_iff] at ready
      exact .resume found ready.1
    case isFalse => cases h

theorem handle?_steps {id : Nat} {event : TaskEvent} {e' : Engine}
    (h : e.handle? now id event = some e') : Steps now e (.task id event) e' := by
  unfold handle? at h
  split at h
  case h_1 => cases h
  case h_2 a found =>
    obtain ⟨turn, reacts, rfl⟩ := Option.map_eq_some_iff.mp h
    exact .task found reacts

theorem settle?_steps {id : Nat} {e' : Engine} (h : e.settle? now id = some e') :
    Steps now e (.settle id) e' := by
  unfold settle? at h
  split at h
  case h_1 => cases h
  case h_2 a found =>
    split at h
    case h_1 => cases h
    case h_2 t task =>
      split at h
      case h_1 ended next =>
        cases h
        exact .settle found task ended next
      case h_2 => cases h

theorem wake?_steps {id : Nat} {e' : Engine} (h : e.wake? id = some e') :
    Steps now e (.wake id) e' := by
  unfold wake? at h
  split at h
  case h_1 => cases h
  case h_2 a found =>
    split at h
    case h_1 => cases h
    case h_2 t task =>
      split at h
      case h_1 ended next =>
        cases h
        exact .wake found task ended next
      case h_2 => cases h

/-- An engine takes no step but those of the list. -/
theorem steps_of_step? {event : Event} {e' : Engine} (h : e.step? now event = some e') :
    Steps now e event e' := by
  cases event with
  | create command test options =>
      cases h
      exact .create
  | run tree registry hasLoop id =>
      simp only [step?] at h
      cases hrun : e.run tree registry hasLoop now id with
      | error why => simp [hrun, Except.toOption] at h
      | ok e₁ =>
          simp only [hrun, Except.toOption, Option.some.injEq] at h
          subst h
          exact run_steps hrun
  | stop id =>
      simp only [step?] at h
      split at h
      case isTrue granted =>
        cases h
        exact stop_steps granted
      case isFalse => cases h
  | cancel id => exact cancel?_steps h
  | wait ids =>
      cases h
      exact .wait
  | resume number => exact resume?_steps h
  | task id event => exact handle?_steps h
  | settle id => exact settle?_steps h
  | wake id => exact wake?_steps h

end Proctor.Engine

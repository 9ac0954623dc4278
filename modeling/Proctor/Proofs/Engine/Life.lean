import Proctor.Engine.Course
import Proctor.Proofs.Engine.Reaction
import Proctor.Proofs.Engine.Step

/-!
# The life of an attempt

What happens to an engine happens to its attempts one by one. `Attempt.Changes` lists
what a single event can do to a single attempt, and `Attempt.Lived` collects the
attempts that a past can lead to. Every attempt of an engine that began without a past
has lived through the incidents that its course has kept for it; so what is proved by
induction on `Lived` holds in every reachable state, whatever happens to other jobs in
between.
-/

namespace Proctor

/-! ## Courses -/

/-- What an event means for one job. -/
def Engine.Event.incidentOf (event : Engine.Event) (id : Nat) : Option Incident :=
  event.incident?.bind fun x => if x.1 = id then some x.2 else none

namespace Course

variable {c : Course} {now : Moment} {event : Engine.Event} {id : Nat}

theorem step_of_some {e' : Engine} (h : c.engine.step? now event = some e') :
    c.step now event = ⟨e', event.incident?.toList ++ c.past⟩ := by
  simp only [step, h]

theorem step_of_none (h : c.engine.step? now event = none) : c.step now event = c := by
  simp only [step, h]

/-- What the steps of a course keep holds after all of them. -/
theorem play_induct {P : Course → Prop}
    (keeps : ∀ c now event e', P c → c.engine.Steps now event e' →
      P ⟨e', event.incident?.toList ++ c.past⟩)
    {c : Course} (start : P c) (events : List (Moment × Engine.Event)) : P (c.play events) := by
  induction events generalizing c with
  | nil => exact start
  | cons x rest ih =>
      refine ih (c := c.step x.1 x.2) ?_
      cases h : c.engine.step? x.1 x.2 with
      | none => rwa [step_of_none h]
      | some e' =>
          rw [step_of_some h]
          exact keeps c x.1 x.2 e' start (Engine.steps_of_step? h)

/-- The past decides nothing: a course shows the engine as it is without one. -/
theorem engine_play (c : Course) (events : List (Moment × Engine.Event)) :
    (c.play events).engine = c.engine.play events := by
  induction events generalizing c with
  | nil => rfl
  | cons x rest ih =>
      have head : (c.step x.1 x.2).engine = c.engine.step x.1 x.2 := by
        unfold step Engine.step
        cases c.engine.step? x.1 x.2 <;> rfl
      exact (ih _).trans (congrArg (·.play rest) head)

theorem incidents_step (c : Course) (e' : Engine) (event : Engine.Event) (id : Nat) :
    incidents ⟨e', event.incident?.toList ++ c.past⟩ id =
      (event.incidentOf id).toList ++ c.incidents id := by
  unfold incidents Engine.Event.incidentOf
  cases event.incident? with
  | none => rfl
  | some x =>
      by_cases h : x.1 = id <;> simp [h]

end Course

/-! ## Requests -/

theorem Task.isOver_iff {t : Task} : t.isOver ↔ ∃ ending, t.phase = .ended ending := by
  unfold isOver Phase.isOver
  cases t.phase <;> simp

/-- Where the task of an attempt stands. -/
def Attempt.phase? (a : Attempt) : Option Phase := a.task.map Task.phase

theorem Attempt.phase?_of_task {a : Attempt} {t : Task} (task : a.task = some t) :
    a.phase? = some t.phase := by
  simp [phase?, task]

/-- The engine's callback leaves the task and the processes alone. -/
@[simp] theorem Attempt.settle_task (now : Moment) (a : Attempt) (ending : Ending) :
    (a.settle now ending).attempt.task = a.task := by
  cases ending <;> rfl

@[simp] theorem Attempt.settle_group (now : Moment) (a : Attempt) (ending : Ending) :
    (a.settle now ending).attempt.group = a.group := by
  cases ending <;> rfl

namespace Engine

section Requests

variable {a : Attempt} {t : Task}

@[simp] theorem stopped_job (a : Attempt) (j : Job) (listed : Bool) :
    (stopped a j listed).job = j := by
  cases listed <;> rfl

@[simp] theorem stopped_group (a : Attempt) (j : Job) (listed : Bool) :
    (stopped a j listed).group = a.group := by
  cases listed <;> rfl

/-- Asking for a cancellation does not move the task. -/
theorem requestCancel_task (task : a.task = some t) :
    ∃ u, (requestCancel a).task = some u ∧ u.phase = t.phase ∧ u.callbacks = t.callbacks := by
  refine ⟨if t.isOver then t else t.requestCancel, by simp [requestCancel, task], ?_⟩
  split <;> exact ⟨rfl, rfl⟩

/-- Neither does stopping the job. -/
theorem stopped_task (j : Job) (listed : Bool) (task : a.task = some t) :
    ∃ u, (stopped a j listed).task = some u ∧ u.phase = t.phase ∧
      u.callbacks = t.callbacks := by
  cases listed with
  | false => exact ⟨t, task, rfl, rfl⟩
  | true => exact requestCancel_task (a := { a with job := j }) task

@[simp] theorem requestCancel_phase? (a : Attempt) : (requestCancel a).phase? = a.phase? := by
  cases task : a.task with
  | none => simp [Attempt.phase?, requestCancel, task]
  | some t =>
      obtain ⟨u, task', phase, -⟩ := requestCancel_task task
      rw [Attempt.phase?_of_task task, Attempt.phase?_of_task task', phase]

@[simp] theorem stopped_phase? (a : Attempt) (j : Job) (listed : Bool) :
    (stopped a j listed).phase? = a.phase? := by
  cases listed with
  | false => rfl
  | true => exact requestCancel_phase? { a with job := j }

@[simp] theorem register_phase? (c : Callback) (a : Attempt) :
    (register c a).phase? = a.phase? := by
  cases task : a.task <;> simp [Attempt.phase?, register, task, Task.register]

theorem withCallbacks_phase? {rest : List Callback} (task : a.task = some t) :
    (withCallbacks a t rest).phase? = a.phase? := by
  simp [Attempt.phase?, withCallbacks, task]

end Requests

end Engine

/-! ## Attempts -/

@[simp] theorem Job.completeOpen_test (j : Job) (o : Outcome) (now : Moment) :
    (j.completeOpen o now).test = j.test := by
  unfold completeOpen
  split
  · rfl
  · rw [perform_completed]
    split <;> rfl

@[simp] theorem Job.cancelOpen_test (j : Job) (now : Moment) :
    (j.cancelOpen now).test = j.test := by
  unfold cancelOpen
  split
  · rfl
  · rw [perform_cancelled]
    split <;> rfl

namespace Attempt

/-- What one event can do to an attempt, and the incident it is for the job, if it is
one. -/
inductive Changes (now : Moment) (config : Config) (a : Attempt) :
    Option Incident → Attempt → Prop
  | dispatched {directory : Path} (created : a.job.state = .created) :
      Changes now config a (some .dispatched)
        { job := a.job.asRunning directory now, task := some .fresh }
  | stopped {listed : Bool} (running : a.job.state = .running) :
      Changes now config a (some .stopped)
        (Engine.stopped a (a.job.asCancelled now) listed)
  | cancelAsked {t : Task} (task : a.task = some t) (going : t.isOver = false) :
      Changes now config a (some .cancelAsked) (Engine.requestCancel a)
  | task {event : TaskEvent} {b : Attempt} (reacts : a.Reacts now config event b) :
      Changes now config a (some (.task event)) b
  | settled {t : Task} {ending : Ending} {rest : List Callback} (task : a.task = some t)
      (ended : t.phase = .ended ending) (next : t.callbacks = .own :: rest) :
      Changes now config a (some .settled)
        ((Engine.withCallbacks a t rest).settle now ending).attempt
  | registered {number : Nat} :
      Changes now config a none (Engine.register (.wait number) a)
  | woken {t : Task} {ending : Ending} {number : Nat} {rest : List Callback}
      (task : a.task = some t) (ended : t.phase = .ended ending)
      (next : t.callbacks = .wait number :: rest) :
      Changes now config a none (Engine.withCallbacks a t rest)
  | untouched : Changes now config a none a

variable {now : Moment} {config : Config} {a b : Attempt} {incident : Option Incident}

/-- A job that has its outcome keeps it. -/
theorem Changes.job_of_terminal (h : a.Changes now config incident b)
    (terminal : a.job.isTerminal) : b.job = a.job := by
  cases h with
  | dispatched created => exact absurd created (Job.left_of_terminal terminal)
  | stopped running => exact absurd terminal (Job.not_isTerminal_of_running running)
  | task reacts =>
      obtain ⟨-, job⟩ | ⟨t, -, -, leads⟩ := reacts.leads
      · exact job
      · cases leads with
        | onward _ _ _ _ job => exact job
        | returned _ _ _ _ job => rw [job, Job.completeOpen_of_terminal terminal]
  | @settled t ending =>
      cases ending with
      | returned => rfl
      | cancelled => exact Job.cancelOpen_of_terminal terminal now
      | failed detail => exact Job.completeOpen_of_terminal terminal _ now
  | cancelAsked | registered | woken | untouched => rfl

/-- A job is about the same test as long as it lives. -/
theorem Changes.test_eq (h : a.Changes now config incident b) : b.job.test = a.job.test := by
  cases h with
  | dispatched => rfl
  | stopped =>
      rw [Engine.stopped_job]
      rfl
  | task reacts =>
      obtain ⟨-, job⟩ | ⟨t, -, -, leads⟩ := reacts.leads
      · rw [job]
      · cases leads with
        | onward _ _ _ _ job => rw [job]
        | returned _ _ _ _ job => rw [job, Job.completeOpen_test]
  | @settled t ending =>
      cases ending with
      | returned => rfl
      | cancelled => exact Job.cancelOpen_test ..
      | failed detail => exact Job.completeOpen_test ..
  | cancelAsked | registered | woken | untouched => rfl

/-- The engine's callback gives the job an outcome, if its task has not done so. -/
theorem settle_terminal {ending : Ending} (left : a.job.state ≠ .created)
    (returned : ending = .returned → a.job.isTerminal) :
    (a.settle now ending).attempt.job.isTerminal := by
  cases ending with
  | returned => exact returned rfl
  | cancelled => exact Job.isTerminal_cancelOpen left now
  | failed detail => exact Job.isTerminal_completeOpen left _ now

/-- What is no incident for a job leaves its record alone. -/
theorem Changes.job_of_none (h : a.Changes now config none b) : b.job = a.job := by
  cases h <;> rfl

/-- What happens to a job is its dispatch, or it happens to the task, or it leaves the
task where it stands, and the processes alone. -/
theorem Changes.cases_task (h : a.Changes now config incident b) :
    (∃ directory, incident = some .dispatched ∧ a.job.state = .created ∧
      b = { job := a.job.asRunning directory now, task := some .fresh }) ∨
    (∃ event, incident = some (.task event) ∧ a.Reacts now config event b) ∨
    ((∀ event, incident ≠ some (.task event)) ∧ b.phase? = a.phase? ∧ b.group = a.group) := by
  cases h with
  | dispatched created => exact .inl ⟨_, rfl, created, rfl⟩
  | task reacts => exact .inr (.inl ⟨_, rfl, reacts⟩)
  | stopped =>
      exact .inr (.inr ⟨by simp, Engine.stopped_phase? .., Engine.stopped_group ..⟩)
  | cancelAsked => exact .inr (.inr ⟨by simp, Engine.requestCancel_phase? a, rfl⟩)
  | settled task =>
      refine .inr (.inr ⟨by simp, ?_, settle_group ..⟩)
      rw [phase?, settle_task]
      exact Engine.withCallbacks_phase? task
  | registered => exact .inr (.inr ⟨by simp, Engine.register_phase? _ a, rfl⟩)
  | woken task => exact .inr (.inr ⟨by simp, Engine.withCallbacks_phase? task, rfl⟩)
  | untouched => exact .inr (.inr ⟨by simp, rfl, rfl⟩)

/-- The attempts that a past can lead to. -/
inductive Lived (config : Config) : List Incident → Attempt → Prop
  | created {command : List String} {test : TestInfo} {options : RunOptions} :
      Lived config [] { job := { command, test, options } }
  | changed {now : Moment} {past : List Incident} {a b : Attempt} {incident : Option Incident}
      (lived : Lived config past a) (change : a.Changes now config incident b) :
      Lived config (incident.toList ++ past) b

/-- What is known of an attempt by the stage its job has got to. -/
inductive Stage (past : List Incident) (a : Attempt) : Prop
  | idle (task : a.task = none) (group : a.group = none) (created : a.job.state = .created)
      (quiet : past = [])
  | listed {t : Task} {rest : List Callback} (task : a.task = some t)
      (left : a.job.state ≠ .created) (dispatched : .dispatched ∈ past)
      (unsettled : .settled ∉ past) (callbacks : t.callbacks = .own :: rest)
      (once : .own ∉ rest) (returned : t.phase = .ended .returned → a.job.isTerminal)
  | delivered {t : Task} (task : a.task = some t) (ended : t.isOver)
      (dispatched : .dispatched ∈ past) (settled : past.count .settled = 1)
      (callbacks : .own ∉ t.callbacks) (terminal : a.job.isTerminal)

/-- Nothing happens to a job that has not been dispatched, but its dispatch. -/
theorem Changes.of_idle {incident : Option Incident} (h : a.Changes now config incident b)
    (task : a.task = none) (group : a.group = none) (created : a.job.state = .created) :
    (incident = none ∧ b = a) ∨
      ∃ directory, incident = some .dispatched ∧
        b = { job := a.job.asRunning directory now, task := some .fresh } := by
  cases h with
  | dispatched => exact .inr ⟨_, rfl, rfl⟩
  | stopped running => simp [created] at running
  | cancelAsked some_task | settled some_task | woken some_task =>
      simp [task] at some_task
  | task reacts =>
      cases reacts with
      | process some_group => simp [group] at some_group
      | _ => simp_all
  | registered =>
      refine .inl ⟨rfl, ?_⟩
      obtain ⟨job, _, _⟩ := a
      subst task
      rfl
  | untouched => exact .inl ⟨rfl, rfl⟩

/-- Every stage stays or gives way to the next one. -/
theorem Stage.changes {incident : Option Incident} (stage : Stage past a)
    (change : a.Changes now config incident b) : Stage (incident.toList ++ past) b := by
  cases stage with
  | idle task group created quiet =>
      obtain ⟨rfl, rfl⟩ | ⟨directory, rfl, rfl⟩ := change.of_idle task group created
      · exact .idle task group created quiet
      · subst quiet
        exact .listed rfl nofun (by simp) (by simp) rfl (by simp) nofun
  | @listed t rest task left dispatched unsettled callbacks once returned =>
      cases change with
      | dispatched created => exact absurd created left
      | @stopped listed running =>
          obtain ⟨u, task', phase, same⟩ :=
            Engine.stopped_task (a.job.asCancelled now) listed task
          exact .listed task' (by simp [Job.asCancelled]) (by simp [dispatched])
            (by simp [unsettled]) (same.trans callbacks) once (fun _ => by simp; rfl)
      | cancelAsked _ going =>
          obtain ⟨u, task', phase, same⟩ := Engine.requestCancel_task task
          exact .listed task' left (by simp [dispatched]) (by simp [unsettled])
            (same.trans callbacks) once (fun h => returned (phase ▸ h))
      | task reacts =>
          obtain ⟨task', job⟩ | ⟨t', task', -, leads⟩ := reacts.leads
          · exact .listed (task'.trans task) (job ▸ left) (by simp [dispatched])
              (by simp [unsettled]) callbacks once (job ▸ returned)
          · obtain rfl : t' = t := Option.some.inj (task'.symm.trans task)
            cases leads with
            | onward task' same _ open_ job =>
                exact .listed task' (job ▸ left) (by simp [dispatched]) (by simp [unsettled])
                  (same.trans callbacks) once (fun h => absurd h open_)
            | @returned _ o task' same _ _ job =>
                have terminal : b.job.isTerminal := job ▸ Job.isTerminal_completeOpen left o now
                exact .listed task' (Job.left_of_terminal terminal) (by simp [dispatched])
                  (by simp [unsettled]) (same.trans callbacks) once (fun _ => terminal)
      | @settled t' ending rest' task' ended next =>
          obtain rfl : t' = t := Option.some.inj (task'.symm.trans task)
          obtain ⟨-, rfl⟩ := List.cons.inj (next.symm.trans callbacks)
          refine .delivered (settle_task ..) (Task.isOver_iff.mpr ⟨ending, ended⟩)
            (by simp [dispatched]) ?_ once (settle_terminal left fun h => returned (h ▸ ended))
          simp [List.count_eq_zero.mpr unsettled]
      | @registered number =>
          exact .listed (t := t.register (.wait number)) (by simp [Engine.register, task]) left
            dispatched unsettled (by simp [Task.register, callbacks]; rfl) (by simp [once]) returned
      | woken task' _ next =>
          obtain rfl := Option.some.inj (task'.symm.trans task)
          simp [callbacks] at next
      | untouched => exact .listed task left dispatched unsettled callbacks once returned
  | @delivered t task ended dispatched settled callbacks terminal =>
      cases change with
      | dispatched created => exact absurd created (Job.left_of_terminal terminal)
      | stopped running => exact absurd terminal (Job.not_isTerminal_of_running running)
      | cancelAsked task' going =>
          obtain rfl := Option.some.inj (task'.symm.trans task)
          simp [ended] at going
      | task reacts =>
          obtain ⟨task', job⟩ | ⟨t', task', going, -⟩ := reacts.leads
          · exact .delivered (task'.trans task) ended (by simp [dispatched])
              (by simpa using settled) callbacks (job ▸ terminal)
          · obtain rfl := Option.some.inj (task'.symm.trans task)
            simp [ended] at going
      | settled task' _ next =>
          obtain rfl := Option.some.inj (task'.symm.trans task)
          simp [next] at callbacks
      | @registered number =>
          exact .delivered (t := t.register (.wait number)) (by simp [Engine.register, task])
            ended dispatched settled (by simp [Task.register, callbacks]) terminal
      | @woken _ _ _ rest task' _ next =>
          obtain rfl := Option.some.inj (task'.symm.trans task)
          exact .delivered rfl ended dispatched settled
            (fun h => callbacks (by simp [next, h])) terminal
      | untouched => exact .delivered task ended dispatched settled callbacks terminal

theorem Lived.stage (lived : Lived config past a) : Stage past a := by
  induction lived with
  | created => exact .idle rfl rfl rfl rfl
  | changed _ change ih => exact ih.changes change

/-- A job on which the engine's callback can run was dispatched and not yet delivered. -/
theorem Stage.of_own {t : Task} {rest : List Callback} (stage : Stage past a)
    (task : a.task = some t) (next : t.callbacks = .own :: rest) :
    .dispatched ∈ past ∧ .settled ∉ past ∧ a.job.state ≠ .created ∧
      (t.phase = .ended .returned → a.job.isTerminal) := by
  cases stage with
  | idle task' => simp [task] at task'
  | listed task' left dispatched unsettled _ _ returned =>
      obtain rfl := Option.some.inj (task'.symm.trans task)
      exact ⟨dispatched, unsettled, left, returned⟩
  | delivered task' _ _ _ callbacks =>
      obtain rfl := Option.some.inj (task'.symm.trans task)
      simp [next] at callbacks

/-- The callback of somebody who waits runs after the engine's own. -/
theorem Stage.of_wait {t : Task} {number : Nat} {rest : List Callback} (stage : Stage past a)
    (task : a.task = some t) (next : t.callbacks = .wait number :: rest) :
    .settled ∈ past := by
  cases stage with
  | idle task' => simp [task] at task'
  | listed task' _ _ _ callbacks =>
      obtain rfl := Option.some.inj (task'.symm.trans task)
      simp [next] at callbacks
  | delivered _ _ _ settled => exact List.count_pos_iff.mp (by omega)

/-- Nothing has happened to a job that can be dispatched. -/
theorem Stage.of_created (stage : Stage past a) (created : a.job.state = .created) :
    a.task = none ∧ a.group = none ∧ past = [] := by
  cases stage with
  | idle task group _ quiet => exact ⟨task, group, quiet⟩
  | listed _ left => exact absurd created left
  | delivered _ _ _ _ _ terminal => exact absurd created (Job.left_of_terminal terminal)

/-- A job that has no outcome yet had none before, and only a dispatch has written to it. -/
theorem Changes.of_open {past : List Incident} {incident : Option Incident}
    (change : a.Changes now config incident b) (lived : Lived config past a)
    (open_ : ¬ b.job.isTerminal) :
    ¬ a.job.isTerminal ∧
      (b.job = a.job ∨ ∃ directory, b.job = a.job.asRunning directory now) := by
  refine ⟨fun terminal => open_ (change.job_of_terminal terminal ▸ terminal), ?_⟩
  cases change with
  | dispatched => exact .inr ⟨_, rfl⟩
  | cancelAsked | registered | woken | untouched => exact .inl rfl
  | stopped => exact absurd (by simp; rfl) open_
  | task reacts =>
      obtain ⟨-, job⟩ | ⟨t, task, -, leads⟩ := reacts.leads
      · exact .inl job
      · cases leads with
        | onward _ _ _ _ job => exact .inl job
        | returned _ _ _ _ job =>
            have left : a.job.state ≠ .created := by
              intro created
              simp [(lived.stage.of_created created).1] at task
            exact absurd (job ▸ Job.isTerminal_completeOpen left _ now) open_
  | settled task ended next =>
      obtain ⟨-, -, left, returned⟩ := lived.stage.of_own task next
      exact absurd (settle_terminal (a := Engine.withCallbacks a _ _) left
        fun h => returned (h ▸ ended)) open_

end Attempt

namespace Engine
variable {now : Moment} {e e' : Engine} {event : Event} {id : Nat} {a : Attempt}

/-- A change of one attempt leaves the others as they are. -/
theorem changes_set {config : Config} {attempts : List Attempt} {place : Nat} {b c : Attempt}
    {incident : Option Incident} (changed : attempts[place]? = some b)
    (found : attempts[id]? = some a) (change : b.Changes now config incident c) :
    ∃ d, (attempts.set place c)[id]? = some d ∧
      a.Changes now config (if place = id then incident else none) d := by
  by_cases same : place = id
  · subst same
    obtain rfl : b = a := Option.some.inj (changed.symm.trans found)
    have inside : place < attempts.length := (List.getElem?_eq_some_iff.mp found).1
    exact ⟨c, List.getElem?_set_self inside, by simpa using change⟩
  · exact ⟨a, by rw [List.getElem?_set_ne same, found], by simpa [same] using .untouched⟩

/-- What happens to an engine happens to each of its attempts. -/
theorem Steps.changes (step : e.Steps now event e') (found : e.attempts[id]? = some a) :
    ∃ b, e'.attempts[id]? = some b ∧ a.Changes now e.config (event.incidentOf id) b := by
  cases step with
  | create =>
      have inside : id < e.attempts.length := (List.getElem?_eq_some_iff.mp found).1
      exact ⟨a, by rw [List.getElem?_append_left inside, found], .untouched⟩
  | run at_ created => exact changes_set at_ found (.dispatched created)
  | stop at_ running => exact changes_set at_ found (.stopped running)
  | cancel at_ task going => exact changes_set at_ found (.cancelAsked task going)
  | @wait ids =>
      simp only [Engine.wait, List.getElem?_mapIdx, found, Option.map_some, Option.some.injEq,
        exists_eq_left']
      split
      · exact .registered
      · exact .untouched
  | resume => exact ⟨a, found, .untouched⟩
  | task at_ reacts => exact changes_set at_ found (.task (Attempt.reacts_of_react? reacts))
  | settle at_ task ended next => exact changes_set at_ found (.settled task ended next)
  | wake at_ task ended next =>
      obtain ⟨b, at_', change⟩ := changes_set at_ found (.woken task ended next)
      exact ⟨b, at_', by simpa [Event.incidentOf, Event.incident?] using change⟩

/-- No event takes an attempt away or changes the configuration. -/
theorem Steps.config_eq (step : e.Steps now event e') : e'.config = e.config := by
  cases step <;> rfl

/-- A number without an attempt has no part in an event. -/
theorem Steps.silent (step : e.Steps now event e') (missing : e.attempts[id]? = none) :
    event.incidentOf id = none := by
  have elsewhere {place : Nat} {b : Attempt} (found : e.attempts[place]? = some b) :
      place ≠ id := by
    rintro rfl
    simp [missing] at found
  cases step with
  | run found | stop found | cancel found | task found | settle found =>
      simp [Event.incidentOf, Event.incident?, elsewhere found]
  | create | wait | resume | wake => rfl

/-- Only a creation adds to the attempts. -/
theorem Steps.length_eq (step : e.Steps now event e') :
    e'.attempts.length = e.attempts.length ∨
      ∃ command test options,
        e'.attempts = e.attempts ++ [{ job := { command, test, options } }] := by
  cases step with
  | create => exact .inr ⟨_, _, _, rfl⟩
  | _ => exact .inl (by simp [setAttempt, say, take, deliver, Engine.wait])

/-- An attempt that was not there before has just been created. -/
theorem Steps.created (step : e.Steps now event e') (missing : e.attempts[id]? = none)
    (found : e'.attempts[id]? = some a) :
    ∃ command test options, a = { job := { command, test, options } } := by
  have outside : e.attempts.length ≤ id := List.getElem?_eq_none_iff.mp missing
  have inside : id < e'.attempts.length := (List.getElem?_eq_some_iff.mp found).1
  obtain same | ⟨command, test, options, grown⟩ := step.length_eq
  · omega
  · rw [grown, List.getElem?_append_right outside, List.getElem?_singleton] at found
    refine ⟨command, test, options, ?_⟩
    split at found
    · exact (Option.some.inj found).symm
    · cases found

/-- No event takes an attempt away. -/
theorem Steps.missing_of_missing (step : e.Steps now event e')
    (missing : e'.attempts[id]? = none) : e.attempts[id]? = none := by
  cases found : e.attempts[id]? with
  | none => rfl
  | some a =>
      obtain ⟨b, found', -⟩ := step.changes found
      simp [found'] at missing

end Engine

namespace Course

variable {config : Config} {width : Nat}
  {sinks : String → Nat → Except Error (Job → Report)} {events : List (Moment × Engine.Event)}

/-- What is kept for every attempt of a course: it has lived through its incidents, and a
number without an attempt has none. -/
structure Faithful (config : Config) (c : Course) : Prop where
  config_eq : c.engine.config = config
  lived : ∀ id (a : Attempt), c.engine.attempts[id]? = some a →
    a.Lived config (c.incidents id)
  empty : ∀ id, c.engine.attempts[id]? = none → c.incidents id = []

theorem Faithful.step {c : Course} {e' : Engine} {now : Moment} {event : Engine.Event}
    (faithful : Faithful config c) (step : c.engine.Steps now event e') :
    Faithful config ⟨e', event.incident?.toList ++ c.past⟩ := by
  refine ⟨step.config_eq.trans faithful.config_eq, fun id a found => ?_, fun id missing => ?_⟩
  · rw [incidents_step]
    cases before : c.engine.attempts[id]? with
    | none =>
        obtain ⟨command, test, options, rfl⟩ := step.created before found
        rw [step.silent before, faithful.empty id before]
        exact .created
    | some b =>
        obtain ⟨d, found', change⟩ := step.changes before
        obtain rfl : d = a := Option.some.inj (found'.symm.trans found)
        rw [faithful.config_eq] at change
        exact .changed (faithful.lived id b before) change
  · have before := step.missing_of_missing missing
    rw [incidents_step, step.silent before, faithful.empty id before]
    rfl

theorem Faithful.start (config : Config) (width : Nat)
    (sinks : String → Nat → Except Error (Job → Report)) :
    Faithful config ⟨Engine.fresh config width sinks, []⟩ where
  config_eq := rfl
  lived id a found := by simp [Engine.fresh] at found
  empty id _ := rfl

theorem Faithful.play {c : Course} (faithful : Faithful config c)
    (events : List (Moment × Engine.Event)) : Faithful config (c.play events) :=
  play_induct (fun _ _ _ _ kept step => kept.step step) faithful events

/-- Every attempt has lived through what its course has kept for it. -/
theorem faithful (config : Config) (width : Nat)
    (sinks : String → Nat → Except Error (Job → Report))
    (events : List (Moment × Engine.Event)) :
    Faithful config ((Engine.fresh config width sinks).course events) :=
  (Faithful.start config width sinks).play events

end Course

end Proctor

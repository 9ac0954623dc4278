import Proctor.Proofs.Engine.Delivery
import Proctor.Proofs.Engine.Past

/-!
# The first outcome counts

What has happened to a job decides how it is recorded: `Decided` lists the rules, each of
which applies only where those above it do not. The invariant `Attempt.Standing` says
where the task of a job that was not stopped can stand, once something is decided, and
that the record follows the decision as soon as the job has its outcome.

A stop may come at any moment: before the task begins, while the process is started,
after the process has ended and before the task goes on, or while the processes of a job
whose time ran out are made to end. All of these are steps of `Attempt.Reacts`, and the
invariant passes through every one of them.
-/

namespace Proctor

/-- What can be decided about a job. -/
inductive Decision where
  | stopped
  /-- Its process could not be started. -/
  | notStarted (why : Setback)
  | timedOut
  | exited (code : Int)
  /-- Reading its outputs went wrong. -/
  | failed (detail : String)
  /-- Its task was cancelled, but nobody stopped the job. -/
  | revoked
  deriving DecidableEq, Repr

open Incident in
/-- What a past decides about a job. A stop counts before all else, then that no process
could be started, then that the time ran out, then that the process ended by itself and all
it wrote was read; then whatever went wrong. Only somebody who cancels the task from
outside can come between. -/
inductive Decided (past : List Incident) : Decision → Prop
  | stopped (stopped : .stopped ∈ past) : Decided past .stopped
  | notStarted {why : Setback} (unstopped : .stopped ∉ past) (setback : why ∈ setbacks past) :
      Decided past (.notStarted why)
  | timedOut (unstopped : .stopped ∉ past) (started : setbacks past = [])
      (timeUp : .task .timeUp ∈ past) : Decided past .timedOut
  | exited {code : Int} (unstopped : .stopped ∉ past) (started : setbacks past = [])
      (inTime : .task .timeUp ∉ past) (ended : code ∈ exitCodes past) (read : ReadToEnd past) :
      Decided past (.exited code)
  | failed {detail : String} (unstopped : .stopped ∉ past) (started : setbacks past = [])
      (inTime : .task .timeUp ∉ past) (unread : ¬ ReadToEnd past)
      (fault : detail ∈ faults past) : Decided past (.failed detail)
  | revoked (unstopped : .stopped ∉ past) (asked : .cancelAsked ∈ past) : Decided past .revoked

/-- What is said about a setback. -/
def Setback.message (j : Job) : Setback → String
  | .missing => Attempt.missingMessage j
  | .refused reason => Attempt.refusedMessage j reason
  | .crashed detail => Attempt.faultMessage detail

namespace Job

/-- What a record says about how the job ended. -/
structure Says (j : Job) (state : JobState) (exitCode : Int) (timedOut : Bool)
    (errorMessage : Option String) : Prop where
  state : j.state = state
  exitCode : j.exitCode = .int exitCode
  timedOut : j.timedOut = timedOut
  errorMessage : j.errorMessage = errorMessage

/-- The record follows the decision. -/
def Follows (config : Config) (j : Job) : Decision → Prop
  | .stopped | .revoked => j.Says .cancelled (-1) false none
  | .notStarted why => j.Says .completed 127 false (some (why.message j))
  | .timedOut =>
    j.Says .completed 124 true (some (Attempt.timeoutMessage (Attempt.timeoutFor config j)))
  | .exited code => j.Says .completed code false none
  | .failed detail => j.Says .completed 127 false (some ("Internal error: " ++ detail))

end Job

namespace Incident

/-- Does an incident leave open what it could decide? Processes may end at any time, so
that an end alone decides nothing. -/
def isIdle : Incident → Bool
  | .task (.begin (.failed _)) | .task (.attached (.failed _)) | .task .timeUp
  | .task (.fault _) | .task (.closed _) | .stopped => false
  | _ => true

variable {past : List Incident} {x : Incident}

theorem setbacks_cons (idle : x.isIdle) : setbacks (x :: past) = setbacks past := by
  have none_ : setbacks [x] = [] := by
    unfold isIdle at idle
    split at idle <;> simp_all [setbacks]
  exact (setbacks_append [x] past).trans (by rw [none_, List.nil_append])

theorem faults_cons (idle : x.isIdle) : faults (x :: past) = faults past := by
  have none_ : faults [x] = [] := by
    unfold isIdle at idle
    split at idle <;> simp_all [faults]
  exact (faults_append [x] past).trans (by rw [none_, List.nil_append])

theorem readToEnd_cons (idle : x.isIdle) : ReadToEnd (x :: past) ↔ ReadToEnd past := by
  refine forall_congr' fun stream => ?_
  rw [List.mem_cons, or_iff_right]
  rintro rfl
  cases idle

end Incident

/-- What is decided stays decided. -/
theorem Decided.cons {past : List Incident} {x : Incident} {d : Decision}
    (decided : Decided past d) (idle : x.isIdle) : Decided (x :: past) d := by
  have other {y : Incident} (busy : y.isIdle = false) : y ≠ x := by
    rintro rfl
    simp [busy] at idle
  have setbacks : Incident.setbacks (x :: past) = Incident.setbacks past :=
    Incident.setbacks_cons idle
  have unstopped (h : .stopped ∉ past) : .stopped ∉ x :: past := by
    simp [h, other (y := .stopped) rfl]
  have inTime (h : .task .timeUp ∉ past) : .task .timeUp ∉ x :: past := by
    simp [h, other (y := .task .timeUp) rfl]
  cases decided with
  | stopped h => exact .stopped (List.mem_cons_of_mem x h)
  | notStarted h setback =>
      exact .notStarted (unstopped h) (by rwa [setbacks])
  | timedOut h started timeUp =>
      exact .timedOut (unstopped h) (setbacks.trans started)
        (List.mem_cons_of_mem x timeUp)
  | exited h started h' ended read =>
      refine .exited (unstopped h) (setbacks.trans started) (inTime h') ?_
        ((Incident.readToEnd_cons idle).mpr read)
      rw [show x :: past = [x] ++ past from rfl, Incident.exitCodes_append]
      exact List.mem_append_right _ ended
  | failed h started h' unread fault =>
      exact .failed (unstopped h) (setbacks.trans started) (inTime h')
        (mt (Incident.readToEnd_cons idle).mp unread) (by rwa [Incident.faults_cons idle])
  | revoked h asked => exact .revoked (unstopped h) (List.mem_cons_of_mem x asked)

/-- What is decided by the cause for which the processes of a job are made to end. -/
def Cause.decision : Cause → Decision
  | .timeout => .timedOut
  | .cancellation => .revoked
  | .fault detail => .failed detail

/-- What is decided by giving up an attempt to start a process. -/
def Decision.ofSetback : Option Setback → Decision
  | some why => .notStarted why
  | none => .revoked

namespace Attempt

variable {now : Moment} {config : Config} {past : List Incident} {a b : Attempt} {t : Task}

/-- The ways for a task to end on which a decision can still be missing from the record. -/
inductive LeavesOpen : Ending → Decision → Prop
  | cancelled : LeavesOpen .cancelled .revoked
  | crashed {detail : String} : LeavesOpen (.failed detail) (.notStarted (.crashed detail))
  | failed {detail : String} : LeavesOpen (.failed detail) (.failed detail)

/-- What is known of a job that was not stopped, where its task stands. -/
inductive Standing (config : Config) (past : List Incident) (a : Attempt) : Phase → Prop
  | undecided {place : Phase} (running : a.job.state = .running) (open_ : place.isOpen) :
      Standing config past a place
  | dropping {why : Option Setback} (running : a.job.state = .running)
      (decided : Decided past (.ofSetback why)) : Standing config past a (.dropping why)
  | ending {place : Phase} {cause : Cause} (running : a.job.state = .running)
      (decided : Decided past cause.decision)
      (which : place = .breaking cause ∨ place = .terminating cause ∨ place = .killing cause) :
      Standing config past a place
  | leftOpen {ending : Ending} {decision : Decision} (running : a.job.state = .running)
      (decided : Decided past decision) (open_ : LeavesOpen ending decision) :
      Standing config past a (.ended ending)
  | recorded {ending : Ending} {decision : Decision} (decided : Decided past decision)
      (follows : a.job.Follows config decision) : Standing config past a (.ended ending)

/-- What is known of every attempt, as to how it is recorded. -/
structure Fated (config : Config) (past : List Incident) (a : Attempt) : Prop where
  clean : ¬ a.job.isTerminal → a.job.timedOut = false ∧ a.job.errorMessage = none
  asked : ∀ t, a.task = some t → t.cancelRequested → .stopped ∈ past ∨ .cancelAsked ∈ past
  stopped : .stopped ∈ past → a.job.Follows config .stopped
  stoppedOnce : past.count .stopped ≤ 1
  standing : .stopped ∉ past → ∀ place, a.phase? = some place → Standing config past a place

/-! ## Ends of a task -/

/-- A running job that is completed follows the decision that the outcome is made for. -/
theorem follows_spawnFailure {j : Job} (running : j.state = .running) (why : Setback)
    (message : String) (same : message = why.message j) :
    (j.completeOpen (spawnFailure message) now).Follows config (.notStarted why) := by
  rw [Job.completeOpen_of_running running]
  subst same
  exact ⟨rfl, rfl, rfl, by cases why <;> rfl⟩

theorem setBack_standing {why : Setback} (running : a.job.state = .running)
    (decided : Decided past (.notStarted why)) :
    ∀ place, (a.setBack now t why).attempt.phase? = some place →
      Standing config past (a.setBack now t why).attempt place := by
  cases why with
  | missing =>
      rintro _ ⟨⟩
      exact .recorded decided (follows_spawnFailure running .missing _ rfl)
  | refused reason =>
      rintro _ ⟨⟩
      exact .recorded decided (follows_spawnFailure running (.refused reason) _ rfl)
  | crashed detail =>
      rintro _ ⟨⟩
      exact .leftOpen running decided .crashed

theorem giveUp_standing {why : Option Setback} (running : a.job.state = .running)
    (decided : Decided past (.ofSetback why)) :
    ∀ place, (a.giveUp now t why).attempt.phase? = some place →
      Standing config past (a.giveUp now t why).attempt place := by
  cases why with
  | none =>
      rintro _ ⟨⟩
      exact .leftOpen running decided .cancelled
  | some why => exact setBack_standing running decided

theorem drop_standing {why : Option Setback} {g : Group} (running : a.job.state = .running)
    (decided : Decided past (.ofSetback why)) :
    ∀ place, (a.drop now t g why).attempt.phase? = some place →
      Standing config past (a.drop now t g why).attempt place := by
  unfold drop
  split
  · exact giveUp_standing running decided
  · rintro _ ⟨⟩
    exact .dropping running decided

theorem conclude_standing {cause : Cause} {g : Group} (running : a.job.state = .running)
    (decided : Decided past cause.decision) :
    ∀ place, (a.conclude now config t g cause).attempt.phase? = some place →
      Standing config past (a.conclude now config t g cause).attempt place := by
  cases cause with
  | timeout =>
      rintro _ ⟨⟩
      refine .recorded decided ?_
      simp only [conclude, Job.completeOpen_of_running running]
      exact ⟨rfl, rfl, rfl, rfl⟩
  | cancellation =>
      rintro _ ⟨⟩
      exact .leftOpen running decided .cancelled
  | fault detail =>
      rintro _ ⟨⟩
      exact .leftOpen running decided .failed

theorem terminate_standing {cause : Cause} {g : Group} (running : a.job.state = .running)
    (decided : Decided past cause.decision) :
    ∀ place, (a.terminate now config t g cause).attempt.phase? = some place →
      Standing config past (a.terminate now config t g cause).attempt place := by
  unfold terminate
  split
  · exact conclude_standing running decided
  · rintro _ ⟨⟩
    exact .ending running decided (.inr (.inl rfl))

theorem kill_standing {cause : Cause} {g : Group} (running : a.job.state = .running)
    (decided : Decided past cause.decision) :
    ∀ place, (a.kill now config t g cause).attempt.phase? = some place →
      Standing config past (a.kill now config t g cause).attempt place := by
  unfold kill
  split
  · exact conclude_standing (a := a.withGroup (g.signal .kill)) running decided
  · rintro _ ⟨⟩
    exact .ending running decided (.inr (.inr rfl))

/-! ## One event -/

theorem Standing.running {place : Phase} (h : Standing config past a place)
    (going : place.isOver = false) : a.job.state = .running := by
  cases h with
  | undecided running | dropping running | ending running => exact running
  | leftOpen | recorded => cases going

theorem Standing.of_dropping {why : Option Setback}
    (h : Standing config past a (.dropping why)) : Decided past (.ofSetback why) := by
  cases h with
  | undecided _ open_ => cases open_
  | dropping _ decided => exact decided
  | ending _ _ which => rcases which with h | h | h <;> cases h

theorem Standing.of_ending {place : Phase} {cause : Cause} (h : Standing config past a place)
    (which : place = .breaking cause ∨ place = .terminating cause ∨ place = .killing cause) :
    Decided past cause.decision := by
  cases h with
  | undecided _ open_ => rcases which with rfl | rfl | rfl <;> cases open_
  | dropping => rcases which with h | h | h <;> cases h
  | ending _ decided which' =>
      rcases which' with rfl | rfl | rfl <;> rcases which with h | h | h <;> cases h <;>
        exact decided
  | leftOpen => rcases which with h | h | h <;> cases h
  | recorded => rcases which with h | h | h <;> cases h

/-- An incident that leaves everything open, and the job as it is, leaves the job where it
stands. -/
theorem Standing.cons {place : Phase} {x : Incident} (h : Standing config past a place)
    (idle : x.isIdle) (job : b.job = a.job) : Standing config (x :: past) b place := by
  cases h with
  | undecided running open_ => exact .undecided (job ▸ running) open_
  | dropping running decided => exact .dropping (job ▸ running) (decided.cons idle)
  | ending running decided which => exact .ending (job ▸ running) (decided.cons idle) which
  | leftOpen running decided open_ => exact .leftOpen (job ▸ running) (decided.cons idle) open_
  | recorded decided follows => exact .recorded (decided.cons idle) (job ▸ follows)

/-- A cancellation that was asked for, but not by stopping the job, was asked for from
outside. -/
theorem Fated.revoked (fated : Fated config past a) (task : a.task = some t)
    (asked : t.cancelRequested = true) (unstopped : .stopped ∉ past) :
    Decided past .revoked :=
  .revoked unstopped ((fated.asked t task asked).resolve_left unstopped)

/-- Whatever happens to the task of a job that was not stopped. -/
theorem Fated.reacts {event : TaskEvent} (told : Told past a) (fated : Fated config past a)
    (h : a.Reacts now config event b) (unstopped : .stopped ∉ past) :
    ∀ place, b.phase? = some place → Standing config (.task event :: past) b place := by
  have standing {t : Task} (task : a.task = some t) : Standing config past a t.phase :=
    fated.standing unstopped t.phase (phase?_of_task task)
  have running {t : Task} {place : Phase} (task : a.task = some t) (at_ : t.phase = place)
      (going : place.isOver = false) : a.job.state = .running :=
    (at_ ▸ standing task).running going
  have collecting {t : Task} (task : a.task = some t) (at_ : t.phase = .collecting) :
      Incident.Undecided past :=
    told.undecided (by simp [phase?, task, at_, Phase.isOpen])
  have unstopped' : .stopped ∉ .task event :: past := by simp [unstopped]
  cases h with
  | process =>
      exact fun place stands => (fated.standing unstopped place stands).cons rfl rfl
  | began task place | attached task place =>
      rintro _ ⟨⟩
      exact .undecided (running task place rfl) rfl
  | notBegun task place =>
      exact setBack_standing (running task place rfl)
        (.notStarted unstopped' (by simp [Incident.setbacks]))
  | notAttached task place =>
      exact drop_standing (running task place rfl)
        (.notStarted unstopped' (by simp [Incident.setbacks]))
  | startCancelled task place asked =>
      have decided : Decided (.task .cancelled :: past) (.ofSetback none) :=
        (fated.revoked task asked unstopped).cons rfl
      exact drop_standing (running task place rfl) decided
  | dropped task place =>
      exact giveUp_standing (running task place rfl)
        ((place ▸ standing task).of_dropping.cons rfl)
  | output task place | closed task place =>
      intro _ stands
      obtain rfl := Option.some.inj ((phase?_of_task task).symm.trans stands)
      exact .undecided (running task place rfl) (by simp [place, Phase.isOpen])
  | @finished t g code task place group completed =>
      rintro _ ⟨⟩
      obtain ⟨closed, exitCode⟩ := Group.completed?_eq_some.mp completed
      obtain ⟨started, inTime, -⟩ := collecting task place
      have decided : Decided past (.exited code) :=
        .exited unstopped started inTime (by simp [told.exitCodes_eq group, exitCode])
          ((told.readToEnd_iff group).mpr closed)
      refine .recorded (decided.cons rfl) ?_
      simp only [finish, Job.completeOpen_of_running (running task place rfl)]
      exact ⟨rfl, rfl, rfl, rfl⟩
  | timeUp task place =>
      rintro _ ⟨⟩
      have decided : Decided (.task .timeUp :: past) Cause.timeout.decision :=
        .timedOut unstopped' (collecting task place).started List.mem_cons_self
      exact .ending (running task place rfl) decided (.inl rfl)
  | @fault t g detail task place group unread =>
      rintro _ ⟨⟩
      obtain ⟨started, inTime, -⟩ := collecting task place
      have unread : ¬ Incident.ReadToEnd past := by
        rw [told.readToEnd_iff group, ← Group.read_iff, unread]
        simp
      have decided : Decided (.task (.fault detail) :: past) (Cause.fault detail).decision :=
        .failed unstopped' started (by simp [inTime]) (by simpa [Incident.ReadToEnd] using unread)
          List.mem_cons_self
      exact .ending (running task place rfl) decided (.inl rfl)
  | readingCancelled task place asked =>
      rintro _ ⟨⟩
      exact .ending (running task place rfl) ((fated.revoked task asked unstopped).cons rfl)
        (.inl rfl)
  | brokenOff task place =>
      exact terminate_standing (running task place rfl)
        (((standing task).of_ending (.inl place)).cons rfl)
  | @breakCancelled _ _ cause task place asked =>
      refine terminate_standing (running task place rfl) (Decided.cons ?_ rfl)
      cases cause with
      | fault => exact (standing task).of_ending (.inl place)
      | timeout | cancellation => exact fated.revoked task asked unstopped
  | graceOver task place =>
      exact kill_standing (running task place rfl)
        (((standing task).of_ending (.inr (.inl place))).cons rfl)
  | ended task place =>
      have running' : a.job.state = .running := by
        rcases place with place | place <;> exact running task place rfl
      exact conclude_standing running' (((standing task).of_ending (.inr place)).cons rfl)
  | @gaveWay t task place asked =>
      rintro _ ⟨⟩
      have going : t.phase.isOver = false := by
        unfold Phase.isOver
        split <;> simp_all [givesWay]
      exact .leftOpen ((standing task).running going)
        ((fated.revoked task asked unstopped).cons rfl) .cancelled

/-! ## Every event -/

theorem Standing.of_job {place : Phase} (h : Standing config past a place)
    (job : b.job = a.job) : Standing config past b place := by
  cases h with
  | undecided running open_ => exact .undecided (job ▸ running) open_
  | dropping running decided => exact .dropping (job ▸ running) decided
  | ending running decided which => exact .ending (job ▸ running) decided which
  | leftOpen running decided open_ => exact .leftOpen (job ▸ running) decided open_
  | recorded decided follows => exact .recorded decided (job ▸ follows)

end Attempt

theorem Job.Follows.isTerminal {config : Config} {j : Job} {d : Decision}
    (follows : j.Follows config d) : j.isTerminal := by
  unfold Job.isTerminal
  cases d <;> rw [follows.state] <;> rfl

namespace Attempt

variable {now : Moment} {config : Config} {past : List Incident} {a b : Attempt} {t : Task}

/-- The engine's callback records what the task has left open. -/
theorem settle_standing {ending : Ending} (fated : Fated config past a)
    (standing : Standing config past a (.ended ending)) :
    Standing config past (a.settle now ending).attempt (.ended ending) := by
  cases standing with
  | undecided _ open_ => cases open_
  | ending _ _ which => rcases which with h | h | h <;> cases h
  | leftOpen running decided open_ =>
      obtain ⟨timedOut, errorMessage⟩ := fated.clean (Job.not_isTerminal_of_running running)
      refine .recorded decided ?_
      cases open_ with
      | cancelled =>
          simp only [settle, Job.cancelOpen_of_running running]
          exact ⟨rfl, rfl, timedOut, errorMessage⟩
      | crashed | failed =>
          simp only [settle, Job.completeOpen_of_running running]
          exact ⟨rfl, rfl, rfl, rfl⟩
  | recorded decided follows =>
      have same : (a.settle now ending).attempt.job = a.job := by
        cases ending with
        | returned => rfl
        | cancelled => exact Job.cancelOpen_of_terminal follows.isTerminal now
        | failed detail => exact Job.completeOpen_of_terminal follows.isTerminal _ now
      exact .recorded decided (same ▸ follows)

/-- A stop is recorded as it is made, and nothing that comes after it changes that. -/
theorem Fated.stopped_changes {incident : Option Incident} (fated : Fated config past a)
    (change : a.Changes now config incident b) (stopped : .stopped ∈ incident.toList ++ past) :
    b.job.Follows config .stopped := by
  by_cases before : .stopped ∈ past
  · have follows := fated.stopped before
    rwa [change.job_of_terminal follows.isTerminal]
  · have now_ : incident = some .stopped := by simpa [before] using stopped
    subst now_
    cases change with
    | stopped running =>
        obtain ⟨timedOut, errorMessage⟩ := fated.clean (Job.not_isTerminal_of_running running)
        rw [Engine.stopped_job]
        exact ⟨rfl, rfl, timedOut, errorMessage⟩

theorem Fated.stoppedOnce_changes {incident : Option Incident} (fated : Fated config past a)
    (change : a.Changes now config incident b) :
    (incident.toList ++ past).count .stopped ≤ 1 := by
  by_cases now_ : incident = some .stopped
  · subst now_
    cases change with
    | stopped running =>
        have before : .stopped ∉ past := fun before =>
          Job.not_isTerminal_of_running running (fated.stopped before).isTerminal
        simp [List.count_eq_zero.mpr before]
  · have none_ : incident.toList.count .stopped = 0 :=
      List.count_eq_zero.mpr (by simpa [Option.mem_toList] using now_)
    rw [List.count_append, none_, Nat.zero_add]
    exact fated.stoppedOnce

theorem Fated.clean_changes {incident : Option Incident} (lived : Lived config past a)
    (fated : Fated config past a) (change : a.Changes now config incident b)
    (open_ : ¬ b.job.isTerminal) : b.job.timedOut = false ∧ b.job.errorMessage = none := by
  obtain ⟨before, same | ⟨directory, same⟩⟩ := change.of_open lived open_
  · rw [same]
    exact fated.clean before
  · rw [same]
    exact fated.clean before

theorem Fated.asked_changes {incident : Option Incident} (fated : Fated config past a)
    (change : a.Changes now config incident b) :
    ∀ u, b.task = some u → u.cancelRequested →
      .stopped ∈ incident.toList ++ past ∨ .cancelAsked ∈ incident.toList ++ past := by
  have before {t : Task} (task : a.task = some t) (asked : t.cancelRequested) :
      .stopped ∈ incident.toList ++ past ∨ .cancelAsked ∈ incident.toList ++ past :=
    (fated.asked t task asked).imp (List.mem_append_right _) (List.mem_append_right _)
  cases change with
  | dispatched =>
      rintro _ ⟨⟩ ⟨⟩
  | stopped => exact fun _ _ _ => .inl (by simp)
  | cancelAsked => exact fun _ _ _ => .inr (by simp)
  | task reacts =>
      intro u task asked
      obtain ⟨same, -⟩ | ⟨t, task', -, leads⟩ := reacts.leads
      · exact before (same ▸ task) asked
      · cases leads with
        | onward task'' _ asked' | returned task'' _ asked' =>
            obtain rfl := Option.some.inj (task''.symm.trans task)
            exact before task' (asked' asked)
  | settled task =>
      intro u task' asked
      rw [settle_task] at task'
      cases task'
      exact before task asked
  | registered =>
      intro u task' asked
      obtain ⟨t, task, rfl⟩ := Option.map_eq_some_iff.mp task'
      exact before task asked
  | woken task =>
      rintro _ ⟨⟩ asked
      exact before task asked
  | untouched => exact fun _ => before

theorem Fated.standing_changes {incident : Option Incident} (lived : Lived config past a)
    (fated : Fated config past a) (change : a.Changes now config incident b)
    (unstopped : .stopped ∉ incident.toList ++ past) :
    ∀ place, b.phase? = some place → Standing config (incident.toList ++ past) b place := by
  have unstopped' : .stopped ∉ past := fun h => unstopped (List.mem_append_right _ h)
  have standing := fated.standing unstopped'
  cases change with
  | dispatched =>
      rintro _ ⟨⟩
      exact .undecided rfl rfl
  | stopped => simp at unstopped
  | cancelAsked =>
      intro place stands
      rw [Engine.requestCancel_phase?] at stands
      exact (standing place stands).cons rfl rfl
  | task reacts => exact fated.reacts lived.told reacts unstopped'
  | @settled t ending rest task ended =>
      have phase : (Engine.withCallbacks a t rest).phase? = some (.ended ending) := by
        rw [Engine.withCallbacks_phase? task, phase?_of_task task, ended]
      intro place stands
      rw [phase?, settle_task, ← phase?, phase] at stands
      cases stands
      have same : ((Engine.withCallbacks a t rest).settle now ending).attempt.job =
          (a.settle now ending).attempt.job := by
        cases ending <;> rfl
      have ended' : Standing config past a (.ended ending) :=
        standing _ ((phase?_of_task task).trans (congrArg some ended))
      exact (settle_standing fated ended').cons rfl same
  | registered =>
      intro place stands
      rw [Engine.register_phase?] at stands
      exact (standing place stands).of_job rfl
  | woken task =>
      intro place stands
      rw [Engine.withCallbacks_phase? task] at stands
      exact (standing place stands).of_job rfl
  | untouched => exact standing

theorem Fated.changes {incident : Option Incident} (lived : Lived config past a)
    (fated : Fated config past a) (change : a.Changes now config incident b) :
    Fated config (incident.toList ++ past) b where
  clean := fated.clean_changes lived change
  asked := fated.asked_changes change
  stopped := fated.stopped_changes change
  stoppedOnce := fated.stoppedOnce_changes change
  standing := fated.standing_changes lived change

theorem Lived.fated (lived : Lived config past a) : Fated config past a := by
  induction lived with
  | created => exact ⟨fun _ => ⟨rfl, rfl⟩, nofun, nofun, by simp, nofun⟩
  | changed lived change ih => exact ih.changes lived change

/-- A job that has its outcome is recorded as its past has decided. -/
theorem Lived.follows (lived : Lived config past a) (terminal : a.job.isTerminal) :
    ∃ decision, Decided past decision ∧ a.job.Follows config decision := by
  by_cases stopped : .stopped ∈ past
  · exact ⟨.stopped, .stopped stopped, lived.fated.stopped stopped⟩
  · cases lived.stage with
    | idle _ _ created => exact absurd created (Job.left_of_terminal terminal)
    | @listed t _ task | @delivered t task =>
        have standing := lived.fated.standing stopped t.phase (phase?_of_task task)
        generalize t.phase = place at standing
        cases standing with
        | undecided running | dropping running | ending running | leftOpen running =>
            exact absurd terminal (Job.not_isTerminal_of_running running)
        | recorded decided follows => exact ⟨_, decided, follows⟩

end Attempt

/-! ## Nothing else is decided -/

/-- As long as nobody cancels its task from outside, one thing is decided about a job. -/
theorem Decided.unique {config : Config} {past : List Incident} {a : Attempt}
    {d d' : Decision} (lived : a.Lived config past) (quiet : .cancelAsked ∉ past)
    (decided : Decided past d) (decided' : Decided past d') : d = d' := by
  have told := lived.told
  have single {α : Type} {l : List α} {x y : α} (once : l.length ≤ 1) (hx : x ∈ l)
      (hy : y ∈ l) : x = y := by
    match l, once with
    | [z], _ => rw [List.mem_singleton.mp hx, List.mem_singleton.mp hy]
  cases decided with
  | stopped h =>
      cases decided' with
      | stopped => rfl
      | notStarted h' | timedOut h' | exited h' | failed h' | revoked h' => exact absurd h h'
  | notStarted h setback =>
      cases decided' with
      | stopped h' => exact absurd h' h
      | notStarted _ setback' => rw [single told.setbackOnce setback setback']
      | timedOut _ started | exited _ started | failed _ started => simp [started] at setback
      | revoked _ asked => exact absurd asked quiet
  | timedOut h started timeUp =>
      cases decided' with
      | stopped h' => exact absurd h' h
      | notStarted _ setback' => simp [started] at setback'
      | timedOut => rfl
      | exited _ _ inTime | failed _ _ inTime => exact absurd timeUp inTime
      | revoked _ asked => exact absurd asked quiet
  | exited h started inTime ended read =>
      cases decided' with
      | stopped h' => exact absurd h' h
      | notStarted _ setback' => simp [started] at setback'
      | timedOut _ _ timeUp => exact absurd timeUp inTime
      | exited _ _ _ ended' =>
          have once : (Incident.exitCodes past).length ≤ 1 := by
            rw [told.exited]
            cases a.group.bind Group.exitCode <;> simp
          rw [single once ended ended']
      | failed _ _ _ unread => exact absurd read unread
      | revoked _ asked => exact absurd asked quiet
  | failed h started inTime unread fault =>
      cases decided' with
      | stopped h' => exact absurd h' h
      | notStarted _ setback' => simp [started] at setback'
      | timedOut _ _ timeUp => exact absurd timeUp inTime
      | exited _ _ _ _ read => exact absurd read unread
      | failed _ _ _ _ fault' => rw [single told.faultOnce fault fault']
      | revoked _ asked => exact absurd asked quiet
  | revoked _ asked => exact absurd asked quiet

namespace Course

variable {c : Course} {config : Config}

/-- The record of a delivered job follows what was decided. -/
theorem Balanced.follows (faithful : Faithful config c) (balanced : c.Balanced) {d : Delivery}
    (delivered : d ∈ c.engine.deliveries) :
    ∃ decision, Decided (c.incidents d.job) decision ∧ d.record.Follows config decision := by
  obtain ⟨terminal, a, found, record⟩ := balanced.record d delivered
  rw [← record] at terminal ⊢
  exact (faithful.lived d.job a found).follows terminal

/-- A job that has its outcome is not changed any more. -/
theorem record_play {id : Nat} {a : Attempt} (found : c.engine.attempts[id]? = some a)
    (terminal : a.job.isTerminal) (later : List (Moment × Engine.Event)) :
    ∃ b, (c.play later).engine.attempts[id]? = some b ∧ b.job = a.job := by
  refine play_induct (P := fun c => ∃ b, c.engine.attempts[id]? = some b ∧ b.job = a.job)
    (fun c now event e' kept step => ?_) ⟨a, found, rfl⟩ later
  obtain ⟨b, found, job⟩ := kept
  obtain ⟨b', found', change⟩ := step.changes found
  exact ⟨b', found', (change.job_of_terminal (job ▸ terminal)).trans job⟩

/-- An event leaves the records of other jobs alone. -/
theorem record_step {id : Nat} {a : Attempt} (found : c.engine.attempts[id]? = some a)
    (now : Moment) {event : Engine.Event} (other : event.incidentOf id = none) :
    ∃ b, (c.step now event).engine.attempts[id]? = some b ∧ b.job = a.job := by
  cases h : c.engine.step? now event with
  | none => exact ⟨a, by rwa [step_of_none h], rfl⟩
  | some e' =>
      obtain ⟨b, found', change⟩ := (Engine.steps_of_step? h).changes found
      rw [other] at change
      exact ⟨b, by rwa [step_of_some h], change.job_of_none⟩

theorem Faithful.stoppedOnce (faithful : Faithful config c) (id : Nat) :
    (c.incidents id).count .stopped ≤ 1 := by
  cases found : c.engine.attempts[id]? with
  | none => simp [faithful.empty id found]
  | some a => exact (faithful.lived id a found).fated.stoppedOnce

end Course

namespace Engine

/-- Whatever happens to an engine and in whatever order, a delivered job is recorded as its
past has decided, and is still recorded so. Unless somebody cancels the task from outside,
the past decides one thing. A stop is granted exactly when the job is running, so at most
once, and a stop that is refused changes nothing. A job that has its outcome is not
changed by anything that happens later, and no event changes the record of a job that it
does not concern. -/
theorem first_outcome_counts (config : Config) (width : Nat)
    (sinks : String → Nat → Except Error (Job → Report)) (events : List (Moment × Event)) :
    let c := (fresh config width sinks).course events
    (∀ d ∈ c.engine.deliveries,
      (∃ a, c.engine.attempts[d.job]? = some a ∧ a.job = d.record) ∧
      (∃ decision, Decided (c.incidents d.job) decision ∧ d.record.Follows config decision) ∧
      (.cancelAsked ∉ c.incidents d.job → ∀ decision, Decided (c.incidents d.job) decision →
        d.record.Follows config decision)) ∧
    (∀ now id,
      ((c.engine.stop now id).2 = true ↔
        ∃ a, c.engine.attempts[id]? = some a ∧ a.job.state = .running) ∧
      ((c.engine.stop now id).2 = false → (c.engine.stop now id).1 = c.engine)) ∧
    (∀ id, (c.incidents id).count .stopped ≤ 1) ∧
    (∀ (id : Nat) (a : Attempt) later, c.engine.attempts[id]? = some a → a.job.isTerminal →
      ∃ b : Attempt, (c.play later).engine.attempts[id]? = some b ∧ b.job = a.job) ∧
    ∀ now event (id : Nat) (a : Attempt), c.engine.attempts[id]? = some a →
      event.incidentOf id = none →
      ∃ b : Attempt, (c.step now event).engine.attempts[id]? = some b ∧ b.job = a.job := by
  intro c
  have faithful : Course.Faithful config c := Course.faithful config width sinks events
  have balanced : c.Balanced := Course.balanced config width sinks events
  refine ⟨fun d delivered => ?_, fun now id => ⟨stop_granted_iff, fun refused => ?_⟩,
    faithful.stoppedOnce, fun id a later found terminal => Course.record_play found terminal later,
    fun now event id a found other => Course.record_step found now other⟩
  · obtain ⟨-, a, found, record⟩ := balanced.record d delivered
    obtain ⟨decision, decided, follows⟩ := balanced.follows faithful delivered
    refine ⟨⟨a, found, record⟩, ⟨decision, decided, follows⟩, fun quiet other decided' => ?_⟩
    rwa [decided'.unique (faithful.lived d.job a found) quiet decided]
  · have idle a (found : c.engine.attempts[id]? = some a) : a.job.state ≠ .running := by
      intro running
      simp [stop_of_running found running] at refused
    rw [stop_of_not_running idle]

end Engine

end Proctor

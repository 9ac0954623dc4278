import Proctor.Proofs.Capture
import Proctor.Proofs.Engine.Escalation
import Proctor.Proofs.Engine.Outcome

/-!
# What is captured of a test whose time runs out

The lines of an output are taken over as they become complete, and what follows the last
line feed becomes a line when the output is read to its end. The end of the time breaks
the reading off before that. So the record of a test whose time ran out holds the complete
lines of all that was received, but a last line without a line feed only if the output had
been read to its end.

`Attempt.Heard` ties what is captured to what has been received, in whatever order the two
outputs, the processes and the clock take turns; `Attempt.Expired` says what the record
has been made from.
-/

namespace Proctor

/-- What was received on an output, in the order in which it arrived. -/
def Incident.received (stream : Stream) (past : List Incident) : List UInt8 :=
  (past.filterMap fun
    | .task (.output written bytes) => if written = stream then some bytes else none
    | _ => none).reverse.flatten

namespace Incident

variable {past : List Incident} {event : TaskEvent} {stream written : Stream}

theorem received_append (recent past : List Incident) :
    received stream (recent ++ past) = received stream past ++ received stream recent := by
  simp [received, List.filterMap_append]

theorem received_cons (x : Incident) :
    received stream (x :: past) = received stream past ++ received stream [x] :=
  received_append [x] past

theorem received_output (bytes : List UInt8) :
    received stream [.task (.output written bytes)] = if written = stream then bytes else [] := by
  by_cases same : written = stream <;> simp [received, same]

/-- Only an output brings anything. -/
theorem received_of_silent (silent : ∀ written bytes, event ≠ .output written bytes) :
    received stream [.task event] = [] := by
  cases event <;> simp_all [received]

theorem received_cons_of_silent (silent : ∀ written bytes, event ≠ .output written bytes) :
    received stream (.task event :: past) = received stream past := by
  rw [received_cons, received_of_silent silent, List.append_nil]

end Incident

/-- What is captured of an output on which some bytes have been received. -/
def Capture.ofStream (isOpen : Bool) (bytes : List UInt8) : Capture :=
  if isOpen then .ofBytes bytes else (Capture.ofBytes bytes).finish

namespace Group

variable {g g' : Group} {stream : Stream}

/-- What has been captured of an output. -/
def captured (g : Group) : Stream → Capture
  | .stdout => g.stdout
  | .stderr => g.stderr

theorem captured_write (g : Group) (bytes : List UInt8) (written stream : Stream) :
    (g.write bytes written).captured stream =
      if written = stream then (g.captured stream).feed bytes else g.captured stream := by
  cases written <;> cases stream <;> rfl

theorem captured_close (g : Group) (closed stream : Stream) :
    (g.close closed).captured stream =
      if closed = stream then (g.captured stream).finish else g.captured stream := by
  cases closed <;> cases stream <;> rfl

@[simp] theorem captured_signal (g : Group) (s : Signal) (stream : Stream) :
    (g.signal s).captured stream = g.captured stream := by
  unfold signal
  split <;> cases stream <;> rfl

theorem captured_after? {event : ProcessEvent} (done : g.after? event = some g')
    (stream : Stream) : g'.captured stream = g.captured stream := by
  cases event <;> simp only [after?, Option.ite_none_left_eq_some, Option.some.injEq] at done <;>
    obtain ⟨-, rfl⟩ := done <;> cases stream <;> rfl

end Group

namespace Job

/-- The lines of an output in the record of a job. -/
def output (j : Job) : Stream → List String
  | .stdout => j.stdout
  | .stderr => j.stderr

/-- A job that is given an outcome says that its time ran out only if the outcome does, or
if it said so before. -/
theorem timedOut_completeOpen {j : Job} {o : Outcome} {now : Moment}
    (timedOut : (j.completeOpen o now).timedOut) (before : ¬ j.timedOut) :
    o.timedOut ∧ j.completeOpen o now = j.asCompleted o now := by
  unfold completeOpen at timedOut ⊢
  split at timedOut
  · exact absurd timedOut before
  · rw [perform_completed] at timedOut ⊢
    by_cases allowed : j.state.allows .completed
    · simp only [allowed, if_true] at timedOut ⊢
      exact ⟨timedOut, by simp_all⟩
    · simp only [allowed] at timedOut
      exact absurd timedOut before

theorem timedOut_cancelOpen (j : Job) (now : Moment) :
    (j.cancelOpen now).timedOut = j.timedOut := by
  unfold cancelOpen
  rw [perform_cancelled]
  split
  · rfl
  · split <;> rfl

end Job

namespace Attempt

variable {now : Moment} {config : Config} {past : List Incident} {a b : Attempt} {t : Task}
  {g : Group} {event : TaskEvent}

/-! ## What has been heard -/

/-- Nothing is received on an output that is not open. -/
theorem Reacts.isOpen_of_output {stream : Stream} {bytes : List UInt8}
    (h : a.Reacts now config (.output stream bytes) b) (group : a.group = some g) :
    g.isOpen stream := by
  cases h with
  | output _ _ group' isOpen =>
      obtain rfl := Option.some.inj (group'.symm.trans group)
      exact isOpen

theorem Reacts.isOpen_of_closed {stream : Stream}
    (h : a.Reacts now config (.closed stream) b) (group : a.group = some g) :
    g.isOpen stream := by
  cases h with
  | closed _ _ group' isOpen =>
      obtain rfl := Option.some.inj (group'.symm.trans group)
      exact isOpen

/-- What is captured of each output is what has been received on it. -/
structure Heard (past : List Incident) (a : Attempt) : Prop where
  silent : a.group = none → ∀ stream, Incident.received stream past = []
  captured : ∀ g, a.group = some g → ∀ stream,
    g.captured stream = .ofStream (g.isOpen stream) (Incident.received stream past)

/-- What brings nothing and leaves the captured lines alone leaves all as it was. -/
theorem Heard.same {x : Incident} {g g' : Group} (heard : Heard past a)
    (group : a.group = some g) (group' : b.group = some g')
    (nothing : ∀ stream, Incident.received stream [x] = [])
    (captured : ∀ stream, g'.captured stream = g.captured stream)
    (isOpen : ∀ stream, g'.isOpen stream = g.isOpen stream) : Heard (x :: past) b where
  silent none_ := by simp [group'] at none_
  captured g'' group'' stream := by
    obtain rfl := Option.some.inj (group'.symm.trans group'')
    rw [Incident.received_cons, nothing, List.append_nil, captured, isOpen]
    exact heard.captured g group stream

theorem Heard.reacts (told : Told past a) (heard : Heard past a)
    (h : a.Reacts now config event b) : Heard (.task event :: past) b := by
  have touches := h.touches
  cases touches with
  | aside quiet unchanged =>
      have silent (written : Stream) (bytes : List UInt8) : event ≠ .output written bytes := by
        rintro rfl
        simp [isQuiet] at quiet
      refine ⟨fun none_ stream => ?_, fun g group stream => ?_⟩
      · rw [Incident.received_cons_of_silent silent]
        exact heard.silent (unchanged ▸ none_) stream
      · rw [Incident.received_cons_of_silent silent]
        exact heard.captured g (unchanged ▸ group) stream
  | started task place group' =>
      have none_ : a.group = none := told.unstarted (by simp [phase?, task, place])
      refine ⟨fun none_ => by simp [group'] at none_, fun g group stream => ?_⟩
      obtain rfl := Option.some.inj (group'.symm.trans group)
      have nothing : Incident.received stream (.task (.begin .started) :: past) =
          Incident.received stream past := Incident.received_cons_of_silent (by rintro _ _ ⟨⟩)
      rw [nothing, heard.silent none_]
      cases stream <;> rfl
  | process group done group' =>
      exact heard.same group group' (fun _ => Incident.received_of_silent (by rintro _ _ ⟨⟩))
        (Group.captured_after? done) (Group.after?_isOpen done)
  | @output g written bytes group group' =>
      refine ⟨fun none_ => by simp [group'] at none_, fun g' group'' stream => ?_⟩
      obtain rfl := Option.some.inj (group'.symm.trans group'')
      rw [Group.captured_write, Group.write_isOpen, heard.captured g group,
        Incident.received_cons, Incident.received_output]
      split
      case isTrue same =>
        subst same
        have isOpen := h.isOpen_of_output group
        simp only [isOpen, Capture.ofStream, if_true, Capture.feed_ofBytes]
      case isFalse => rw [List.append_nil]
  | @closed g closed group group' =>
      refine ⟨fun none_ => by simp [group'] at none_, fun g' group'' stream => ?_⟩
      obtain rfl := Option.some.inj (group'.symm.trans group'')
      have nothing : Incident.received stream (.task (.closed closed) :: past) =
          Incident.received stream past := Incident.received_cons_of_silent (by rintro _ _ ⟨⟩)
      rw [Group.captured_close, Group.close_isOpen, heard.captured g group, nothing]
      split
      case isTrue same =>
        subst same
        have isOpen := h.isOpen_of_closed group
        simp [isOpen, Capture.ofStream]
      case isFalse other => rw [bne_iff_ne.mpr other, Bool.and_true]
  | signalled quiet _ group group' =>
      refine heard.same group group' (fun _ => Incident.received_of_silent ?_)
        (Group.captured_signal _ _) (Group.signal_isOpen _ _)
      rintro written bytes rfl
      simp [isQuiet] at quiet
  | killed group group' =>
      exact heard.same group group' (fun _ => Incident.received_of_silent (by rintro _ _ ⟨⟩))
        (Group.captured_signal _ _) (Group.signal_isOpen _ _)

/-- Whatever does not concern the task brings nothing. -/
theorem Heard.aside {incident : Option Incident} (heard : Heard past a)
    (group : b.group = a.group) (other : ∀ event, incident ≠ some (.task event)) :
    Heard (incident.toList ++ past) b := by
  have nothing (stream : Stream) : Incident.received stream incident.toList = [] := by
    cases incident with
    | none => rfl
    | some x => cases x <;> simp_all [Incident.received]
  refine ⟨fun none_ stream => ?_, fun g some_ stream => ?_⟩
  · rw [Incident.received_append, nothing, List.append_nil]
    exact heard.silent (group ▸ none_) stream
  · rw [Incident.received_append, nothing, List.append_nil]
    exact heard.captured g (group ▸ some_) stream

theorem Heard.changes {incident : Option Incident} (lived : Lived config past a)
    (heard : Heard past a) (change : a.Changes now config incident b) :
    Heard (incident.toList ++ past) b := by
  obtain ⟨_, rfl, created, rfl⟩ | ⟨event, rfl, reacts⟩ | ⟨other, -, group⟩ := change.cases_task
  · obtain ⟨-, -, rfl⟩ := lived.stage.of_created created
    exact ⟨fun _ _ => rfl, nofun⟩
  · exact heard.reacts lived.told reacts
  · exact heard.aside group other

theorem Lived.heard (lived : Lived config past a) : Heard past a := by
  induction lived with
  | created => exact ⟨fun _ _ => rfl, nofun⟩
  | changed lived change ih => exact ih.changes lived change

/-! ## What is recorded -/

/-- The task is over, and the record of the job has been made from what had been captured
when the time of the test had run out. -/
structure Expired (a : Attempt) (g : Group) : Prop where
  group : a.group = some g
  ended : ∃ ending, a.phase? = some (.ended ending)
  state : a.job.state = .completed
  exitCode : a.job.exitCode = .int timeoutExitCode
  output : ∀ stream, a.job.output stream = (g.captured stream).lines

theorem setBack_timedOut {why : Setback} (before : ¬ a.job.timedOut) :
    ¬ (a.setBack now t why).attempt.job.timedOut := by
  intro after
  cases why with
  | missing | refused =>
      obtain ⟨timedOut, -⟩ := Job.timedOut_completeOpen after before
      cases timedOut
  | crashed => exact before after

theorem giveUp_timedOut {why : Option Setback} (before : ¬ a.job.timedOut) :
    ¬ (a.giveUp now t why).attempt.job.timedOut := by
  cases why with
  | none => exact before
  | some why => exact setBack_timedOut before

theorem drop_timedOut {why : Option Setback} (before : ¬ a.job.timedOut) :
    ¬ (a.drop now t g why).attempt.job.timedOut := by
  unfold drop
  split
  · exact giveUp_timedOut before
  · exact before

theorem conclude_expired {cause : Cause} (group : a.group = some g) (before : ¬ a.job.timedOut)
    (after : (a.conclude now config t g cause).attempt.job.timedOut) :
    Expired (a.conclude now config t g cause).attempt g := by
  cases cause with
  | timeout =>
      obtain ⟨-, recorded⟩ := Job.timedOut_completeOpen after before
      refine ⟨group, ⟨_, rfl⟩, ?_, ?_, fun stream => ?_⟩
      · exact congrArg Job.state recorded
      · exact congrArg Job.exitCode recorded
      · rw [conclude, recorded]
        cases stream <;> rfl
  | cancellation | fault => exact absurd after before

theorem terminate_expired {cause : Cause} (group : a.group = some g) (before : ¬ a.job.timedOut)
    (after : (a.terminate now config t g cause).attempt.job.timedOut) :
    ∃ g', Expired (a.terminate now config t g cause).attempt g' := by
  unfold terminate at after ⊢
  split at after
  case isTrue gone => exact ⟨g, by simpa [gone] using conclude_expired group before after⟩
  case isFalse => exact absurd after before

theorem kill_expired {cause : Cause} (before : ¬ a.job.timedOut)
    (after : (a.kill now config t g cause).attempt.job.timedOut) :
    ∃ g', Expired (a.kill now config t g cause).attempt g' := by
  unfold kill at after ⊢
  split at after
  case isTrue ended =>
    exact ⟨_, by simpa [ended] using
      conclude_expired (a := a.withGroup (g.signal .kill)) rfl before after⟩
  case isFalse => exact absurd after before

/-- A step after which the job says that its time ran out has just made that record. -/
theorem Reacts.expired (h : a.Reacts now config event b) (before : ¬ a.job.timedOut)
    (after : b.job.timedOut) : ∃ g, Expired b g := by
  cases h with
  | process | began | attached | output | closed | timeUp | fault | readingCancelled | gaveWay =>
      exact absurd after before
  | notBegun => exact absurd after (setBack_timedOut before)
  | notAttached | startCancelled => exact absurd after (drop_timedOut before)
  | dropped => exact absurd after (giveUp_timedOut before)
  | finished =>
      obtain ⟨timedOut, -⟩ := Job.timedOut_completeOpen after before
      cases timedOut
  | brokenOff _ _ _ group | breakCancelled _ _ _ group =>
      exact terminate_expired group before after
  | graceOver => exact kill_expired before after
  | ended _ _ group => exact ⟨_, conclude_expired group before after⟩

/-- Only processes do anything once a task is over, and they leave the record alone. -/
theorem Expired.reacts (expired : Expired a g) (h : a.Reacts now config event b) :
    ∃ g', Expired b g' := by
  obtain ⟨group, ⟨ending, ended⟩, state, exitCode, output⟩ := expired
  have phaseOf {t : Task} (task : a.task = some t) : t.phase = .ended ending :=
    Option.some.inj ((phase?_of_task task).symm.trans ended)
  cases h with
  | process group'' done =>
      obtain rfl := Option.some.inj (group''.symm.trans group)
      exact ⟨_, rfl, ⟨ending, ended⟩, state, exitCode, fun stream =>
        (output stream).trans (by rw [Group.captured_after? done])⟩
  | ended task place => rcases place with place | place <;> simp [phaseOf task] at place
  | gaveWay task place => simp [phaseOf task, givesWay] at place
  | began task place | notBegun task place | attached task place | notAttached task place
  | startCancelled task place | dropped task place | output task place | closed task place
  | finished task place | timeUp task place | fault task place | readingCancelled task place
  | brokenOff task place | breakCancelled task place | graceOver task place =>
      simp [phaseOf task] at place

/-- Only a step of the task makes a job say that its time ran out. -/
theorem Changes.timedOut_of_aside {incident : Option Incident}
    (change : a.Changes now config incident b) (other : ∀ event, incident ≠ some (.task event))
    (after : b.job.timedOut) : a.job.timedOut := by
  cases change with
  | dispatched | cancelAsked | registered | woken | untouched => exact after
  | stopped =>
      rw [Engine.stopped_job] at after
      exact after
  | task => exact absurd rfl (other _)
  | @settled t ending rest =>
      cases ending with
      | returned => exact after
      | cancelled => exact (Job.timedOut_cancelOpen a.job now).symm.trans after
      | failed detail =>
          by_contra before
          obtain ⟨timedOut, -⟩ : (faultOutcome detail).timedOut ∧ _ :=
            Job.timedOut_completeOpen after before
          cases timedOut

/-- A job that says that its time ran out was recorded so when its task ended. -/
theorem Lived.expired (lived : Lived config past a) (timedOut : a.job.timedOut) :
    ∃ g, Expired a g := by
  induction lived with
  | created => cases timedOut
  | @changed now past a b incident lived change ih =>
      by_cases before : a.job.timedOut
      · obtain ⟨g, expired⟩ := ih before
        have terminal : a.job.isTerminal := by simp [Job.isTerminal, expired.state]; rfl
        obtain ⟨_, -, created, -⟩ | ⟨event, -, reacts⟩ | ⟨-, phase, group⟩ := change.cases_task
        · exact absurd created (Job.left_of_terminal terminal)
        · exact expired.reacts reacts
        · refine ⟨g, ?_⟩
          obtain ⟨some_, ended, state, exitCode, output⟩ := expired
          rw [← change.job_of_terminal terminal] at state exitCode output
          exact ⟨group.trans some_, phase ▸ ended, state, exitCode, output⟩
      · obtain ⟨_, rfl, -, rfl⟩ | ⟨event, -, reacts⟩ | ⟨other, -, -⟩ := change.cases_task
        · exact absurd timedOut before
        · exact reacts.expired before timedOut
        · exact absurd (change.timedOut_of_aside other timedOut) before

end Attempt

namespace Engine

open Incident in
/-- Whatever happens to an engine and in whatever order: a job whose time ran out is completed
with the exit code for that, and holds of each output the complete lines of all that was
received on it. What follows the last line feed is among its lines only if the output had
been read to its end; so a line is missing exactly if there is a last one without a line
feed in an output that was still open. -/
theorem timedOut_output (config : Config) (width : Nat)
    (sinks : String → Nat → Except Error (Job → Report)) (events : List (Moment × Event))
    (id : Nat) (a : Attempt) :
    let c := (fresh config width sinks).course events
    c.engine.attempts[id]? = some a → a.job.timedOut →
      a.job.state = .completed ∧ a.job.exitCode = .int 124 ∧
      ∀ stream,
        let bytes := received stream (c.incidents id)
        (.task (.closed stream) ∉ c.incidents id →
          a.job.output stream = Capture.completeLines bytes) ∧
        (a.job.output stream = Capture.linesOf bytes ↔
          .task (.closed stream) ∈ c.incidents id ∨ Capture.unfinished bytes = []) := by
  intro c found timedOut
  have faithful : Course.Faithful config c := Course.faithful config width sinks events
  have lived := faithful.lived id a found
  obtain ⟨g, expired⟩ := lived.expired timedOut
  refine ⟨expired.state, expired.exitCode, fun stream => ?_⟩
  have told : .task (.closed stream) ∈ c.incidents id ↔ g.isOpen stream = false := by
    simpa [expired.group] using lived.told.closed stream
  rw [told, expired.output stream, lived.heard.captured g expired.group stream,
    Bool.not_eq_false]
  cases g.isOpen stream with
  | true => simp [Capture.ofStream, Capture.completeLines_eq_linesOf_iff]
  | false => simp [Capture.ofStream, Capture.finish_ofBytes]

/-- A test writes something, and its time runs out before it has ended. -/
def overdue (bytes : List UInt8) : Course :=
  solo [.task 0 (.attached .started), .task 0 (.output .stdout bytes), .task 0 .timeUp,
    .task 0 .resumed, .task 0 (.process (.exited (-15))), .task 0 .resumed]

/-- Nothing is missing from what ends with a line feed. -/
theorem overdue_complete :
    ∃ a, (overdue [97, 10, 98, 10]).engine.attempts[0]? = some a ∧ a.job.timedOut ∧
      a.job.output .stdout =
        Capture.linesOf (Incident.received .stdout ((overdue [97, 10, 98, 10]).incidents 0)) := by
  obtain ⟨a, found, timedOut⟩ : ∃ a,
      (overdue [97, 10, 98, 10]).engine.attempts[0]? = some a ∧ a.job.timedOut :=
    ⟨_, rfl, by decide⟩
  obtain ⟨-, -, kept⟩ := timedOut_output _ _ _ _ 0 a found timedOut
  exact ⟨a, found, timedOut, (kept .stdout).2.mpr (.inr (by decide))⟩

/-- A last line that has no line feed yet when the time runs out is lost. -/
theorem overdue_cut :
    ∃ a, (overdue [97, 10, 98]).engine.attempts[0]? = some a ∧ a.job.timedOut ∧
      a.job.output .stdout = ["a"] ∧
      Capture.linesOf (Incident.received .stdout ((overdue [97, 10, 98]).incidents 0)) =
        ["a", "b"] :=
  ⟨_, rfl, by decide, by decide, by decide⟩

end Engine

end Proctor

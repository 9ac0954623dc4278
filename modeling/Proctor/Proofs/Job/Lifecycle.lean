import Proctor.Job.Call

/-!
# The life of a job

Every record that calls can bring about is well kept: what is known of a job agrees
with its state, field by field. The invariant is `WellKept`; one call preserves it, so
every list of calls does. A call is refused exactly when no step of the job's life
leads from its state to the target, and a refused call leaves the whole record alone.
-/

namespace Proctor.Job

variable {j : Job} {now : Moment} {c : Call}

/-- The job with all that a call writes. -/
def written (j : Job) (now : Moment) : Call → Job
  | .run directory => j.asRunning directory now
  | .complete exitCode stdout stderr timedOut errorMessage =>
    j.asCompleted { exitCode := .int exitCode, stdout, stderr, timedOut, errorMessage } now
  | .cancel => j.asCancelled now

/-- A call either writes all it has to, or it is refused and writes nothing. -/
theorem call_eq (j : Job) (now : Moment) (c : Call) :
    j.call now c =
      if j.state.allows c.target then (.ok (), j.written now c)
      else (.error (j.refusal c.target), j) := by
  cases c with
  | run directory => exact perform_running j directory now
  | complete => exact perform_completed j _ now
  | cancel => exact perform_cancelled j now

theorem call_of_allows (allowed : j.state.allows c.target) :
    j.call now c = (.ok (), j.written now c) := by
  rw [call_eq, if_pos allowed]

theorem call_of_not_allows (refused : ¬ j.state.allows c.target) :
    j.call now c = (.error (j.refusal c.target), j) := by
  rw [call_eq, if_neg refused]

theorem state_written (j : Job) (now : Moment) (c : Call) :
    (j.written now c).state = c.target := by
  cases c <;> rfl

/-! ## What a record says -/

/-- The fields of a job agree with its state, and those that only a completion writes
are as they were at first. -/
structure WellKept (first j : Job) : Prop where
  exitCode : j.exitCode ≠ .null ↔ j.isTerminal
  ended : j.ended.isSome ↔ j.isTerminal
  directory : j.directory.isSome ↔ j.state ≠ .created
  started : j.started.isSome ↔ j.state ≠ .created
  untouched : j.state ≠ .completed →
    j.stdout = first.stdout ∧ j.stderr = first.stderr ∧ j.timedOut = first.timedOut ∧
      j.errorMessage = first.errorMessage
  cancelled : j.state = .cancelled → j.exitCode = .int cancelledExitCode

/-- A job that was created and never asked for anything. -/
def fresh (command : List String) (test : TestInfo) (options : RunOptions) : Job :=
  { command, test, options }

theorem wellKept_fresh (command : List String) (test : TestInfo) (options : RunOptions) :
    WellKept (fresh command test options) (fresh command test options) where
  exitCode := by simp [fresh, isTerminal, JobState.isTerminal]
  ended := by simp [fresh, isTerminal, JobState.isTerminal]
  directory := by simp [fresh]
  started := by simp [fresh]
  untouched _ := ⟨rfl, rfl, rfl, rfl⟩
  cancelled := by simp [fresh]

/-- A job is running before it is completed or cancelled, so the fields that a call does
not write are still those of a running job. -/
theorem WellKept.written {first : Job} (kept : WellKept first j)
    (allowed : j.state.allows c.target) : WellKept first (j.written now c) := by
  cases c with
  | run directory =>
      have created : j.state = .created := by
        revert allowed
        cases j.state <;> simp [JobState.allows, Call.target]
      have open_ : ¬ j.isTerminal := by simp [isTerminal, created, JobState.isTerminal]
      refine ⟨?_, ?_, by simp [Job.written, asRunning], by simp [Job.written, asRunning],
        fun _ => kept.untouched (by simp [created]), by simp [Job.written, asRunning]⟩
      · simpa [Job.written, asRunning, isTerminal, JobState.isTerminal] using
          mt kept.exitCode.mp open_
      · simpa [Job.written, asRunning, isTerminal, JobState.isTerminal] using
          mt kept.ended.mp open_
  | complete =>
      have running : j.state = .running := by
        revert allowed
        cases j.state <;> simp [JobState.allows, Call.target]
      have hdirectory := kept.directory.mpr (by simp [running])
      have hstarted := kept.started.mpr (by simp [running])
      constructor <;>
        simp [Job.written, asCompleted, isTerminal, JobState.isTerminal, hdirectory, hstarted]
  | cancel =>
      have running : j.state = .running := by
        revert allowed
        cases j.state <;> simp [JobState.allows, Call.target]
      have hdirectory := kept.directory.mpr (by simp [running])
      have hstarted := kept.started.mpr (by simp [running])
      refine ⟨?_, ?_, ?_, ?_, fun _ => kept.untouched (by simp [running]), fun _ => rfl⟩ <;>
        simp [Job.written, asCancelled, isTerminal, JobState.isTerminal, hdirectory, hstarted]

theorem WellKept.call {first : Job} (kept : WellKept first j) (now : Moment) (c : Call) :
    WellKept first (j.call now c).2 := by
  by_cases allowed : j.state.allows c.target
  · rw [call_of_allows allowed]
    exact kept.written allowed
  · rw [call_of_not_allows allowed]
    exact kept

theorem WellKept.after {first : Job} (kept : WellKept first j)
    (calls : List (Moment × Call)) : WellKept first (j.after calls) := by
  induction calls generalizing j with
  | nil => exact kept
  | cons x rest ih => exact ih (kept.call x.1 x.2)

/-! ## Ways through a life -/

/-- The ways that a job can still go from a state, that state included. -/
def ways : JobState → List (List JobState)
  | .created => [[.created, .running, .completed], [.created, .running, .cancelled]]
  | .running => [[.running, .completed], [.running, .cancelled]]
  | .completed => [[.completed]]
  | .cancelled => [[.cancelled]]

/-- A step that is allowed goes one place further on one of the ways. -/
theorem ways_of_allows {s t : JobState} (allowed : s.allows t) {way : List JobState}
    (member : way ∈ ways t) : s :: way ∈ ways s := by
  revert member
  cases s <;> cases t <;> simp_all [JobState.allows, ways]

theorem singleton_prefix_ways (s : JobState) : ∃ way ∈ ways s, [s] <+: way := by
  cases s <;> simp [ways]

/-- The states passed through are the beginning of one of the ways: a refused call does
not move the job, and any other goes one place further. -/
theorem passed_prefix (j : Job) (calls : List (Moment × Call)) :
    ∃ way ∈ ways j.state, j.passed calls <+: way := by
  induction calls generalizing j with
  | nil => exact singleton_prefix_ways j.state
  | cons x rest ih =>
      by_cases allowed : j.state.allows x.2.target
      · obtain ⟨way, member, begins⟩ := ih (j.written x.1 x.2)
        rw [state_written] at member
        refine ⟨j.state :: way, ways_of_allows allowed member, ?_⟩
        have moves : j.state ≠ (j.written x.1 x.2).state := by
          rw [state_written]
          revert allowed
          cases j.state <;> cases x.2 <;> simp [JobState.allows, Call.target]
        have step : j.passed (x :: rest) = j.state :: (j.written x.1 x.2).passed rest := by
          simp only [passed, stages, call_of_allows allowed, List.map_cons,
            List.destutter_cons', List.destutter'_cons, if_pos moves]
        rw [step]
        exact List.cons_prefix_cons.mpr ⟨rfl, begins⟩
      · have stays : j.passed (x :: rest) = j.passed rest := by
          simp only [passed, stages, call_of_not_allows allowed, List.map_cons,
            List.destutter_cons', List.destutter'_cons, ne_eq, not_true_eq_false, if_false]
        rw [stays]
        exact ih j

/-- The life of a job, whatever is asked of it and in whatever order. The states it
passes through are the beginning of a way from creation to one of the two ends. At the
end of every list of calls the record is well kept. And the next call, whatever it is,
is refused exactly when the table of steps does not have it, and then leaves every
field of the record as it was. -/
theorem lifecycle (command : List String) (test : TestInfo) (options : RunOptions)
    (calls : List (Moment × Call)) :
    let first := fresh command test options
    let j := first.after calls
    (first.passed calls <+: [.created, .running, .completed] ∨
      first.passed calls <+: [.created, .running, .cancelled]) ∧
    (j.exitCode ≠ .null ↔ j.isTerminal) ∧
    (j.ended.isSome ↔ j.isTerminal) ∧
    (j.directory.isSome ↔ j.state ≠ .created) ∧
    (j.started.isSome ↔ j.state ≠ .created) ∧
    (j.state ≠ .completed →
      j.stdout = [] ∧ j.stderr = [] ∧ j.timedOut = false ∧ j.errorMessage = none) ∧
    (j.state = .cancelled → j.exitCode = .int (-1)) ∧
    ∀ now c,
      ((j.call now c).1 = .error (j.refusal c.target) ↔ ¬ j.state.allows c.target) ∧
      ((j.call now c).1 = .ok () ↔ j.state.allows c.target) ∧
      (¬ j.state.allows c.target → (j.call now c).2 = j) := by
  intro first j
  have kept : WellKept first j := (wellKept_fresh command test options).after calls
  refine ⟨?_, kept.exitCode, kept.ended, kept.directory, kept.started, kept.untouched,
    kept.cancelled, ?_⟩
  · obtain ⟨way, member, begins⟩ := passed_prefix first calls
    rcases List.mem_pair.mp member with rfl | rfl
    · exact .inl begins
    · exact .inr begins
  · intro now c
    by_cases allowed : j.state.allows c.target
    · simp [call_of_allows allowed, allowed]
    · simp [call_of_not_allows allowed, allowed]

end Proctor.Job

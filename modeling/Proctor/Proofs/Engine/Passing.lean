import Proctor.Proofs.Engine.Outcome
import Proctor.Verdict

/-!
# What passing means

Whether a job has passed is asked in three places: of its record, of the verdict that every
report shows, and of the exit code of the program. They look at different fields, and agree
only because of how an engine writes its records. `Job.Recorded` lists the ways in which a job
of an engine can be recorded; every job that has lived through something is recorded in one of
them, whatever state it is in, and in each of them the three answers are one.
-/

namespace Proctor

namespace Job

variable {ends : Int → Prop} {j : Job}

/-- How a job of an engine can be recorded, if processes end with some exit codes only. -/
inductive Recorded (ends : Int → Prop) (j : Job) : Prop
  /-- It has no outcome yet. -/
  | unfinished (open_ : ¬ j.isTerminal) (exitCode : j.exitCode = .null)
      (timedOut : j.timedOut = false) (errorMessage : j.errorMessage = none)
  | cancelled (said : j.Says .cancelled (-1) false none)
  /-- Its process has ended by itself. -/
  | exited {code : Int} (said : j.Says .completed code false none) (origin : ends code)
  /-- It could not be run, or not to its end, and the record says why. -/
  | excused {code : Int} {timedOut : Bool} {message : String}
      (said : j.Says .completed code timedOut (some message)) (code_eq : code = 124 ∨ code = 127)

theorem Follows.recorded {config : Config} {d : Decision} (follows : j.Follows config d)
    (origin : ∀ code, d = .exited code → ends code) : j.Recorded ends := by
  cases d with
  | stopped | revoked => exact .cancelled follows
  | notStarted why => exact .excused follows (.inr rfl)
  | timedOut => exact .excused follows (.inl rfl)
  | exited code => exact .exited follows (origin code rfl)
  | failed detail => exact .excused follows (.inr rfl)

/-! ## The record and the verdict -/

@[simp] theorem same_zero (code : Int) : (Value.int code).same (.int 0) = (code == 0) := by
  simp [Value.same, Value.fraction?]

theorem Says.succeeded_eq {state : JobState} {code : Int} {timedOut : Bool}
    {message : Option String} (said : j.Says state code timedOut message) :
    j.succeeded = (state == .completed && code == 0) := by
  rw [succeeded, said.state, said.exitCode, same_zero]

/-- The verdict on a job that was completed. -/
theorem Says.verdict_eq {code : Int} {timedOut : Bool} {message : Option String}
    (said : j.Says .completed code timedOut message) :
    Verdict.ofJob j =
      if timedOut then .timedOut (.int code)
      else if message.isSome then .couldNotRun (.int code)
      else if code == 0 then .passed else .failed (.int code) := by
  rw [Verdict.ofJob, said.state, said.exitCode, said.timedOut, said.errorMessage, same_zero]
  rfl

theorem couldNotRun_eq {state : JobState} {code : Int} {timedOut : Bool}
    {message : Option String} (said : j.Says state code timedOut message) :
    j.couldNotRun = (timedOut || message.isSome) := by
  rw [couldNotRun, said.timedOut, said.errorMessage]

theorem Recorded.verdict (recorded : j.Recorded ends) :
    (Verdict.ofJob j).isPass = j.succeeded ∧
      (Verdict.ofJob j).isSystemFailure = j.couldNotRun := by
  cases recorded with
  | unfinished open_ exitCode timedOut errorMessage =>
      have uncancelled : j.state ≠ .cancelled := by
        intro ended
        simp [isTerminal, ended, JobState.isTerminal] at open_
      have incomplete : j.state ≠ .completed := by
        intro ended
        simp [isTerminal, ended, JobState.isTerminal] at open_
      have failed : Verdict.ofJob j = .failed .null := by
        simp [Verdict.ofJob, uncancelled, exitCode, timedOut, errorMessage, Value.same,
          Value.fraction?]
      simp [failed, succeeded, couldNotRun, incomplete, timedOut, errorMessage, Verdict.isPass,
        Verdict.isSystemFailure]
  | cancelled said =>
      have cancelled : Verdict.ofJob j = .cancelled := by simp [Verdict.ofJob, said.state]
      rw [cancelled, said.succeeded_eq, couldNotRun_eq said]
      exact ⟨rfl, rfl⟩
  | @exited code said =>
      rw [said.verdict_eq, said.succeeded_eq, couldNotRun_eq said]
      by_cases zero : code = 0 <;> simp [zero, Verdict.isPass, Verdict.isSystemFailure]
  | @excused code timedOut message said code_eq =>
      have nonzero : (code == 0) = false := by
        rcases code_eq with rfl | rfl <;> rfl
      rw [said.verdict_eq, said.succeeded_eq, couldNotRun_eq said, nonzero]
      cases timedOut <;> simp [Verdict.isPass, Verdict.isSystemFailure]

/-! ## The exit code of the program -/

theorem failureCode_int (code : Int) :
    failureCode (.int code) = .ok (.int (if 0 < code then code else 1)) := by
  simp only [failureCode, Value.fraction?]
  split <;> rfl

/-- Whatever the exit code of a job, a failure never looks like success. -/
theorem failureCode_ne_zero (code : Value) : failureCode code ≠ .ok (.int 0) := by
  intro zero
  unfold failureCode at zero
  split at zero
  · cases zero
  · split at zero
    · rename_i numerator _ fraction
      split at zero
      · rename_i positive
        obtain rfl := Except.ok.inj zero
        obtain ⟨rfl, -⟩ := Prod.mk.inj (Option.some.inj fraction)
        exact absurd positive (by decide)
      · cases zero
    · cases zero

/-- A job that has not passed ends the program with its own exit code, if that is positive, and
else with one. -/
theorem Recorded.failureCode (recorded : j.Recorded ends) :
    ∃ n, Job.failureCode j.exitCode = .ok (.int n) ∧
      ((j.exitCode = .int n ∧ 0 < n ∧ (n = 124 ∨ n = 127 ∨ ends n)) ∨
        (n = 1 ∧ ∀ code, j.exitCode = .int code → code ≤ 0)) := by
  have own {code : Int} (exitCode : j.exitCode = .int code)
      (origin : code ≤ 0 ∨ code = 124 ∨ code = 127 ∨ ends code) :
      ∃ n, Job.failureCode j.exitCode = .ok (.int n) ∧
        ((j.exitCode = .int n ∧ 0 < n ∧ (n = 124 ∨ n = 127 ∨ ends n)) ∨
          (n = 1 ∧ ∀ code, j.exitCode = .int code → code ≤ 0)) := by
    refine ⟨_, exitCode ▸ failureCode_int code, ?_⟩
    by_cases positive : 0 < code
    · rw [if_pos positive]
      exact .inl ⟨exitCode, positive, origin.resolve_left (by omega)⟩
    · rw [if_neg positive]
      refine .inr ⟨rfl, fun code' same => ?_⟩
      obtain rfl : code = code' := Value.int.inj (exitCode.symm.trans same)
      omega
  cases recorded with
  | unfinished _ exitCode =>
      rw [exitCode]
      exact ⟨1, rfl, .inr ⟨rfl, nofun⟩⟩
  | cancelled said => exact own said.exitCode (.inl (by decide))
  | exited said origin => exact own said.exitCode (.inr (.inr (.inr origin)))
  | excused said code_eq =>
      exact own said.exitCode (.inr (code_eq.imp_right .inl))

/-- The first job that has not passed decides how the program ends. -/
theorem exitCodeFor_eq (jobs : List Job) :
    exitCodeFor jobs =
      match jobs.find? (!·.succeeded) with
      | none => .ok (.int 0)
      | some j => Job.failureCode j.exitCode := by
  induction jobs with
  | nil => rfl
  | cons j rest ih =>
      cases passed : j.succeeded with
      | true => simp [exitCodeFor, passed, ih]
      | false => simp [exitCodeFor, passed]

theorem exitCodeFor_recorded {jobs : List Job} (recorded : ∀ j ∈ jobs, j.Recorded ends) :
    ∃ n, exitCodeFor jobs = .ok (.int n) ∧ (n = 0 ↔ ∀ j ∈ jobs, j.succeeded) ∧
      (n = 0 ∨ n = 1 ∨ n = 124 ∨ n = 127 ∨ (0 < n ∧ ends n)) ∧
      ∀ j, jobs.find? (!·.succeeded) = some j →
        (j.exitCode = .int n ∧ 0 < n) ∨ (n = 1 ∧ ∀ code, j.exitCode = .int code → code ≤ 0) := by
  rw [exitCodeFor_eq]
  cases first : jobs.find? (!·.succeeded) with
  | none =>
      have passed : ∀ j ∈ jobs, j.succeeded := by
        simpa using List.find?_eq_none.mp first
      refine ⟨0, rfl, by simpa using passed, .inl rfl, ?_⟩
      rintro _ ⟨⟩
  | some j =>
      have member : j ∈ jobs := List.mem_of_find?_eq_some first
      have failed : j.succeeded = false := by simpa using List.find?_some first
      have notAll : ¬ ∀ j ∈ jobs, j.succeeded := by
        intro all
        simp [all j member] at failed
      obtain ⟨n, code, ⟨exitCode, positive, origin⟩ | ⟨rfl, nonpositive⟩⟩ :=
        (recorded j member).failureCode
      · refine ⟨n, code, iff_of_false (by omega) notAll, ?_, ?_⟩
        · exact .inr (.inr (origin.imp_right (Or.imp_right fun origin => ⟨positive, origin⟩)))
        · rintro _ ⟨⟩
          exact .inl ⟨exitCode, positive⟩
      · refine ⟨1, code, iff_of_false (by decide) notAll, .inr (.inl rfl), ?_⟩
        rintro _ ⟨⟩
        exact .inr ⟨rfl, nonpositive⟩

end Job

/-! ## Jobs of an engine -/

theorem Incident.mem_exitCodes {past : List Incident} {code : Int} :
    code ∈ exitCodes past ↔ .task (.process (.exited code)) ∈ past := by
  simp only [exitCodes, List.mem_filterMap]
  constructor
  · rintro ⟨x, mem, ended⟩
    split at ended
    · obtain rfl := Option.some.inj ended
      exact mem
    · cases ended
  · exact fun mem => ⟨_, mem, rfl⟩

namespace Attempt

variable {config : Config} {past : List Incident} {a : Attempt}

theorem Lived.exitCode_of_open (lived : Lived config past a) (open_ : ¬ a.job.isTerminal) :
    a.job.exitCode = .null := by
  induction lived with
  | created => rfl
  | changed lived change ih =>
      obtain ⟨before, same | ⟨directory, same⟩⟩ := change.of_open lived open_
      · rw [same, ih before]
      · rw [same]
        exact ih before

/-- Whatever an attempt has lived through, its job is recorded in one of the ways. -/
theorem Lived.recorded {ends : Int → Prop} (lived : Lived config past a)
    (origin : ∀ code ∈ Incident.exitCodes past, ends code) : a.job.Recorded ends := by
  by_cases terminal : a.job.isTerminal
  · obtain ⟨decision, decided, follows⟩ := lived.follows terminal
    apply follows.recorded
    rintro code rfl
    cases decided with
    | exited _ _ _ ended => exact origin code ended
  · obtain ⟨timedOut, errorMessage⟩ := lived.fated.clean terminal
    exact .unfinished terminal (lived.exitCode_of_open terminal) timedOut errorMessage

end Attempt

namespace Course

theorem mem_incidents {c : Course} {id : Nat} {x : Incident} :
    x ∈ c.incidents id ↔ (id, x) ∈ c.past := by
  simp only [incidents, List.mem_filterMap, Option.ite_none_right_eq_some, Option.some.injEq]
  constructor
  · rintro ⟨⟨_, _⟩, mem, rfl, rfl⟩
    exact mem
  · exact fun mem => ⟨_, mem, rfl, rfl⟩

/-- What is kept of the past has happened. -/
theorem mem_past_play {c : Course} {events : List (Moment × Engine.Event)}
    {x : Nat × Incident} (mem : x ∈ (c.play events).past) :
    x ∈ c.past ∨ ∃ y ∈ events, y.2.incident? = some x := by
  induction events generalizing c with
  | nil => exact .inl mem
  | cons y rest ih =>
      obtain before | ⟨z, later, isIt⟩ := ih (c := c.step y.1 y.2) mem
      · cases happens : c.engine.step? y.1 y.2 with
        | none =>
            rw [step_of_none happens] at before
            exact .inl before
        | some e' =>
            rw [step_of_some happens] at before
            obtain now_ | before := List.mem_append.mp before
            · exact .inr ⟨y, List.mem_cons_self, Option.mem_toList.mp now_⟩
            · exact .inl before
      · exact .inr ⟨z, List.mem_cons_of_mem y later, isIt⟩

end Course

namespace Engine

/-- The processes of these events end with exit codes of a range. -/
def ExitsWithin (low high : Int) (events : List (Moment × Event)) : Prop :=
  ∀ now id code, (now, .task id (.process (.exited code))) ∈ events → low ≤ code ∧ code ≤ high

variable {config : Config} {width : Nat} {sinks : String → Nat → Except Error (Job → Report)}
  {events : List (Moment × Event)} {j : Job}

theorem recorded_of_mem_jobs {ends : Int → Prop}
    (mem : j ∈ ((fresh config width sinks).play events).jobs)
    (origin : ∀ now id code, (now, .task id (.process (.exited code))) ∈ events → ends code) :
    j.Recorded ends := by
  let c := (fresh config width sinks).course events
  have same : c.engine = (fresh config width sinks).play events :=
    Course.engine_play ⟨fresh config width sinks, []⟩ events
  rw [← same] at mem
  obtain ⟨a, held, rfl⟩ := List.mem_map.mp mem
  obtain ⟨id, found⟩ := List.mem_iff_getElem?.mp held
  refine ((Course.faithful config width sinks events).lived id a found).recorded ?_
  intro code ended
  have kept : (id, .task (.process (.exited code))) ∈ c.past :=
    Course.mem_incidents.mp (Incident.mem_exitCodes.mp ended)
  obtain never | ⟨⟨now, event⟩, happened, isIt⟩ := Course.mem_past_play kept
  · cases never
  · have same : event = .task id (.process (.exited code)) := by
      cases event <;> simp_all [Event.incident?]
    exact origin now id code (same ▸ happened)

/-- There is one notion of passing. Of every job that an engine has, at any moment and
whatever has happened before, the record and the verdict say the same about whether it has
passed and whether it could be run, and the exit code for it alone is zero exactly if it has
passed. For some such jobs together, whose processes have ended with exit codes between -64 and
255, there is an exit code of the program: zero exactly if all have passed, and else between 1
and 255. It is then that of the first job that has not passed, or one if that is not positive. -/
theorem one_notion_of_passing :
    (∀ (config : Config) (width : Nat) (sinks : String → Nat → Except Error (Job → Report))
        (events : List (Moment × Event)), ∀ j ∈ ((fresh config width sinks).play events).jobs,
      (Verdict.ofJob j).isPass = j.succeeded ∧
      (∃ n, Job.exitCodeFor [j] = .ok (.int n) ∧ (n = 0 ↔ j.succeeded)) ∧
      (Verdict.ofJob j).isSystemFailure = j.couldNotRun) ∧
    ∀ jobs : List Job,
      (∀ j ∈ jobs, ∃ config width sinks events, ExitsWithin (-64) 255 events ∧
        j ∈ ((fresh config width sinks).play events).jobs) →
      ∃ n, Job.exitCodeFor jobs = .ok (.int n) ∧ (n = 0 ↔ ∀ j ∈ jobs, j.succeeded) ∧
        (n ≠ 0 → 1 ≤ n ∧ n ≤ 255) ∧
        ∀ j, jobs.find? (!·.succeeded) = some j →
          (j.exitCode = .int n ∧ 0 < n) ∨
            (n = 1 ∧ ∀ code, j.exitCode = .int code → code ≤ 0) := by
  constructor
  · intro config width sinks events j mem
    have recorded : j.Recorded fun _ => True := recorded_of_mem_jobs mem fun _ _ _ _ => trivial
    obtain ⟨isPass, isSystemFailure⟩ := recorded.verdict
    have alone : ∀ k ∈ [j], k.Recorded fun _ => True := by simpa using recorded
    obtain ⟨n, code, zero, -⟩ := Job.exitCodeFor_recorded alone
    exact ⟨isPass, ⟨n, code, by simpa using zero⟩, isSystemFailure⟩
  · intro jobs reached
    have recorded : ∀ j ∈ jobs, j.Recorded fun code => -64 ≤ code ∧ code ≤ 255 := by
      intro j mem
      obtain ⟨config, width, sinks, events, within, held⟩ := reached j mem
      exact recorded_of_mem_jobs held within
    obtain ⟨n, code, zero, range, own⟩ := Job.exitCodeFor_recorded recorded
    exact ⟨n, code, zero, by omega, own⟩

/-- Two tests are run: the process of the first ends with exit code zero, that of the second
with another one. -/
def mixed (code : Int) : List (Moment × Event) :=
  let test : TestInfo := { name := none, file := Path.here, line := 1 }
  let tree : FileTree := { top := .directory [], current := Path.here }
  let job (id : Nat) (code : Int) : List Event :=
    [.create ["sh"] test { directory := some "current" }, .run tree {} true id,
      .task id (.begin .started), .task id (.attached .started), .task id (.closed .stdout),
      .task id (.closed .stderr), .task id (.process (.exited code)), .task id .resumed,
      .settle id]
  (job 0 0 ++ job 1 code).map fun event => (⟨0, 1⟩, event)

/-- The jobs of these tests, as an engine has them in the end. -/
def mixedJobs (code : Int) : List Job :=
  ((fresh { languages := [] } 80 Report.sinkFor).play (mixed code)).jobs

/-- The exit code is that of the second test, and one if a signal has ended its process. -/
theorem one_notion_of_passing_mixed :
    (∀ j ∈ mixedJobs 3, (Verdict.ofJob j).isPass = j.succeeded) ∧
    Job.exitCodeFor (mixedJobs 3) = .ok (.int 3) ∧
    Job.exitCodeFor (mixedJobs (-9)) = .ok (.int 1) := by
  have within (code : Int) (range : -64 ≤ code ∧ code ≤ 255) :
      ExitsWithin (-64) 255 (mixed code) := by
    intro now id code' happened
    simp [mixed] at happened
    obtain ⟨-, -, rfl⟩ | ⟨-, -, rfl⟩ := happened <;> omega
  have reached (code : Int) (range : -64 ≤ code ∧ code ≤ 255) : ∀ j ∈ mixedJobs code,
      ∃ config width sinks events, ExitsWithin (-64) 255 events ∧
        j ∈ ((fresh config width sinks).play events).jobs :=
    fun j mem => ⟨_, _, _, mixed code, within code range, mem⟩
  obtain ⟨j, found, exitCode⟩ : ∃ j, (mixedJobs 3).find? (!·.succeeded) = some j ∧
      j.exitCode = .int 3 := ⟨_, rfl, rfl⟩
  obtain ⟨k, found', exitCode'⟩ : ∃ j, (mixedJobs (-9)).find? (!·.succeeded) = some j ∧
      j.exitCode = .int (-9) := ⟨_, rfl, rfl⟩
  obtain ⟨n, code, -, -, which⟩ := one_notion_of_passing.2 _ (reached 3 (by decide))
  obtain ⟨m, code', -, -, which'⟩ := one_notion_of_passing.2 _ (reached (-9) (by decide))
  refine ⟨fun j mem => (one_notion_of_passing.1 _ _ _ _ j mem).1, ?_, ?_⟩
  · obtain ⟨own, -⟩ | ⟨-, nonpositive⟩ := which j found
    · rw [code, ← own, exitCode]
    · exact absurd (nonpositive 3 exitCode) (by decide)
  · obtain ⟨own, positive⟩ | ⟨rfl, -⟩ := which' k found'
    · obtain rfl : m = -9 := Value.int.inj (own.symm.trans exitCode')
      exact absurd positive (by decide)
    · exact code'

end Engine

end Proctor

import Proctor.Proofs.Engine.Life
import Proctor.Proofs.Report

/-!
# Reports on delivered jobs

What is delivered is the report on the job, made in the way that was asked for. So whether it
is complete is a matter of the job alone, and the theorem on reports says for which jobs it
is not.
-/

namespace Proctor.Engine

open Layout (EmojiTable Markup)

variable {now : Moment} {e e' : Engine} {event : Event} {config : Config} {width : Nat}
  {sinks : String → Nat → Except Error (Job → Report)}

/-- An event changes neither the width nor the ways of reporting. -/
theorem Steps.console (step : e.Steps now event e') : e'.width = e.width ∧ e'.sinks = e.sinks := by
  cases step <;> exact ⟨rfl, rfl⟩

/-- An event delivers one job at most, with its report. -/
theorem Steps.delivers (step : e.Steps now event e') :
    e'.deliveries = e.deliveries ∨ ∃ id j, e'.deliveries = e.deliveries ++ [e.deliveryOf id j] := by
  cases step with
  | settle => exact .inr ⟨_, _, rfl⟩
  | _ => exact .inl rfl

/-- Every delivery holds the report that its job gets on the console. -/
structure Reported (width : Nat) (sinks : String → Nat → Except Error (Job → Report))
    (e : Engine) : Prop where
  width_eq : e.width = width
  sinks_eq : e.sinks = sinks
  reports : ∀ d ∈ e.deliveries, d.report = (sinks d.mode width).map fun sink => sink d.record

theorem Reported.step (reported : e.Reported width sinks) (step : e.Steps now event e') :
    e'.Reported width sinks := by
  obtain ⟨width_eq, sinks_eq⟩ := step.console
  refine ⟨width_eq.trans reported.width_eq, sinks_eq.trans reported.sinks_eq, fun d delivered => ?_⟩
  obtain same | ⟨id, j, more⟩ := step.delivers
  · exact reported.reports d (same ▸ delivered)
  · rw [more, List.mem_append, List.mem_singleton] at delivered
    obtain before | rfl := delivered
    · exact reported.reports d before
    · rw [← reported.width_eq, ← reported.sinks_eq]
      rfl

theorem reported_play (events : List (Moment × Event)) :
    ((fresh config width sinks).play events).Reported width sinks := by
  rw [← Course.engine_play ⟨fresh config width sinks, []⟩ events]
  refine Course.play_induct (P := fun c => c.engine.Reported width sinks)
    (fun _ _ _ _ reported step => reported.step step) ?_ events
  exact ⟨rfl, rfl, List.forall_mem_nil _⟩

/-- A report breaks off exactly if one of the texts that it reads as markup is refused, or if it
reads a number that is too long, which comes first. It breaks off where the first bracket of
such a text is that of a tag that closes; it is complete if no such text has a slash right
behind a bracket and no number is too long. One that breaks off has printed no captured line;
one that is complete has printed all of them. And whatever happens to an engine, what it
delivers is this report on the job as it was recorded. -/
theorem report_breaks_off_iff [EmojiTable] [Markup] (mode : OutputMode) (width : Nat) (j : Job) :
    let report := Report.ofJob mode width j
    (∀ why, report.failure = some why ↔ Report.Flaw j mode why) ∧
    (¬ Report.LongNumber j mode → ∀ s, Report.Marked j mode s → Layout.ClosesFirst s →
      report.failure = some .noMarkup) ∧
    (¬ Report.LongNumber j mode →
      (∀ s, Report.Marked j mode s → ¬ ['[', '/'] <:+: s.toList) → report.failure = none) ∧
    (∀ why, report.failure = some why → report.lines <+: Report.heading width j) ∧
    (report.failure = none → mode ≠ .floating → Report.transcript width j <:+: report.lines) ∧
    ∀ (config : Config) (events : List (Moment × Event)),
      ∀ d ∈ ((fresh config width Report.sinkFor).play events).deliveries,
        d.record = j → Report.modeOf d.mode = .ok mode → d.report = .ok report := by
  intro report
  refine ⟨fun _ => Report.failure_ofJob, fun readable _ => Report.failure_of_closesFirst readable,
    Report.failure_eq_none, fun _ => Report.lines_of_failure, Report.transcript_of_complete, ?_⟩
  rintro config events d delivered rfl asked
  rw [(reported_play events).reports d delivered, Report.sinkFor, asked]
  rfl

/-- A test is run whose command has one more word. It passes, and is reported with its
transcript. -/
def spoken (word : String) : List (Moment × Event) :=
  let test : TestInfo := { name := none, file := Path.here, line := 1 }
  let tree : FileTree := { top := .directory [], current := Path.here }
  let options : RunOptions := { directory := some "current", output := some "terminal" }
  let events : List Event :=
    [.create ["true", word] test options, .run tree {} true 0, .task 0 (.begin .started),
      .task 0 (.attached .started), .task 0 (.closed .stdout), .task 0 (.closed .stderr),
      .task 0 (.process (.exited 0)), .task 0 .resumed, .settle 0]
  events.map fun event => (⟨0, 1⟩, event)

/-- The engine after that. -/
def spokenTo (word : String) : Engine :=
  (fresh { languages := [] } 80 Report.sinkFor).play (spoken word)

theorem modeOf_terminal : Report.modeOf "terminal" = .ok .terminal := by
  have named : OutputMode.named? (Text.lower "terminal") = some .terminal := by decide +kernel
  rw [Report.modeOf, named]

/-- A word in brackets that opens a tag does no harm. One that closes a tag ends the report
before a captured line is printed. -/
theorem report_breaks_off_iff_spoken :
    (∃ d ∈ (spokenTo "[code]").deliveries, ∃ r, d.report = .ok r ∧ r.failure = none) ∧
    ∃ d ∈ (spokenTo "[/code]").deliveries, ∃ r, d.report = .ok r ∧
      r.failure = some .noMarkup ∧ r.lines <+: Report.heading 80 d.record := by
  constructor
  · obtain ⟨d, delivered, mode, command⟩ : ∃ d ∈ (spokenTo "[code]").deliveries,
        d.mode = "terminal" ∧ d.record.command = ["true", "[code]"] := by decide +kernel
    obtain ⟨-, -, complete, -, -, reports⟩ := report_breaks_off_iff .terminal 80 d.record
    refine ⟨d, delivered, _, reports _ _ d delivered rfl (mode ▸ modeOf_terminal), ?_⟩
    refine complete (by simp [Report.LongNumber]) ?_
    rintro s ⟨⟩
    rw [command]
    decide +kernel
  · obtain ⟨d, delivered, mode, command⟩ : ∃ d ∈ (spokenTo "[/code]").deliveries,
        d.mode = "terminal" ∧ d.record.command = ["true", "[/code]"] := by decide +kernel
    obtain ⟨-, breaks, -, printed, -, reports⟩ := report_breaks_off_iff .terminal 80 d.record
    have closes : Layout.ClosesFirst ("$ " ++ " ".intercalate d.record.command) := by
      rw [command]
      exact ⟨"$ true ".toList, "code".toList, [], by decide +kernel⟩
    have failed := breaks (by simp [Report.LongNumber]) _ .command closes
    exact ⟨d, delivered, _, reports _ _ d delivered rfl (mode ▸ modeOf_terminal), failed,
      printed _ failed⟩

/-- The job of such a test has passed, and the report on it breaks off. -/
theorem not_report_complete :
    ¬ ∀ (config : Config) (width : Nat) (events : List (Moment × Event)),
      ∀ j ∈ ((fresh config width Report.sinkFor).play events).jobs, j.isTerminal →
        ∀ mode, (Report.ofJob mode width j).failure = none := by
  intro complete
  have broken : ∃ j ∈ (spokenTo "[/code]").jobs, j.isTerminal ∧
      (Report.ofJob .terminal 80 j).failure.isSome := by
    decide +kernel
  obtain ⟨j, mem, terminal, failed⟩ := broken
  rw [complete _ _ _ j mem terminal .terminal] at failed
  cases failed

end Proctor.Engine

import Proctor.Proofs.Engine.Delivery
import Proctor.Proofs.WorkingDirectory

/-!
# A dispatch is made or refused as a whole

Whatever has happened to an engine, a dispatch of one of its jobs is refused by the first of
three checks that fails, or because there is no directory to run the job in. A dispatch that
is refused changes nothing. One that is not refused adds one task to those that are not over:
the job has not been dispatched before, so it does not stand in the table yet.
-/

namespace Proctor.Engine

variable {e : Engine} {id : Nat} {a : Attempt} {now : Moment}

/-- After a dispatch one more task is not over. -/
theorem activeCount_dispatched (found : e.attempts[id]? = some a) (unlisted : id ∉ e.table)
    (j : Job) (directory : Path) :
    (e.dispatched now id j directory).activeCount = e.activeCount + 1 := by
  have inside : id < e.attempts.length := (List.getElem?_eq_some_iff.mp found).1
  have others : ∀ other ∈ e.table,
      (e.dispatched now id j directory).task? other = e.task? other := by
    intro other listed
    have apart : id ≠ other := fun same => unlisted (same ▸ listed)
    simp [task?, dispatched, setAttempt, say, apart]
  have own : (e.dispatched now id j directory).task? id = some .fresh := by
    simp [task?, dispatched, setAttempt, say, inside]
  have table : (e.dispatched now id j directory).table = e.table ++ [id] := rfl
  have same : e.table.filter
      (fun other => ((e.dispatched now id j directory).task? other).any (!·.isOver)) =
      e.table.filter (fun other => (e.task? other).any (!·.isOver)) :=
    List.filter_congr fun other listed => by rw [others other listed]
  rw [activeCount, activeCount, table, List.filter_append, same, List.length_append]
  simp [own, Task.fresh, Task.isOver, Phase.isOver]

/-- A job that has not been dispatched does not stand in the table. -/
theorem not_mem_table_of_created {config : Config} {width : Nat}
    {sinks : String → Nat → Except Error (Job → Report)} {events : List (Moment × Event)}
    (found : ((fresh config width sinks).play events).attempts[id]? = some a)
    (created : a.job.state = .created) : id ∉ ((fresh config width sinks).play events).table := by
  have played := Course.engine_play ⟨fresh config width sinks, []⟩ events
  change ((fresh config width sinks).course events).engine = _ at played
  rw [← played] at found ⊢
  have faithful := Course.faithful config width sinks events
  rw [(Course.balanced config width sinks events).table]
  simp [((faithful.lived id a found).stage.of_created created).2.2]

/-- Whatever has happened to an engine, and whatever job of it is going to be dispatched: the
dispatch is refused for the state of the job exactly when the job is not as it was created;
otherwise for want of a loop exactly when there is none; otherwise as misconfigured exactly when
there is no rule of the name that counts for its directory. A refused dispatch, whatever it is
refused for, leaves the engine as it was. Otherwise, when there is a directory, the job is
running in that directory, nothing else about it has changed, and one more task is not over. -/
theorem dispatch_outcome (config : Config) (width : Nat)
    (sinks : String → Nat → Except Error (Job → Report)) (events : List (Moment × Event))
    (tree : FileTree) (registry : Registry) (hasLoop : Bool) (now : Moment) (id : Nat)
    {a : Attempt} (found : ((fresh config width sinks).play events).attempts[id]? = some a) :
    let e := (fresh config width sinks).play events
    let answer := (e.serve (.dispatch tree registry hasLoop now id)).1
    let after := (e.serve (.dispatch tree registry hasLoop now id)).2
    ((∃ step, answer = .error (.illegalStep step)) ↔ a.job.state ≠ .created) ∧
    (a.job.state = .created → (answer = .error .noLoop ↔ hasLoop = false)) ∧
    (a.job.state = .created → hasLoop = true →
      ((∃ why, answer = .error why ∧ why.isConfiguration = true) ↔
        WorkingDirectory.ruleName e.config.directory a.job.options.directory ∉
          DirectoryRule.names)) ∧
    (∀ why, answer = .error why → after = e) ∧
    (∀ directory, a.job.state = .created → hasLoop = true →
      WorkingDirectory.resolve tree registry e.config.directory a.job.test
          a.job.options.directory = .ok directory →
      answer = .ok () ∧
        (∃ b, after.attempts[id]? = some b ∧
          b.job = { a.job with
            state := .running, directory := some directory, started := some now }) ∧
        after.activeCount = e.activeCount + 1) := by
  intro e answer after
  have served : e.serve (.dispatch tree registry hasLoop now id) = _ :=
    Request.serve_dispatch tree registry hasLoop found
  by_cases created : a.job.state = .created
  case neg =>
    rw [if_pos created] at served
    simp [answer, after, e, served, created]
  rw [if_neg (not_not.mpr created)] at served
  cases hasLoop with
  | false =>
    simp only [if_true] at served
    simp [answer, after, e, served, created]
  | true =>
    simp only [Bool.true_eq_false, if_false] at served
    cases resolved : WorkingDirectory.resolve tree registry e.config.directory a.job.test
        a.job.options.directory with
    | error why =>
      rw [resolved] at served
      have unresolved := WorkingDirectory.resolve_error resolved
      obtain ⟨unknown, rfl⟩ | ⟨known, rfl⟩ := unresolved
      · simp [answer, after, e, served, created, unknown, Error.isConfiguration]
      · simp [answer, after, e, served, created, known, Error.isConfiguration]
    | ok directory =>
      rw [resolved] at served
      have known : WorkingDirectory.ruleName e.config.directory a.job.options.directory ∈
          DirectoryRule.names := by
        by_contra unknown
        obtain ⟨why, failed⟩ := WorkingDirectory.exists_resolve_error unknown
        cases failed.symm.trans resolved
      have unlisted : id ∉ e.table := not_mem_table_of_created found created
      have granted : answer = .ok () := congrArg Prod.fst served
      have changed : after = e.dispatched now id a.job directory := congrArg Prod.snd served
      refine ⟨by simp [granted, created], by simp [granted], by simp [granted, known],
        by simp [granted], fun other _ _ same => ?_⟩
      obtain rfl : directory = other := Except.ok.inj same
      rw [changed]
      exact ⟨granted, ⟨_, attempts_setAttempt found _, rfl⟩,
        activeCount_dispatched found unlisted a.job directory⟩

/-! A job that names the rule for its directory itself, and has not been dispatched. -/

def suiteTest : TestInfo :=
  { name := some "TestSum", file := .parse "/work/sum_test.go", line := 3, language := "go" }

def creation (rule : String) : List (Moment × Event) :=
  [(⟨0, 1⟩, .create ["go", "test"] suiteTest { directory := some rule })]

/-- It is refused under a rule that there is not, and for want of a loop, and otherwise runs in
the directory of its file. -/
theorem dispatch_outcome_creation :
    let e (rule : String) := (fresh { languages := [] } 80 Report.sinkFor).play (creation rule)
    let request (hasLoop : Bool) :=
      Request.dispatch ⟨.directory [], Path.here⟩ ⟨[]⟩ hasLoop ⟨7, 1⟩ 0
    (∃ why, ((e "nowhere").serve (request true)).1 = .error why ∧ why.isConfiguration = true) ∧
      ((e "file_dir").serve (request false)).2 = e "file_dir" ∧
      ((e "file_dir").serve (request true)).2.activeCount = (e "file_dir").activeCount + 1 := by
  intro e request
  have outcome (rule : String) (hasLoop : Bool) :=
    dispatch_outcome { languages := [] } 80 Report.sinkFor (creation rule)
      ⟨.directory [], Path.here⟩ ⟨[]⟩ hasLoop ⟨7, 1⟩ 0 rfl
  obtain ⟨-, -, misconfigured, -, -⟩ := outcome "nowhere" true
  obtain ⟨-, looped, -, unchanged, -⟩ := outcome "file_dir" false
  obtain ⟨-, -, -, -, runs⟩ := outcome "file_dir" true
  exact ⟨(misconfigured rfl rfl).mpr (by decide), unchanged _ ((looped rfl).mpr rfl),
    (runs ⟨.slash, ["work"]⟩ rfl rfl rfl).2.2⟩

end Proctor.Engine

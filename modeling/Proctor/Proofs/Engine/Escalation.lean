import Proctor.Proofs.Engine.Past

/-!
# What becomes of the processes of a job

A task that makes the processes of its job end asks the whole group to terminate, waits
for the first process for as long as the group has for it, and then kills the group. It
does not get that far if the first process ends before, whether or not the others do,
or if a cancellation reaches the task meanwhile. So the group is killed, or gone, once
the task is over, exactly if it is gone anyhow or its time for terminating has run out.

`Attempt.Escalated` is the invariant: a group is killed when its time runs out and at no
other moment, and a task that has ended before has either been cancelled or seen the end
of the first process.
-/

namespace Proctor

/-- What has happened last to the task of a job, the doings of the processes aside. -/
def Incident.lastTurn? (past : List Incident) : Option TaskEvent :=
  past.findSome? fun
    | .task (.process _) => none
    | .task event => some event
    | _ => none

namespace Group

/-- All processes have ended, or the group has been killed. -/
def Finished (g : Group) : Prop := g.isGone ∨ .kill ∈ g.signals

instance (g : Group) : Decidable g.Finished := inferInstanceAs (Decidable (_ ∨ _))

theorem kill_mem_signal {g : Group} {s : Signal} (killed : .kill ∈ (g.signal s).signals) :
    s = .kill ∨ .kill ∈ g.signals := by
  unfold signal at killed
  split at killed
  · exact .inr killed
  · exact (List.mem_cons.mp killed).imp_left Eq.symm

theorem finished_signal_kill (g : Group) : (g.signal .kill).Finished := by
  unfold signal
  split
  case isTrue gone => exact .inl gone
  case isFalse => exact .inr List.mem_cons_self

theorem Finished.signal {g : Group} (finished : g.Finished) (s : Signal) :
    (g.signal s).Finished := by
  unfold Group.signal
  split
  · exact finished
  · exact finished.imp_right (List.mem_cons_of_mem s)

theorem Finished.write {g : Group} (finished : g.Finished) (bytes : List UInt8)
    (stream : Stream) : (g.write bytes stream).Finished := by
  cases stream <;> exact finished

theorem Finished.close {g : Group} (finished : g.Finished) (stream : Stream) :
    (g.close stream).Finished := by
  cases stream <;> exact finished

/-- Processes that have all ended do nothing. -/
theorem after?_of_isGone {g : Group} (gone : g.isGone) (event : ProcessEvent) :
    g.after? event = none := by
  have parts : g.exitCode.isSome ∧ g.others = 0 := by simpa [isGone] using gone
  cases event <;> simp [after?, gone, parts]

theorem signals_after? {g g' : Group} {event : ProcessEvent}
    (done : g.after? event = some g') : g'.signals = g.signals := by
  cases event <;> simp only [after?, Option.ite_none_left_eq_some, Option.some.injEq] at done <;>
    obtain ⟨-, rfl⟩ := done <;> rfl

theorem Finished.after? {g g' : Group} {event : ProcessEvent} (finished : g.Finished)
    (done : g.after? event = some g') : g'.Finished := by
  obtain gone | killed := finished
  · simp [after?_of_isGone gone] at done
  · exact .inr (signals_after? done ▸ killed)

end Group

namespace Attempt

variable {now : Moment} {config : Config} {past : List Incident} {a b : Attempt}

/-- A group is killed only when its time for terminating has run out. -/
theorem Touches.graceOver_of_kill {event : TaskEvent} {g' : Group} (h : Touches a b event)
    (group' : b.group = some g') (killed : .kill ∈ g'.signals) :
    event = .graceOver ∨ ∃ g, a.group = some g ∧ .kill ∈ g.signals := by
  have same {g g'' : Group} (group : a.group = some g) (group'' : b.group = some g'')
      (signals : g''.signals = g.signals) : ∃ g, a.group = some g ∧ .kill ∈ g.signals := by
    obtain rfl : g'' = g' := Option.some.inj (group''.symm.trans group')
    exact ⟨g, group, signals ▸ killed⟩
  cases h with
  | aside _ unchanged => exact .inr ⟨g', unchanged ▸ group', killed⟩
  | started _ _ group'' =>
      obtain rfl := Option.some.inj (group''.symm.trans group')
      simp at killed
  | process group done group'' => exact .inr (same group group'' (Group.signals_after? done))
  | @output _ stream _ group group'' => exact .inr (same group group'' (by cases stream <;> rfl))
  | @closed _ stream group group'' => exact .inr (same group group'' (by cases stream <;> rfl))
  | signalled _ spared group group'' =>
      obtain rfl := Option.some.inj (group''.symm.trans group')
      exact .inr ⟨_, group, (Group.kill_mem_signal killed).resolve_left spared⟩
  | killed => exact .inl rfl

/-- When the time of a group for terminating has run out, it is finished and stays so. -/
theorem Touches.finished {event : TaskEvent} (h : Touches a b event)
    (unstarted : (∀ place, a.phase? = some place → place = .pending) → a.group = none)
    (before : event = .graceOver ∨ ∃ g, a.group = some g ∧ g.Finished) :
    ∃ g', b.group = some g' ∧ g'.Finished := by
  have finished {g : Group} (other : event ≠ .graceOver) (group : a.group = some g) :
      g.Finished := by
    obtain ⟨g₀, group₀, finished⟩ := before.resolve_left other
    obtain rfl : g₀ = g := Option.some.inj (group₀.symm.trans group)
    exact finished
  cases h with
  | aside quiet same =>
      rw [same]
      refine before.resolve_left ?_
      rintro rfl
      cases quiet
  | started task place =>
      have none_ : a.group = none := unstarted (by simp [phase?, task, place])
      simp [none_] at before
  | process group done group' => exact ⟨_, group', (finished (by simp) group).after? done⟩
  | output group group' => exact ⟨_, group', (finished (by simp) group).write ..⟩
  | closed group group' => exact ⟨_, group', (finished (by simp) group).close _⟩
  | signalled quiet _ group group' =>
      refine ⟨_, group', (finished ?_ group).signal _⟩
      rintro rfl
      cases quiet
  | killed group group' => exact ⟨_, group', Group.finished_signal_kill _⟩

/-- What is known of every attempt, as to its processes. -/
structure Escalated (past : List Incident) (a : Attempt) : Prop where
  killed : ∀ g, a.group = some g → .kill ∈ g.signals → .task .graceOver ∈ past
  finished : .task .graceOver ∈ past → ∃ g, a.group = some g ∧ g.Finished
  cut : ∀ g ending, a.group = some g → a.phase? = some (.ended ending) →
    .task .graceOver ∈ past ∨ Incident.lastTurn? past = some .cancelled ∨ g.exitCode.isSome

theorem isSome_exitCode_of_isGone {g : Group} (gone : g.isGone) : g.exitCode.isSome := by
  unfold Group.isGone at gone
  exact (Bool.and_eq_true_iff.mp gone).1

/-- An attempt to start a process is given up at once only if the first process has
ended. -/
theorem drop_cut {t : Task} {g g' : Group} {why : Option Setback} {ending : Ending}
    (group : a.group = some g) (group' : (a.drop now t g why).attempt.group = some g')
    (phase : (a.drop now t g why).attempt.phase? = some (.ended ending)) :
    g'.exitCode.isSome := by
  rw [drop_group why group, Option.some.injEq] at group'
  subst group'
  split
  case isTrue ended => exact ended
  case isFalse running =>
    simp [drop, running, phase?, enter, Task.enter] at phase

/-- A group is not asked to terminate only if it is gone. -/
theorem terminate_cut {t : Task} {g g' : Group} {cause : Cause} {ending : Ending}
    (group : a.group = some g)
    (group' : (a.terminate now config t g cause).attempt.group = some g')
    (phase : (a.terminate now config t g cause).attempt.phase? = some (.ended ending)) :
    g'.exitCode.isSome := by
  rw [terminate_group cause group, Option.some.injEq] at group'
  subst group'
  rw [Group.signal_exitCode]
  by_cases gone : g.isGone
  · exact isSome_exitCode_of_isGone gone
  · simp [terminate, gone, phase?, enter, Task.enter] at phase

/-- A task that ends has waited for its group for as long as it had to, or it has been
cancelled, or it knows that the first process has ended. -/
theorem Reacts.cut {event : TaskEvent} {g' : Group} {ending : Ending} (told : Told past a)
    (escalated : Escalated past a) (h : a.Reacts now config event b)
    (group' : b.group = some g') (phase : b.phase? = some (.ended ending)) :
    .task .graceOver ∈ Incident.task event :: past ∨
      Incident.lastTurn? (.task event :: past) = some .cancelled ∨ g'.exitCode.isSome := by
  have known {g : Group} (group : a.group = some g) (same : b.group = a.group)
      (ended : g.exitCode.isSome) : g'.exitCode.isSome := by
    obtain rfl : g = g' := Option.some.inj (group.symm.trans (same.symm.trans group'))
    exact ended
  cases h with
  | process group done =>
      obtain rfl := Option.some.inj group'
      obtain graceOver | cancelled | ended := escalated.cut _ ending group phase
      · exact .inl (List.mem_cons_of_mem _ graceOver)
      · exact .inr (.inl cancelled)
      · refine .inr (.inr ?_)
        obtain ⟨code, -, -, after⟩ | ⟨-, same⟩ := Group.after?_exitCode done
        · rw [after, Option.isSome_some]
        · rwa [same]
  | began | attached | timeUp | fault | readingCancelled => cases phase
  | output task place | closed task place =>
      simp [phase?, withGroup, task, place] at phase
  | notBegun task place =>
      have none_ : a.group = none := told.unstarted (by simp [phase?, task, place])
      simp [none_] at group'
  | notAttached _ _ _ group => exact .inr (.inr (drop_cut group group' phase))
  | startCancelled => exact .inr (.inl rfl)
  | dropped _ _ _ group ended => exact .inr (.inr (known group (giveUp_group ..) ended))
  | finished _ _ group completed =>
      exact .inr (.inr (known group rfl (by simp [(Group.completed?_eq_some.mp completed).2])))
  | brokenOff _ _ _ group => exact .inr (.inr (terminate_cut group group' phase))
  | breakCancelled => exact .inr (.inl rfl)
  | graceOver => exact .inl List.mem_cons_self
  | ended _ _ group ended => exact .inr (.inr (known group (conclude_group ..) ended))
  | gaveWay => exact .inr (.inl rfl)

theorem Escalated.reacts {event : TaskEvent} (told : Told past a)
    (escalated : Escalated past a) (h : a.Reacts now config event b) :
    Escalated (.task event :: past) b where
  killed g' group' killed := by
    obtain rfl | ⟨g, group, before⟩ := h.touches.graceOver_of_kill group' killed
    · exact List.mem_cons_self
    · exact List.mem_cons_of_mem _ (escalated.killed g group before)
  finished graceOver := by
    refine h.touches.finished told.unstarted ?_
    obtain same | before := List.mem_cons.mp graceOver
    · exact .inl (Incident.task.inj same).symm
    · exact .inr (escalated.finished before)
  cut _ _ := h.cut told escalated

/-- Whatever does not concern the task. -/
theorem Escalated.aside {incident : Option Incident} (escalated : Escalated past a)
    (phase : b.phase? = a.phase?) (group : b.group = a.group)
    (other : ∀ event, incident ≠ some (.task event)) :
    Escalated (incident.toList ++ past) b where
  killed g group' killed :=
    List.mem_append_right _ (escalated.killed g (group ▸ group') killed)
  finished graceOver := by
    rw [group]
    exact escalated.finished (by simpa [other] using graceOver)
  cut g ending group' phase' := by
    have same : Incident.lastTurn? (incident.toList ++ past) = Incident.lastTurn? past := by
      cases incident with
      | none => rfl
      | some x => cases x <;> simp_all [Incident.lastTurn?]
    rw [same]
    exact (escalated.cut g ending (group ▸ group') (phase ▸ phase')).imp_left
      (List.mem_append_right _)

theorem Escalated.changes {incident : Option Incident} (lived : Lived config past a)
    (escalated : Escalated past a) (change : a.Changes now config incident b) :
    Escalated (incident.toList ++ past) b := by
  obtain ⟨_, rfl, created, rfl⟩ | ⟨event, rfl, reacts⟩ | ⟨other, phase, group⟩ :=
    change.cases_task
  · obtain ⟨-, -, rfl⟩ := lived.stage.of_created created
    exact ⟨by simp, by simp, by simp⟩
  · exact escalated.reacts lived.told reacts
  · exact escalated.aside phase group other

theorem Lived.escalated (lived : Lived config past a) : Escalated past a := by
  induction lived with
  | created => exact ⟨by simp, by simp, by simp⟩
  | changed lived change ih => exact ih.changes lived change

end Attempt

namespace Engine

/-- Whatever happens to an engine and in whatever order: once the task of a job is over, its
processes have all ended or the group has been killed exactly if they have all ended anyhow
or the time of the group for terminating has run out. Where neither is so, the first process
has ended while others live on, or a cancellation was the last that happened to the task. -/
theorem finished_iff_graceOver (config : Config) (width : Nat)
    (sinks : String → Nat → Except Error (Job → Report)) (events : List (Moment × Event))
    (id : Nat) (g : Group) :
    let c := (fresh config width sinks).course events
    (c.engine.task? id).any Task.isOver → c.engine.group? id = some g →
      (g.Finished ↔ g.isGone ∨ .task .graceOver ∈ c.incidents id) ∧
      (¬ g.Finished → (g.exitCode.isSome ∧ 0 < g.others) ∨
        Incident.lastTurn? (c.incidents id) = some .cancelled) := by
  intro c ended group
  obtain ⟨a, found, group⟩ := Option.bind_eq_some_iff.mp group
  obtain ⟨ending, phase⟩ : ∃ ending, a.phase? = some (.ended ending) := by
    simp only [task?, found, Option.bind_some, Option.any_eq_true] at ended
    obtain ⟨t, task, ended⟩ := ended
    obtain ⟨ending, place⟩ := Task.isOver_iff.mp ended
    exact ⟨ending, by rw [Attempt.phase?_of_task task, place]⟩
  have faithful : Course.Faithful config c := Course.faithful config width sinks events
  have escalated := (faithful.lived id a found).escalated
  have iff : g.Finished ↔ g.isGone ∨ .task .graceOver ∈ c.incidents id := by
    constructor
    · exact Or.imp_right (escalated.killed g group)
    · rintro (gone | graceOver)
      · exact .inl gone
      · obtain ⟨g', group', finished⟩ := escalated.finished graceOver
        obtain rfl : g' = g := Option.some.inj (group'.symm.trans group)
        exact finished
  refine ⟨iff, fun unfinished => ?_⟩
  rw [iff, not_or] at unfinished
  obtain ⟨alive, early⟩ := unfinished
  obtain graceOver | cancelled | exited := escalated.cut g ending group phase
  · exact absurd graceOver early
  · exact .inr cancelled
  · refine .inl ⟨exited, Nat.pos_of_ne_zero fun alone => alive ?_⟩
    simp [Group.isGone, exited, alone]

/-- The only job of an engine is dispatched and its process started, and then more happens
to it. -/
def solo (later : List Event) : Course :=
  let config : Config := { languages := [], directory := .current }
  let test : TestInfo := { name := none, file := Path.here, line := 1 }
  let tree : FileTree := { top := .directory [], current := Path.here }
  let start : List Event :=
    [.create ["sh"] test {}, .run tree {} true 0, .task 0 (.begin .started)]
  (fresh config 80 Report.sinkFor).course
    ((start ++ later).map fun event => (⟨0, 1⟩, event))

/-- The time of a test runs out, and its process does not terminate before it is killed. -/
def unwilling : Course :=
  solo [.task 0 (.attached .started), .task 0 .timeUp, .task 0 .resumed, .task 0 .graceOver,
    .task 0 (.process (.exited (-9))), .task 0 .resumed]

/-- The group of a process that does not terminate is killed. -/
theorem finished_unwilling :
    (unwilling.engine.task? 0).any Task.isOver ∧
      unwilling.engine.group? 0 =
        some { exitCode := some (-9), signals := [.kill, .terminate] } ∧
      .task .graceOver ∈ unwilling.incidents 0 ∧
      ∀ g, unwilling.engine.group? 0 = some g → g.Finished := by
  have ended : (unwilling.engine.task? 0).any Task.isOver := by decide
  have graceOver : .task .graceOver ∈ unwilling.incidents 0 := by decide
  refine ⟨ended, by decide, graceOver, fun g group => ?_⟩
  exact (finished_iff_graceOver _ _ _ _ 0 g ended group).1.mpr (.inr graceOver)

/-- The first process of a test has started another one and ended when the time of the test
runs out. -/
def orphaned : Course :=
  solo [.task 0 (.attached .started), .task 0 (.process .forked),
    .task 0 (.process (.exited 0)), .task 0 .timeUp, .task 0 .resumed, .task 0 .resumed]

/-- A test is stopped while its process has time for terminating. -/
def stoppedLate : Course :=
  solo [.task 0 (.attached .started), .task 0 .timeUp, .task 0 .resumed, .stop 0,
    .task 0 .cancelled]

/-- A test is stopped while its process is being started, and has started another one. -/
def stoppedEarly : Course :=
  solo [.task 0 (.process .forked), .stop 0, .task 0 .cancelled,
    .task 0 (.process (.exited (-9))), .task 0 .resumed]

/-- The task of a job is over, and it has left processes behind that nobody has killed. -/
def Abandons (c : Course) (id : Nat) : Prop :=
  (c.engine.task? id).any Task.isOver ∧ ∃ g, c.engine.group? id = some g ∧ ¬ g.Finished

/-- A test whose time has run out, or that is stopped, leaves processes behind in each of
these courses. -/
theorem abandoned :
    (.task .timeUp ∈ orphaned.incidents 0 ∧ Abandons orphaned 0) ∧
    (.stopped ∈ stoppedLate.incidents 0 ∧ Abandons stoppedLate 0) ∧
    (.stopped ∈ stoppedEarly.incidents 0 ∧ Abandons stoppedEarly 0) := by
  refine ⟨⟨by decide, by decide, _, rfl, ?_⟩, ⟨by decide, by decide, _, rfl, ?_⟩,
    by decide, by decide, _, rfl, ?_⟩ <;>
  decide

end Engine

end Proctor

import Proctor.Proofs.Engine.Life

/-!
# What the past of a job tells

The past of a job tells why it could not be started, whether its time ran out, what went
wrong while it was read, how its first process ended and which outputs were read to
their ends. `Attempt.Told` says that the attempt agrees with it: as long as the task
stands at a place where nothing is decided, nothing that decides has happened, and what
the tool knows of the processes is what has happened to them. So each of these things
is told once at most.
-/

namespace Proctor

namespace Incident

/-- Why the process of a job could not be started. -/
def setbacks (past : List Incident) : List Setback :=
  past.filterMap fun
    | .task (.begin (.failed why)) | .task (.attached (.failed why)) => some why
    | _ => none

/-- What went wrong while the outputs of a job were read. -/
def faults (past : List Incident) : List String :=
  past.filterMap fun
    | .task (.fault detail) => some detail
    | _ => none

/-- How the first process of a job ended. -/
def exitCodes (past : List Incident) : List Int :=
  past.filterMap fun
    | .task (.process (.exited code)) => some code
    | _ => none

/-- Were both outputs of a job read to their ends? -/
def ReadToEnd (past : List Incident) : Prop := ∀ stream, .task (.closed stream) ∈ past

/-- Nothing has happened to a job that decides what becomes of it, unless it is stopped. -/
structure Undecided (past : List Incident) : Prop where
  started : setbacks past = []
  inTime : .task .timeUp ∉ past
  faultless : faults past = []

variable {past : List Incident} {x : Incident}

theorem setbacks_append (recent past : List Incident) :
    setbacks (recent ++ past) = setbacks recent ++ setbacks past := List.filterMap_append

theorem faults_append (recent past : List Incident) :
    faults (recent ++ past) = faults recent ++ faults past := List.filterMap_append

theorem exitCodes_append (recent past : List Incident) :
    exitCodes (recent ++ past) = exitCodes recent ++ exitCodes past := List.filterMap_append

end Incident

/-- Is nothing decided yet where the task stands? -/
def Phase.isOpen : Phase → Bool
  | .pending | .starting | .collecting => true
  | .dropping _ | .breaking _ | .terminating _ | .killing _ | .ended _ => false

namespace Attempt

variable {now : Moment} {config : Config} {past : List Incident} {a b : Attempt}

/-- The tool learns of the end of an output when it has read it, and forgets it never. -/
theorem Reacts.isClosed_iff {event : TaskEvent} (h : a.Reacts now config event b)
    (unstarted : (∀ place, a.phase? = some place → place = .pending) → a.group = none)
    (stream : Stream) :
    (∃ g, b.group = some g ∧ g.isOpen stream = false) ↔
      event = .closed stream ∨ ∃ g, a.group = some g ∧ g.isOpen stream = false := by
  have touches := h.touches
  cases touches with
  | aside quiet same =>
      rw [same, or_iff_right]
      rintro rfl
      cases quiet
  | started task place group' =>
      have none_ : a.group = none := unstarted (by simp [phase?, task, place])
      cases stream <;> simp [none_, group', Group.isOpen]
  | process group done group' => simp [group, group', Group.after?_isOpen done]
  | output group group' => simp [group, group']
  | @closed g stream' group group' =>
      cases known : g.isOpen stream <;> simp [group, group', known]
  | signalled quiet _ group group' =>
      rw [or_iff_right]
      · simp [group, group']
      · rintro rfl
        cases quiet
  | killed group group' => simp [group, group']

/-- The tool learns of the end of the first process as it happens. -/
theorem Reacts.exitCodes_eq {event : TaskEvent} (h : a.Reacts now config event b)
    (unstarted : (∀ place, a.phase? = some place → place = .pending) → a.group = none) :
    (b.group.bind Group.exitCode).toList =
      Incident.exitCodes [.task event] ++ (a.group.bind Group.exitCode).toList := by
  have silent (quiet : isQuiet event) : Incident.exitCodes [.task event] = [] := by
    unfold isQuiet at quiet
    split at quiet <;> simp_all [Incident.exitCodes]
  have touches := h.touches
  cases touches with
  | aside quiet same => rw [silent quiet, same, List.nil_append]
  | started task place group' =>
      have none_ : a.group = none := unstarted (by simp [phase?, task, place])
      simp [none_, group', Incident.exitCodes]
  | @process _ _ event group done group' =>
      obtain ⟨code, rfl, before, after⟩ | ⟨other, same⟩ := Group.after?_exitCode done
      · simp [group, group', before, after, Incident.exitCodes]
      · cases event <;> simp_all [Incident.exitCodes]
  | output group group' => simp [group, group', Incident.exitCodes]
  | closed group group' => simp [group, group', Incident.exitCodes]
  | signalled quiet _ group group' => simp [silent quiet, group, group']
  | killed group group' => simp [group, group', Incident.exitCodes]

theorem setBack_decided (now : Moment) (a : Attempt) (t : Task) (why : Setback) :
    ∃ u, (a.setBack now t why).attempt.task = some u ∧ u.phase.isOpen = false := by
  cases why <;> exact ⟨_, rfl, rfl⟩

theorem giveUp_decided (now : Moment) (a : Attempt) (t : Task) (why : Option Setback) :
    ∃ u, (a.giveUp now t why).attempt.task = some u ∧ u.phase.isOpen = false := by
  cases why with
  | none => exact ⟨_, rfl, rfl⟩
  | some why => exact setBack_decided now a t why

theorem conclude_decided (now : Moment) (config : Config) (a : Attempt) (t : Task) (g : Group)
    (cause : Cause) :
    ∃ u, (a.conclude now config t g cause).attempt.task = some u ∧ u.phase.isOpen = false := by
  cases cause <;> exact ⟨_, rfl, rfl⟩

theorem drop_decided (now : Moment) (a : Attempt) (t : Task) (g : Group)
    (why : Option Setback) :
    ∃ u, (a.drop now t g why).attempt.task = some u ∧ u.phase.isOpen = false := by
  unfold drop
  split
  · exact giveUp_decided now a t why
  · exact ⟨_, rfl, rfl⟩

theorem terminate_decided (now : Moment) (config : Config) (a : Attempt) (t : Task) (g : Group)
    (cause : Cause) :
    ∃ u, (a.terminate now config t g cause).attempt.task = some u ∧ u.phase.isOpen = false := by
  unfold terminate
  split
  · exact conclude_decided now config a t g cause
  · exact ⟨_, rfl, rfl⟩

theorem kill_decided (now : Moment) (config : Config) (a : Attempt) (t : Task) (g : Group)
    (cause : Cause) :
    ∃ u, (a.kill now config t g cause).attempt.task = some u ∧ u.phase.isOpen = false := by
  unfold kill
  split
  · exact conclude_decided ..
  · exact ⟨_, rfl, rfl⟩

/-- Where nothing is decided after an event, nothing was before, and the event has decided
nothing. -/
theorem Reacts.of_open {event : TaskEvent} (h : a.Reacts now config event b)
    (open_ : ∀ place, b.phase? = some place → place.isOpen) :
    (∀ place, a.phase? = some place → place.isOpen) ∧ Incident.setbacks [.task event] = [] ∧
      event ≠ .timeUp ∧ Incident.faults [.task event] = [] := by
  have closed {P : Prop} (decided : ∃ u, b.task = some u ∧ u.phase.isOpen = false) : P := by
    obtain ⟨u, task, decided⟩ := decided
    simp [open_ u.phase (phase?_of_task task)] at decided
  cases h with
  | process | output | closed =>
      exact ⟨open_, by simp [Incident.setbacks], by simp, by simp [Incident.faults]⟩
  | began task place | attached task place =>
      exact ⟨by simp [phase?, task, place, Phase.isOpen], by simp [Incident.setbacks], by simp,
        by simp [Incident.faults]⟩
  | finished => exact closed ⟨_, rfl, rfl⟩
  | timeUp | fault | readingCancelled | gaveWay => exact closed ⟨_, rfl, rfl⟩
  | notBegun => exact closed (setBack_decided ..)
  | notAttached | startCancelled => exact closed (drop_decided ..)
  | dropped => exact closed (giveUp_decided ..)
  | brokenOff | breakCancelled => exact closed (terminate_decided ..)
  | graceOver => exact closed (kill_decided ..)
  | ended => exact closed (conclude_decided ..)

/-- A task that something has happened to has begun. -/
theorem Reacts.not_pending {event : TaskEvent} (h : a.Reacts now config event b)
    (unstarted : (∀ place, a.phase? = some place → place = .pending) → a.group = none) :
    ¬ ∀ place, b.phase? = some place → place = .pending := by
  intro pending
  have begun {P : Prop} (decided : ∃ u, b.task = some u ∧ u.phase.isOpen = false) : P := by
    obtain ⟨u, task, decided⟩ := decided
    simp [pending u.phase (phase?_of_task task), Phase.isOpen] at decided
  cases h with
  | process group => simp [unstarted pending] at group
  | output task place | closed task place =>
      simp [pending _ (phase?_of_task task)] at place
  | began | attached => simpa [Task.enter] using pending _ rfl
  | finished | timeUp | fault | readingCancelled | gaveWay => exact begun ⟨_, rfl, rfl⟩
  | notBegun => exact begun (setBack_decided ..)
  | notAttached | startCancelled => exact begun (drop_decided ..)
  | dropped => exact begun (giveUp_decided ..)
  | brokenOff | breakCancelled => exact begun (terminate_decided ..)
  | graceOver => exact begun (kill_decided ..)
  | ended => exact begun (conclude_decided ..)

/-- What goes wrong goes wrong where nothing is decided yet. -/
theorem Reacts.open_of_decides {event : TaskEvent} (h : a.Reacts now config event b)
    (decides : Incident.setbacks [.task event] ≠ [] ∨ Incident.faults [.task event] ≠ []) :
    ∀ place, a.phase? = some place → place.isOpen := by
  cases h with
  | notBegun task place | notAttached task place | fault task place =>
      simp [phase?, task, place, Phase.isOpen]
  | _ => simp [Incident.setbacks, Incident.faults] at decides

/-- The attempt agrees with what has happened. -/
structure Told (past : List Incident) (a : Attempt) : Prop where
  unstarted : (∀ place, a.phase? = some place → place = .pending) → a.group = none
  closed : ∀ stream, .task (.closed stream) ∈ past ↔
    ∃ g, a.group = some g ∧ g.isOpen stream = false
  exited : Incident.exitCodes past = (a.group.bind Group.exitCode).toList
  undecided : (∀ place, a.phase? = some place → place.isOpen) → Incident.Undecided past
  setbackOnce : (Incident.setbacks past).length ≤ 1
  faultOnce : (Incident.faults past).length ≤ 1

theorem Told.readToEnd_iff {g : Group} (told : Told past a) (group : a.group = some g) :
    Incident.ReadToEnd past ↔ ∀ stream, g.isOpen stream = false := by
  refine forall_congr' fun stream => (told.closed stream).trans ?_
  simp [group]

theorem Told.exitCodes_eq {g : Group} (told : Told past a) (group : a.group = some g) :
    Incident.exitCodes past = g.exitCode.toList := by
  rw [told.exited, group, Option.bind_some]

/-- Whatever does not concern the task leaves the attempt in agreement. -/
theorem Told.aside {incident : Option Incident} (told : Told past a)
    (phase : b.phase? = a.phase?) (group : b.group = a.group)
    (other : ∀ event, incident ≠ some (.task event)) : Told (incident.toList ++ past) b := by
  have setbacks : Incident.setbacks incident.toList = [] := by
    cases incident with
    | none => rfl
    | some x => cases x <;> simp_all [Incident.setbacks]
  have faults : Incident.faults incident.toList = [] := by
    cases incident with
    | none => rfl
    | some x => cases x <;> simp_all [Incident.faults]
  have exitCodes : Incident.exitCodes incident.toList = [] := by
    cases incident with
    | none => rfl
    | some x => cases x <;> simp_all [Incident.exitCodes]
  refine ⟨?_, fun stream => ?_, ?_, fun open_ => ?_, ?_, ?_⟩
  · rw [phase, group]
    exact told.unstarted
  · simpa [group, other] using told.closed stream
  · rw [Incident.exitCodes_append, exitCodes, group]
    exact told.exited
  · obtain ⟨started, inTime, faultless⟩ := told.undecided (phase ▸ open_)
    refine ⟨?_, by simpa [other] using inTime, ?_⟩
    · rw [Incident.setbacks_append, setbacks, started]
      rfl
    · rw [Incident.faults_append, faults, faultless]
      rfl
  · rw [Incident.setbacks_append, setbacks]
    exact told.setbackOnce
  · rw [Incident.faults_append, faults]
    exact told.faultOnce

theorem Told.reacts {event : TaskEvent} (told : Told past a)
    (h : a.Reacts now config event b) : Told (.task event :: past) b := by
  have append (recent : Incident) : recent :: past = [recent] ++ past := rfl
  refine ⟨fun pending => ?_, fun stream => ?_, ?_, fun open_ => ?_, ?_, ?_⟩
  · exact absurd pending (h.not_pending told.unstarted)
  · rw [h.isClosed_iff told.unstarted, List.mem_cons, told.closed stream]
    exact or_congr_left ⟨fun same => (Incident.task.inj same).symm, fun same => same ▸ rfl⟩
  · rw [append, Incident.exitCodes_append, told.exited, h.exitCodes_eq told.unstarted]
  · obtain ⟨before, setbacks, inTime, faults⟩ := h.of_open open_
    have undecided := told.undecided before
    refine ⟨?_, by simpa [inTime.symm] using undecided.inTime, ?_⟩
    · rw [append, Incident.setbacks_append, setbacks, undecided.started]
      rfl
    · rw [append, Incident.faults_append, faults, undecided.faultless]
      rfl
  · rw [append, Incident.setbacks_append]
    by_cases none_ : Incident.setbacks [.task event] = []
    · rw [none_]
      exact told.setbackOnce
    · rw [(told.undecided (h.open_of_decides (.inl none_))).started, List.append_nil]
      exact List.length_filterMap_le ..
  · rw [append, Incident.faults_append]
    by_cases none_ : Incident.faults [.task event] = []
    · rw [none_]
      exact told.faultOnce
    · rw [(told.undecided (h.open_of_decides (.inr none_))).faultless, List.append_nil]
      exact List.length_filterMap_le ..

theorem Told.changes {incident : Option Incident} (lived : Lived config past a)
    (told : Told past a) (change : a.Changes now config incident b) :
    Told (incident.toList ++ past) b := by
  obtain ⟨_, rfl, created, rfl⟩ | ⟨event, rfl, reacts⟩ | ⟨other, phase, group⟩ :=
    change.cases_task
  · obtain ⟨-, -, rfl⟩ := lived.stage.of_created created
    exact ⟨fun _ => rfl, by simp, rfl, fun _ => ⟨rfl, by simp, rfl⟩, by decide, by decide⟩
  · exact told.reacts reacts
  · exact told.aside phase group other

theorem Lived.told (lived : Lived config past a) : Told past a := by
  induction lived with
  | created =>
      exact ⟨fun _ => rfl, by simp, rfl, fun _ => ⟨rfl, by simp, rfl⟩, by decide, by decide⟩
  | changed lived change ih => exact ih.changes lived change

end Attempt

end Proctor

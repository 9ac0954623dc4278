import Proctor.Engine.Attempt

/-!
# What an event does to an attempt

`Reacts` lists the steps of an attempt, one rule for each, with all that has to be so
for the step to be taken. `Attempt.react?` takes these steps and no others, so what is
proved of an attempt goes by cases on the rules, and nothing below this module looks
into the function again.
-/

namespace Proctor.Attempt

variable {now : Moment} {config : Config} {a : Attempt} {t : Task} {g : Group}

/-- A cancellation ends a task at once that stands at one of these places. -/
def givesWay : Phase → Bool
  | .pending | .dropping _ | .terminating _ | .killing _ => true
  | .starting | .collecting | .breaking _ | .ended _ => false

/-- The steps of an attempt. -/
inductive Reacts (now : Moment) (config : Config) (a : Attempt) : TaskEvent → Attempt → Prop
  /-- The processes do something, wherever the task stands. -/
  | process {g g' : Group} {event : ProcessEvent} (group : a.group = some g)
      (done : g.after? event = some g') : Reacts now config a (.process event) (a.withGroup g')
  | began {t : Task} (task : a.task = some t) (place : t.phase = .pending)
      (free : t.cancelRequested = false) :
      Reacts now config a (.begin .started) ((a.withGroup {}).enter t .starting)
  | notBegun {t : Task} {why : Setback} (task : a.task = some t) (place : t.phase = .pending)
      (free : t.cancelRequested = false) :
      Reacts now config a (.begin (.failed why)) (a.setBack now t why).attempt
  | attached {t : Task} {g : Group} (task : a.task = some t) (place : t.phase = .starting)
      (free : t.cancelRequested = false) (group : a.group = some g) :
      Reacts now config a (.attached .started) (a.enter t .collecting)
  | notAttached {t : Task} {g : Group} {why : Setback} (task : a.task = some t)
      (place : t.phase = .starting) (free : t.cancelRequested = false) (group : a.group = some g) :
      Reacts now config a (.attached (.failed why)) (a.drop now t g (some why)).attempt
  | startCancelled {t : Task} {g : Group} (task : a.task = some t) (place : t.phase = .starting)
      (asked : t.cancelRequested = true) (group : a.group = some g) :
      Reacts now config a .cancelled (a.drop now t.takeCancel g none).attempt
  | dropped {t : Task} {g : Group} {why : Option Setback} (task : a.task = some t)
      (place : t.phase = .dropping why) (free : t.cancelRequested = false)
      (group : a.group = some g) (ended : g.exitCode.isSome) :
      Reacts now config a .resumed (a.giveUp now t why).attempt
  | output {t : Task} {g : Group} {stream : Stream} {bytes : List UInt8} (task : a.task = some t)
      (place : t.phase = .collecting) (group : a.group = some g) (isOpen : g.isOpen stream) :
      Reacts now config a (.output stream bytes) (a.withGroup (g.write bytes stream))
  | closed {t : Task} {g : Group} {stream : Stream} (task : a.task = some t)
      (place : t.phase = .collecting) (group : a.group = some g) (isOpen : g.isOpen stream) :
      Reacts now config a (.closed stream) (a.withGroup (g.close stream))
  | finished {t : Task} {g : Group} {code : Int} (task : a.task = some t)
      (place : t.phase = .collecting) (group : a.group = some g)
      (completed : g.completed? = some code) :
      Reacts now config a .resumed (a.finish now t g code).attempt
  | timeUp {t : Task} {g : Group} (task : a.task = some t) (place : t.phase = .collecting)
      (free : t.cancelRequested = false) (group : a.group = some g) :
      Reacts now config a .timeUp (a.enter t (.breaking .timeout))
  | fault {t : Task} {g : Group} {detail : String} (task : a.task = some t)
      (place : t.phase = .collecting) (group : a.group = some g)
      (unread : (g.stdoutOpen || g.stderrOpen) = true) :
      Reacts now config a (.fault detail) (a.enter t (.breaking (.fault detail)))
  | readingCancelled {t : Task} {g : Group} (task : a.task = some t)
      (place : t.phase = .collecting) (asked : t.cancelRequested = true)
      (group : a.group = some g) :
      Reacts now config a .cancelled (a.enter t.takeCancel (.breaking .cancellation))
  | brokenOff {t : Task} {g : Group} {cause : Cause} (task : a.task = some t)
      (place : t.phase = .breaking cause) (free : t.cancelRequested = false)
      (group : a.group = some g) :
      Reacts now config a .resumed (a.terminate now config t g cause).attempt
  | breakCancelled {t : Task} {g : Group} {cause : Cause} (task : a.task = some t)
      (place : t.phase = .breaking cause) (asked : t.cancelRequested = true)
      (group : a.group = some g) :
      Reacts now config a .cancelled (a.terminate now config t.takeCancel g cause.cancelled).attempt
  | graceOver {t : Task} {g : Group} {cause : Cause} (task : a.task = some t)
      (place : t.phase = .terminating cause) (free : t.cancelRequested = false)
      (group : a.group = some g) :
      Reacts now config a .graceOver (a.kill now config t g cause).attempt
  | ended {t : Task} {g : Group} {cause : Cause} (task : a.task = some t)
      (place : t.phase = .terminating cause ∨ t.phase = .killing cause)
      (group : a.group = some g) (ended : g.exitCode.isSome) :
      Reacts now config a .resumed (a.conclude now config t g cause).attempt
  /-- A cancellation reaches a task that gives way to it. -/
  | gaveWay {t : Task} (task : a.task = some t) (place : givesWay t.phase)
      (asked : t.cancelRequested = true) :
      Reacts now config a .cancelled (a.enter t.takeCancel (.ended .cancelled))

theorem whileStarting_reacts {event : TaskEvent} {turn : Turn} (task : a.task = some t)
    (place : t.phase = .starting) (group : a.group = some g) (admitted : admits t event)
    (h : a.whileStarting now (if event = .cancelled then t.takeCancel else t) g event =
      some turn) : Reacts now config a event turn.attempt := by
  unfold whileStarting at h
  split at h <;> cases h
  · exact .attached task place (by simpa [admits] using admitted) group
  · exact .notAttached task place (by simpa [admits] using admitted) group
  · exact .startCancelled task place (by simpa [admits] using admitted) group

theorem whileDropping_reacts {event : TaskEvent} {turn : Turn} {why : Option Setback}
    (task : a.task = some t) (place : t.phase = .dropping why) (group : a.group = some g)
    (admitted : admits t event)
    (h : a.whileDropping now (if event = .cancelled then t.takeCancel else t) g why event =
      some turn) : Reacts now config a event turn.attempt := by
  unfold whileDropping at h
  split at h
  · split at h <;> cases h
    exact .dropped task place (by simpa [admits, place] using admitted) group ‹_›
  · cases h
    exact .gaveWay task (by simp [givesWay, place]) (by simpa [admits] using admitted)
  · cases h

theorem whileCollecting_reacts {event : TaskEvent} {turn : Turn} (task : a.task = some t)
    (place : t.phase = .collecting) (group : a.group = some g) (admitted : admits t event)
    (h : a.whileCollecting now (if event = .cancelled then t.takeCancel else t) g event =
      some turn) : Reacts now config a event turn.attempt := by
  unfold whileCollecting at h
  split at h
  · split at h <;> cases h
    exact .output task place group ‹_›
  · split at h <;> cases h
    exact .closed task place group ‹_›
  · obtain ⟨code, completed, rfl⟩ := Option.map_eq_some_iff.mp h
    exact .finished task place group completed
  · cases h
    exact .timeUp task place (by simpa [admits] using admitted) group
  · split at h <;> cases h
    exact .fault task place group ‹_›
  · cases h
    exact .readingCancelled task place (by simpa [admits] using admitted) group
  · cases h

theorem whileBreaking_reacts {event : TaskEvent} {turn : Turn} {cause : Cause}
    (task : a.task = some t) (place : t.phase = .breaking cause) (group : a.group = some g)
    (admitted : admits t event)
    (h : a.whileBreaking now config (if event = .cancelled then t.takeCancel else t) g cause
      event = some turn) : Reacts now config a event turn.attempt := by
  unfold whileBreaking at h
  split at h <;> cases h
  · exact .brokenOff task place (by simpa [admits, place] using admitted) group
  · exact .breakCancelled task place (by simpa [admits] using admitted) group

theorem whileTerminating_reacts {event : TaskEvent} {turn : Turn} {cause : Cause}
    (task : a.task = some t) (place : t.phase = .terminating cause) (group : a.group = some g)
    (admitted : admits t event)
    (h : a.whileTerminating now config (if event = .cancelled then t.takeCancel else t) g cause
      event = some turn) : Reacts now config a event turn.attempt := by
  unfold whileTerminating at h
  split at h
  · split at h <;> cases h
    exact .ended task (.inl place) group ‹_›
  · cases h
    exact .graceOver task place (by simpa [admits] using admitted) group
  · cases h
    exact .gaveWay task (by simp [givesWay, place]) (by simpa [admits] using admitted)
  · cases h

theorem whileKilling_reacts {event : TaskEvent} {turn : Turn} {cause : Cause}
    (task : a.task = some t) (place : t.phase = .killing cause) (group : a.group = some g)
    (admitted : admits t event)
    (h : a.whileKilling now config (if event = .cancelled then t.takeCancel else t) g cause
      event = some turn) : Reacts now config a event turn.attempt := by
  unfold whileKilling at h
  split at h
  · split at h <;> cases h
    exact .ended task (.inr place) group ‹_›
  · cases h
    exact .gaveWay task (by simp [givesWay, place]) (by simpa [admits] using admitted)
  · cases h

theorem goOn?_reacts {event : TaskEvent} {turn : Turn} (task : a.task = some t)
    (admitted : admits t event)
    (h : a.goOn? now config (if event = .cancelled then t.takeCancel else t) event = some turn) :
    Reacts now config a event turn.attempt := by
  have phase : (if event = .cancelled then t.takeCancel else t).phase = t.phase := by
    split <;> rfl
  unfold goOn? at h
  rw [phase] at h
  split at h
  case h_1 place =>
    split at h
    case h_1 spawn =>
      cases h
      have free : t.cancelRequested = false := by simpa [admits] using admitted
      cases spawn with
      | started => exact .began task place free
      | failed why => exact .notBegun task place free
    case h_2 =>
      cases h
      exact .gaveWay task (by simp [givesWay, place]) (by simpa [admits] using admitted)
    case h_3 => cases h
  case h_2 place group => exact whileStarting_reacts task place group admitted h
  case h_3 place group => exact whileDropping_reacts task place group admitted h
  case h_4 place group => exact whileCollecting_reacts task place group admitted h
  case h_5 place group => exact whileBreaking_reacts task place group admitted h
  case h_6 place group => exact whileTerminating_reacts task place group admitted h
  case h_7 place group => exact whileKilling_reacts task place group admitted h
  case h_8 => cases h

/-- An attempt takes no step but those of the list. -/
theorem reacts_of_react? {event : TaskEvent} {turn : Turn}
    (h : a.react? now config event = some turn) : Reacts now config a event turn.attempt := by
  unfold react? at h
  split at h
  case h_1 event =>
    obtain ⟨g', found, rfl⟩ := Option.map_eq_some_iff.mp h
    obtain ⟨g, group, done⟩ := Option.bind_eq_some_iff.mp found
    exact .process group done
  case h_2 =>
    split at h
    case h_1 => cases h
    case h_2 t task =>
      split at h
      case isTrue admitted => exact goOn?_reacts task admitted h
      case isFalse => cases h

/-! ## What becomes of the processes -/

@[simp] theorem setBack_group (now : Moment) (a : Attempt) (t : Task) (why : Setback) :
    (a.setBack now t why).attempt.group = a.group := by
  cases why <;> rfl

@[simp] theorem giveUp_group (now : Moment) (a : Attempt) (t : Task) (why : Option Setback) :
    (a.giveUp now t why).attempt.group = a.group := by
  cases why with
  | none => rfl
  | some why => exact setBack_group now a t why

@[simp] theorem conclude_group (now : Moment) (config : Config) (a : Attempt) (t : Task)
    (g : Group) (cause : Cause) : (a.conclude now config t g cause).attempt.group = a.group := by
  cases cause <;> rfl

theorem drop_group (why : Option Setback) (group : a.group = some g) :
    (a.drop now t g why).attempt.group =
      some (if g.exitCode.isSome then g else g.signal .killFirst) := by
  unfold drop
  split
  · rw [giveUp_group, group]
  · rfl

theorem terminate_group (cause : Cause) (group : a.group = some g) :
    (a.terminate now config t g cause).attempt.group = some (g.signal .terminate) := by
  unfold terminate
  split
  case isTrue gone => rw [conclude_group, group, Group.signal, if_pos gone]
  case isFalse => rfl

theorem kill_group (cause : Cause) :
    (a.kill now config t g cause).attempt.group = some (g.signal .kill) := by
  unfold kill
  split
  · exact conclude_group ..
  · rfl

/-- Is an event one that the processes notice, if at all, by a signal to terminate? -/
def isQuiet : TaskEvent → Bool
  | .begin .started | .output .. | .closed _ | .graceOver | .process _ => false
  | _ => true

/-- What an event does to the processes of an attempt, as far as the tool has to do with
them. -/
inductive Touches (a b : Attempt) : TaskEvent → Prop
  | aside {event : TaskEvent} (quiet : isQuiet event) (same : b.group = a.group) :
      Touches a b event
  | started {t : Task} (task : a.task = some t) (place : t.phase = .pending)
      (group' : b.group = some {}) : Touches a b (.begin .started)
  | process {g g' : Group} {event : ProcessEvent} (group : a.group = some g)
      (done : g.after? event = some g') (group' : b.group = some g') :
      Touches a b (.process event)
  | output {g : Group} {stream : Stream} {bytes : List UInt8} (group : a.group = some g)
      (group' : b.group = some (g.write bytes stream)) : Touches a b (.output stream bytes)
  | closed {g : Group} {stream : Stream} (group : a.group = some g)
      (group' : b.group = some (g.close stream)) : Touches a b (.closed stream)
  | signalled {event : TaskEvent} {g : Group} {s : Signal} (quiet : isQuiet event)
      (spared : s ≠ .kill) (group : a.group = some g) (group' : b.group = some (g.signal s)) :
      Touches a b event
  | killed {g : Group} (group : a.group = some g) (group' : b.group = some (g.signal .kill)) :
      Touches a b .graceOver

theorem drop_touches {event : TaskEvent} {why : Option Setback} (quiet : isQuiet event)
    (group : a.group = some g) : Touches a (a.drop now t g why).attempt event := by
  have group' : (a.drop now t g why).attempt.group = _ := drop_group why group
  split at group'
  · exact .aside quiet (group'.trans group.symm)
  · exact .signalled quiet (by simp) group group'

/-- Every step touches the processes in one of these ways. -/
theorem Reacts.touches {event : TaskEvent} {b : Attempt} (h : a.Reacts now config event b) :
    Touches a b event := by
  cases h with
  | process group done => exact .process group done rfl
  | began task place => exact .started task place rfl
  | notBegun => exact .aside rfl (setBack_group ..)
  | attached | timeUp | fault | readingCancelled | finished | gaveWay => exact .aside rfl rfl
  | notAttached _ _ _ group => exact drop_touches rfl group
  | startCancelled _ _ _ group => exact drop_touches rfl group
  | dropped => exact .aside rfl (giveUp_group ..)
  | output _ _ group => exact .output group rfl
  | closed _ _ group => exact .closed group rfl
  | brokenOff _ _ _ group => exact .signalled rfl (by simp) group (terminate_group _ group)
  | breakCancelled _ _ _ group => exact .signalled rfl (by simp) group (terminate_group _ group)
  | graceOver _ _ _ group => exact .killed group (kill_group _)
  | ended => exact .aside rfl (conclude_group ..)

/-! ## Where a task gets to -/

/-- Where a task gets to, as far as its job goes: the job has its outcome once the task
has returned, and is left alone otherwise. Callbacks stay as they are, and nobody asks for
a cancellation. -/
inductive Leads (now : Moment) (a : Attempt) (t : Task) (b : Attempt) : Prop
  | onward {u : Task} (task : b.task = some u) (callbacks : u.callbacks = t.callbacks)
      (asked : u.cancelRequested → t.cancelRequested) (open_ : u.phase ≠ .ended .returned)
      (job : b.job = a.job)
  | returned {u : Task} {o : Outcome} (task : b.task = some u)
      (callbacks : u.callbacks = t.callbacks) (asked : u.cancelRequested → t.cancelRequested)
      (ended : u.phase = .ended .returned) (job : b.job = a.job.completeOpen o now)

/-- Taking a cancellation leads nowhere by itself. -/
theorem Leads.of_takeCancel {b : Attempt} (h : Leads now a t.takeCancel b) :
    Leads now a t b := by
  cases h with
  | onward task callbacks asked open_ job =>
      exact .onward task callbacks (fun h => nomatch asked h) open_ job
  | returned task callbacks asked ended job =>
      exact .returned task callbacks (fun h => nomatch asked h) ended job

theorem setBack_leads (now : Moment) (a : Attempt) (t : Task) (why : Setback) :
    Leads now a t (a.setBack now t why).attempt := by
  cases why with
  | missing => exact .returned rfl rfl id rfl rfl
  | refused reason => exact .returned rfl rfl id rfl rfl
  | crashed detail => exact .onward rfl rfl id nofun rfl

theorem giveUp_leads (now : Moment) (a : Attempt) (t : Task) (why : Option Setback) :
    Leads now a t (a.giveUp now t why).attempt := by
  cases why with
  | none => exact .onward rfl rfl id nofun rfl
  | some why => exact setBack_leads now a t why

theorem conclude_leads (now : Moment) (config : Config) (a : Attempt) (t : Task) (g : Group)
    (cause : Cause) : Leads now a t (a.conclude now config t g cause).attempt := by
  cases cause with
  | timeout => exact .returned rfl rfl id rfl rfl
  | cancellation => exact .onward rfl rfl id nofun rfl
  | fault detail => exact .onward rfl rfl id nofun rfl

theorem drop_leads (now : Moment) (a : Attempt) (t : Task) (g : Group) (why : Option Setback) :
    Leads now a t (a.drop now t g why).attempt := by
  unfold drop
  split
  · exact giveUp_leads now a t why
  · exact .onward rfl rfl id nofun rfl

theorem terminate_leads (now : Moment) (config : Config) (a : Attempt) (t : Task) (g : Group)
    (cause : Cause) : Leads now a t (a.terminate now config t g cause).attempt := by
  unfold terminate
  split
  · exact conclude_leads now config a t g cause
  · exact .onward rfl rfl id nofun rfl

theorem kill_leads (now : Moment) (config : Config) (a : Attempt) (t : Task) (g : Group)
    (cause : Cause) : Leads now a t (a.kill now config t g cause).attempt := by
  unfold kill
  split
  · cases cause with
    | timeout => exact .returned rfl rfl id rfl rfl
    | cancellation => exact .onward rfl rfl id nofun rfl
    | fault detail => exact .onward rfl rfl id nofun rfl
  · exact .onward rfl rfl id nofun rfl

/-- An event either leaves the task and the job as they are, or it leads a task that is
not over to another place. -/
theorem Reacts.leads {event : TaskEvent} {b : Attempt} (h : a.Reacts now config event b) :
    (b.task = a.task ∧ b.job = a.job) ∨
      ∃ t, a.task = some t ∧ t.isOver = false ∧ Leads now a t b := by
  have going {t : Task} {place : Phase} (stands : t.phase = place)
      (open_ : place.isOver = false) : t.isOver = false := by
    rw [Task.isOver, stands, open_]
  cases h with
  | process | output | closed => exact .inl ⟨rfl, rfl⟩
  | began task place | attached task place | timeUp task place | fault task place =>
      exact .inr ⟨_, task, going place rfl, .onward rfl rfl id nofun rfl⟩
  | readingCancelled task place =>
      exact .inr ⟨_, task, going place rfl, .onward rfl rfl nofun nofun rfl⟩
  | notBegun task place => exact .inr ⟨_, task, going place rfl, setBack_leads ..⟩
  | notAttached task place => exact .inr ⟨_, task, going place rfl, drop_leads ..⟩
  | startCancelled task place =>
      exact .inr ⟨_, task, going place rfl, (drop_leads ..).of_takeCancel⟩
  | dropped task place => exact .inr ⟨_, task, going place rfl, giveUp_leads ..⟩
  | finished task place =>
      exact .inr ⟨_, task, going place rfl, .returned rfl rfl id rfl rfl⟩
  | brokenOff task place => exact .inr ⟨_, task, going place rfl, terminate_leads ..⟩
  | breakCancelled task place =>
      exact .inr ⟨_, task, going place rfl, (terminate_leads ..).of_takeCancel⟩
  | graceOver task place => exact .inr ⟨_, task, going place rfl, kill_leads ..⟩
  | ended task place =>
      rcases place with place | place <;>
      exact .inr ⟨_, task, going place rfl, conclude_leads ..⟩
  | @gaveWay t task place =>
      refine .inr ⟨t, task, ?_, .onward rfl rfl nofun nofun rfl⟩
      refine going rfl ?_
      generalize t.phase = stands at place
      cases stands with
      | ended => cases place
      | _ => rfl

end Proctor.Attempt

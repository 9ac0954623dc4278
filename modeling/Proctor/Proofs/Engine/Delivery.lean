import Proctor.Proofs.Engine.Life

/-!
# Every dispatched job is delivered once

A job goes through three stages: it has not been dispatched, it stands in the table, it
has been delivered. `Attempt.Stage` says what is known of the attempt at each of them,
and the events take a job from one stage to the next and never back. The engine's own
callback is the first one on every task, and it is registered once: so a job leaves the
table when it is delivered, and whoever waits for it is woken later.

The theorem is about every list of events. What it takes for granted is built into
`Engine.Event`: a task comes to its end at most once, and its callbacks then run one
after the other, in the order of their registration.
-/

namespace Proctor

namespace Course

variable {c : Course} {e' : Engine} {now : Moment} {event : Engine.Event} {config : Config}

/-- The table and the deliveries agree with what has happened to the jobs. -/
structure Balanced (c : Course) : Prop where
  table : ∀ id, id ∈ c.engine.table ↔
    .dispatched ∈ c.incidents id ∧ .settled ∉ c.incidents id
  nodup : c.engine.table.Nodup
  count : ∀ id, (c.engine.deliveries.map Delivery.job).count id =
    (c.incidents id).count .settled
  record : ∀ d ∈ c.engine.deliveries, d.record.isTerminal ∧
    ∃ a, c.engine.attempts[d.job]? = some a ∧ a.job = d.record

/-- A job that has been delivered is not changed any more. -/
theorem Balanced.record_step (balanced : c.Balanced) (step : c.engine.Steps now event e')
    {d : Delivery} (delivered : d ∈ c.engine.deliveries) :
    d.record.isTerminal ∧ ∃ a, e'.attempts[d.job]? = some a ∧ a.job = d.record := by
  obtain ⟨terminal, a, found, record⟩ := balanced.record d delivered
  obtain ⟨b, found', change⟩ := step.changes found
  exact ⟨terminal, b, found',
    (change.job_of_terminal (record ▸ terminal)).trans record⟩

/-- An event that is neither a dispatch nor the engine's callback leaves the table and the
deliveries alone. -/
theorem Balanced.quiet (balanced : c.Balanced) (step : c.engine.Steps now event e')
    (table : e'.table = c.engine.table) (deliveries : e'.deliveries = c.engine.deliveries)
    (undispatched : ∀ id, event.incidentOf id ≠ some .dispatched)
    (unsettled : ∀ id, event.incidentOf id ≠ some .settled) :
    Balanced ⟨e', event.incident?.toList ++ c.past⟩ := by
  refine ⟨fun id => ?_, ?_, fun id => ?_, fun d delivered => ?_⟩
  · rw [incidents_step]
    simpa [table, Option.mem_toList, undispatched, unsettled] using balanced.table id
  · simpa [table] using balanced.nodup
  · have none_ : (event.incidentOf id).toList.count .settled = 0 :=
      List.count_eq_zero.mpr (by simpa [Option.mem_toList] using unsettled id)
    rw [incidents_step, List.count_append, none_, Nat.zero_add]
    exact deliveries ▸ balanced.count id
  · exact balanced.record_step step (by simpa [deliveries] using delivered)

theorem Balanced.step (faithful : Faithful config c) (balanced : c.Balanced)
    (step : c.engine.Steps now event e') :
    Balanced ⟨e', event.incident?.toList ++ c.past⟩ := by
  cases hstep : step with
  | create | wait | resume | wake =>
      exact balanced.quiet step rfl rfl nofun nofun
  | stop | cancel | task =>
      refine balanced.quiet step rfl rfl ?_ ?_ <;>
        simp [Engine.Event.incidentOf, Engine.Event.incident?]
  | @run _ _ _ place a directory found created =>
      obtain ⟨-, -, none_⟩ := (faithful.lived place a found).stage.of_created created
      have unlisted : place ∉ c.engine.table := by simp [balanced.table, none_]
      refine ⟨fun id => ?_, ?_, fun id => ?_, fun d member => balanced.record_step step member⟩
      · rw [incidents_step]
        by_cases same : place = id
        · subst same
          simp [Engine.Event.incidentOf, Engine.Event.incident?, none_, Engine.say]
        · have other : id ≠ place := fun h => same h.symm
          simpa [Engine.Event.incidentOf, Engine.Event.incident?, Engine.say, same, other]
            using balanced.table id
      · simpa [Engine.say, List.nodup_append] using
          ⟨balanced.nodup, fun id listed (h : id = place) => unlisted (h ▸ listed)⟩
      · rw [incidents_step]
        by_cases same : place = id <;>
          simpa [Engine.Event.incidentOf, Engine.Event.incident?, Engine.say, Engine.setAttempt,
            same] using balanced.count id
  | @settle place a t ending rest found task ended next =>
      obtain ⟨dispatched, unsettled, left, returned⟩ :=
        (faithful.lived place a found).stage.of_own task next
      refine ⟨fun id => ?_, balanced.nodup.filter _, fun id => ?_, fun d member => ?_⟩
      · rw [incidents_step]
        by_cases same : place = id
        · subst same
          simp [Engine.Event.incidentOf, Engine.Event.incident?, Engine.deliver, Engine.take,
            Engine.say, Engine.setAttempt]
        · have other : id ≠ place := fun h => same h.symm
          simpa [Engine.Event.incidentOf, Engine.Event.incident?, Engine.deliver, Engine.take,
            Engine.say, Engine.setAttempt, same, other] using balanced.table id
      · rw [incidents_step]
        by_cases same : place = id <;>
          simpa [Engine.Event.incidentOf, Engine.Event.incident?, Engine.deliver, Engine.take,
            Engine.say, Engine.setAttempt, Engine.deliveryOf, same, Nat.add_comm]
            using balanced.count id
      · obtain old | rfl := List.mem_append.mp member |>.imp_right List.mem_singleton.mp
        · exact balanced.record_step step old
        · have inside : place < c.engine.attempts.length :=
            (List.getElem?_eq_some_iff.mp found).1
          exact ⟨Attempt.settle_terminal (a := Engine.withCallbacks a t rest) left
              fun h => returned (h ▸ ended), _, List.getElem?_set_self inside, rfl⟩

theorem Balanced.start (config : Config) (width : Nat)
    (sinks : String → Nat → Except Error (Job → Report)) :
    Balanced ⟨Engine.fresh config width sinks, []⟩ where
  table id := by simp [Engine.fresh, incidents]
  nodup := List.nodup_nil
  count id := by simp [Engine.fresh, incidents]
  record d member := by simp [Engine.fresh] at member

theorem Balanced.play (faithful : Faithful config c) (balanced : c.Balanced)
    (events : List (Moment × Engine.Event)) : (c.play events).Balanced :=
  (play_induct (P := fun c => Faithful config c ∧ c.Balanced)
    (fun _ _ _ _ kept step => ⟨kept.1.step step, kept.2.step kept.1 step⟩)
    ⟨faithful, balanced⟩ events).2

theorem balanced (config : Config) (width : Nat)
    (sinks : String → Nat → Except Error (Job → Report))
    (events : List (Moment × Engine.Event)) :
    ((Engine.fresh config width sinks).course events).Balanced :=
  (Balanced.start config width sinks).play (.start config width sinks) events

/-! ## Waits -/

/-- What an event can do to a wait: it comes to its end with nothing left to wait for, or
one of the jobs it waits for is crossed out, which has been delivered before. -/
inductive Waits (c : Course) (w : Wait) : Wait → Prop
  | on : Waits c w w
  | returned (nothing : w.pending = []) : Waits c w { w with returned := true }
  | woken {id : Nat} (settled : .settled ∈ c.incidents id) :
      Waits c w { w with pending := w.pending.filter (· != id) }

theorem Faithful.waits {number : Nat} {w : Wait} (faithful : Faithful config c)
    (step : c.engine.Steps now event e') (found : c.engine.waits[number]? = some w) :
    ∃ w', e'.waits[number]? = some w' ∧ c.Waits w w' := by
  cases step with
  | wait =>
      have inside : number < c.engine.waits.length := (List.getElem?_eq_some_iff.mp found).1
      exact ⟨w, by simp [Engine.wait, List.getElem?_append_left inside, found], .on⟩
  | @resume place w₀ found₀ ready =>
      by_cases same : place = number
      · subst same
        obtain rfl : w₀ = w := Option.some.inj (found₀.symm.trans found)
        have inside : place < c.engine.waits.length := (List.getElem?_eq_some_iff.mp found).1
        exact ⟨_, List.getElem?_set_self inside, .returned ready⟩
      · exact ⟨w, by simp [List.getElem?_set_ne same, found], .on⟩
  | @wake id place _ _ _ _ found₀ task _ next =>
      by_cases same : place = number
      · subst same
        exact ⟨_, by simp [found], .woken ((faithful.lived id _ found₀).stage.of_wait task next)⟩
      · exact ⟨w, by simp [same, found], .on⟩
  | create | run | stop | cancel | task | settle => exact ⟨w, found, .on⟩

/-- A wait for some jobs, of which those in `early` were dispatched before it began. -/
def Awaited (number : Nat) (ids : List Nat) (early : Nat → Prop) (c : Course) : Prop :=
  ∃ w, c.engine.waits[number]? = some w ∧ w.jobs = ids ∧
    (w.returned → w.pending = []) ∧
    ∀ id ∈ ids, early id → id ∈ w.pending ∨ .settled ∈ c.incidents id

theorem Awaited.step {number : Nat} {ids : List Nat} {early : Nat → Prop}
    (faithful : Faithful config c) (awaited : Awaited number ids early c)
    (step : c.engine.Steps now event e') :
    Awaited number ids early ⟨e', event.incident?.toList ++ c.past⟩ := by
  obtain ⟨w, found, jobs, ready, owed⟩ := awaited
  obtain ⟨w', found', waits⟩ := faithful.waits step found
  have later {id : Nat} (settled : .settled ∈ c.incidents id) :
      .settled ∈ incidents ⟨e', event.incident?.toList ++ c.past⟩ id := by
    rw [incidents_step]
    exact List.mem_append_right _ settled
  refine ⟨w', found', ?_⟩
  cases waits with
  | on => exact ⟨jobs, ready, fun id listed dispatched =>
      (owed id listed dispatched).imp_right later⟩
  | returned nothing => exact ⟨jobs, fun _ => nothing, fun id listed dispatched =>
      (owed id listed dispatched).imp_right later⟩
  | @woken place settled =>
      refine ⟨jobs, fun h => by simp [ready h], fun id listed dispatched => ?_⟩
      by_cases same : id = place
      · subst same
        exact .inr (later settled)
      · exact (owed id listed dispatched).imp (fun h => by simp [h, same]) later

/-- A wait begins with all its jobs that stand in the table. -/
theorem Balanced.awaited (balanced : c.Balanced) (now : Moment) (ids : List Nat) :
    Awaited c.engine.waits.length ids (.dispatched ∈ c.incidents ·)
      (c.step now (.wait ids)) := by
  refine ⟨⟨ids, c.engine.table.filter (ids.contains ·), _⟩, List.getElem?_concat_length, rfl,
    List.isEmpty_iff.mp, fun id listed dispatched => ?_⟩
  by_cases settled : .settled ∈ c.incidents id
  · exact .inr settled
  · exact .inl (by simp [listed, (balanced.table id).mpr ⟨dispatched, settled⟩])

/-- Whatever happens while somebody waits. -/
theorem Awaited.play {number : Nat} {ids : List Nat} {early : Nat → Prop}
    (faithful : Faithful config c) (awaited : Awaited number ids early c)
    (events : List (Moment × Engine.Event)) :
    Awaited number ids early (c.play events) :=
  (play_induct (P := fun c => Faithful config c ∧ Awaited number ids early c)
    (fun _ _ _ _ kept step => ⟨kept.1.step step, kept.2.step kept.1 step⟩)
    ⟨faithful, awaited⟩ events).2

end Course

namespace Engine

variable {e f : Engine}

/-! ## Sinks -/

/-- Two engines that differ at most in how reports are made and what came of them. -/
structure Alike (e f : Engine) : Prop where
  config : f.config = e.config
  attempts : f.attempts = e.attempts
  table : f.table = e.table
  waits : f.waits = e.waits
  deliveries : f.deliveries.map (fun d => (d.job, d.mode, d.record)) =
    e.deliveries.map (fun d => (d.job, d.mode, d.record))

/-- What an engine has that an alike one may not have. -/
theorem Alike.exists_eq (alike : Alike e f) :
    ∃ width sinks deliveries journal, f = { e with width, sinks, deliveries, journal } ∧
      deliveries.map (fun d => (d.job, d.mode, d.record)) =
        e.deliveries.map (fun d => (d.job, d.mode, d.record)) := by
  obtain ⟨config, width, sinks, attempts, table, waits, deliveries, journal⟩ := f
  obtain ⟨rfl, rfl, rfl, rfl, same⟩ := alike
  exact ⟨width, sinks, deliveries, journal, rfl, same⟩

theorem Alike.run (alike : Alike e f) (now : Moment) (tree : FileTree) (registry : Registry)
    (hasLoop : Bool) (id : Nat) :
    Option.Rel Alike (e.run tree registry hasLoop now id).toOption
      (f.run tree registry hasLoop now id).toOption := by
  cases found : e.attempts[id]? with
  | none =>
    rw [run_of_none tree registry hasLoop found,
      run_of_none tree registry hasLoop (alike.attempts ▸ found)]
    exact .none
  | some a =>
    rw [run_of_some tree registry hasLoop found,
      run_of_some tree registry hasLoop (alike.attempts ▸ found), alike.config]
    split
    case isTrue => exact .none
    case isFalse =>
      split
      case isTrue => exact .none
      case isFalse =>
        cases WorkingDirectory.resolve tree registry e.config.directory a.job.test
            a.job.options.directory with
        | error why => exact .none
        | ok directory =>
          obtain ⟨_, _, _, _, rfl, same⟩ := alike.exists_eq
          exact .some ⟨rfl, rfl, rfl, rfl, same⟩

theorem Alike.stop (alike : Alike e f) (now : Moment) (id : Nat) :
    Option.Rel Alike (e.step? now (.stop id)) (f.step? now (.stop id)) := by
  by_cases running : ∃ a, e.attempts[id]? = some a ∧ a.job.state = .running
  · obtain ⟨a, found, running⟩ := running
    have granted : e.stop now id = _ := stop_of_running found running
    have granted' : f.stop now id = _ := stop_of_running (alike.attempts ▸ found) running
    obtain ⟨_, _, _, _, rfl, same⟩ := alike.exists_eq
    simp only [Engine.step?, granted, granted', if_true]
    exact .some ⟨rfl, rfl, rfl, rfl, same⟩
  · have idle a (found : e.attempts[id]? = some a) : a.job.state ≠ .running :=
      fun h => running ⟨a, found, h⟩
    have refused : e.stop now id = (e, false) := stop_of_not_running idle
    have refused' : f.stop now id = (f, false) :=
      stop_of_not_running (alike.attempts ▸ idle)
    simp [Engine.step?, refused, refused']

theorem Alike.cancel? (alike : Alike e f) (id : Nat) :
    Option.Rel Alike (e.cancel? id) (f.cancel? id) := by
  obtain ⟨_, _, _, _, rfl, same⟩ := alike.exists_eq
  simp only [Engine.cancel?, task?]
  cases e.attempts[id]?.bind Attempt.task with
  | none => exact .none
  | some t =>
      dsimp only
      split
      case isTrue => exact .none
      case isFalse =>
        cases e.attempts[id]? with
        | none => exact .none
        | some a => exact .some ⟨rfl, rfl, rfl, rfl, same⟩

theorem Alike.resume? (alike : Alike e f) (number : Nat) :
    Option.Rel Alike (e.resume? number) (f.resume? number) := by
  obtain ⟨_, _, _, _, rfl, same⟩ := alike.exists_eq
  simp only [Engine.resume?]
  cases e.waits[number]? with
  | none => exact .none
  | some w =>
      dsimp only
      split
      case isTrue => exact .some ⟨rfl, rfl, rfl, rfl, same⟩
      case isFalse => exact .none

theorem Alike.handle? (alike : Alike e f) (now : Moment) (id : Nat) (event : TaskEvent) :
    Option.Rel Alike (e.handle? now id event) (f.handle? now id event) := by
  obtain ⟨_, _, _, _, rfl, same⟩ := alike.exists_eq
  simp only [Engine.handle?]
  cases e.attempts[id]? with
  | none => exact .none
  | some a =>
      dsimp only
      cases a.react? now e.config event with
      | none => exact .none
      | some turn => exact .some ⟨rfl, rfl, rfl, rfl, same⟩

/-- What a way of reporting does with a job shows in its report only. -/
theorem Alike.settle? (alike : Alike e f) (now : Moment) (id : Nat) :
    Option.Rel Alike (e.settle? now id) (f.settle? now id) := by
  obtain ⟨_, _, _, _, rfl, same⟩ := alike.exists_eq
  simp only [Engine.settle?]
  cases e.attempts[id]? with
  | none => exact .none
  | some a =>
      dsimp only
      split
      case h_1 => exact .none
      case h_2 =>
        split
        case h_1 =>
          refine .some ⟨rfl, rfl, rfl, rfl, ?_⟩
          simpa [deliver, take, say, setAttempt, deliveryOf] using same
        case h_2 => exact .none

theorem Alike.wake? (alike : Alike e f) (id : Nat) :
    Option.Rel Alike (e.wake? id) (f.wake? id) := by
  obtain ⟨_, _, _, _, rfl, same⟩ := alike.exists_eq
  simp only [Engine.wake?]
  cases e.attempts[id]? with
  | none => exact .none
  | some a =>
      dsimp only
      split
      case h_1 => exact .none
      case h_2 =>
        split
        case h_1 => exact .some ⟨rfl, rfl, rfl, rfl, same⟩
        case h_2 => exact .none

/-- Alike engines can take the same steps, and are alike after them. -/
theorem Alike.step? (alike : Alike e f) (now : Moment) (event : Event) :
    Option.Rel Alike (e.step? now event) (f.step? now event) := by
  cases event with
  | create | wait =>
      obtain ⟨_, _, _, _, rfl, same⟩ := alike.exists_eq
      exact .some ⟨rfl, rfl, rfl, rfl, same⟩
  | run tree registry hasLoop id => exact alike.run now tree registry hasLoop id
  | stop id => exact alike.stop now id
  | cancel id => exact alike.cancel? id
  | resume number => exact alike.resume? number
  | task id event => exact alike.handle? now id event
  | settle id => exact alike.settle? now id
  | wake id => exact alike.wake? id

/-- Ways of reporting make no difference, whatever happens. -/
theorem Alike.play (alike : Alike e f) (events : List (Moment × Event)) :
    Alike (e.play events) (f.play events) := by
  induction events generalizing e f with
  | nil => exact alike
  | cons x rest ih =>
      refine ih (e := e.step x.1 x.2) (f := f.step x.1 x.2) ?_
      have related := alike.step? x.1 x.2
      unfold Engine.step
      generalize e.step? x.1 x.2 = one, f.step? x.1 x.2 = other at related
      cases related with
      | none => exact alike
      | some after => exact after

/-! ## Exactly once -/

/-- How often a job has been delivered. -/
def timesDelivered (e : Engine) (id : Nat) : Nat := (e.deliveries.map Delivery.job).count id

end Engine

namespace Course

variable {c : Course} {config : Config} {id : Nat}

theorem Faithful.dispatched_iff (faithful : Faithful config c) :
    .dispatched ∈ c.incidents id ↔
      ∃ a, c.engine.attempts[id]? = some a ∧ a.job.state ≠ .created := by
  cases found : c.engine.attempts[id]? with
  | none => simp [faithful.empty id found]
  | some a =>
      cases (faithful.lived id a found).stage with
      | idle _ _ created quiet => simp [quiet, created]
      | listed _ left dispatched => simp [left, dispatched]
      | delivered _ _ dispatched _ _ terminal =>
          simp [Job.left_of_terminal terminal, dispatched]

/-- The engine's callback runs at most once, and only for a job that was dispatched. -/
theorem Faithful.settled_once (faithful : Faithful config c)
    (settled : .settled ∈ c.incidents id) :
    .dispatched ∈ c.incidents id ∧ (c.incidents id).count .settled = 1 := by
  cases found : c.engine.attempts[id]? with
  | none => simp [faithful.empty id found] at settled
  | some a =>
      cases (faithful.lived id a found).stage with
      | idle _ _ _ quiet => simp [quiet] at settled
      | listed _ _ _ unsettled => exact absurd settled unsettled
      | delivered _ _ dispatched once => exact ⟨dispatched, once⟩

/-- A job has been delivered once if the engine's callback has run, and not at all
otherwise. -/
theorem Balanced.timesDelivered (faithful : Faithful config c) (balanced : c.Balanced)
    (id : Nat) :
    c.engine.timesDelivered id = if .settled ∈ c.incidents id then 1 else 0 := by
  rw [Engine.timesDelivered, balanced.count id]
  split
  case isTrue settled => exact (faithful.settled_once settled).2
  case isFalse unsettled => exact List.count_eq_zero.mpr unsettled

end Course

namespace Engine

/-- Whatever happens to an engine and in whatever order: a job counts as dispatched
exactly when it is no longer as it was created; the table holds, without repetition, the
dispatched jobs on whose tasks the engine's callback has not yet run; every other
dispatched job has been delivered once, and no other job at all; what was delivered had its
outcome. Somebody who waits for some jobs, whatever happens then, comes back only when all
those that were dispatched before have been delivered, and at once if none of them stands
in the table. And an engine with other ways of reporting, which may fail or not, has the
same jobs, table, waits and deliveries. -/
theorem delivered_exactly_once (config : Config) (width : Nat)
    (sinks : String → Nat → Except Error (Job → Report)) (events : List (Moment × Event)) :
    let c := (fresh config width sinks).course events
    (∀ id, .dispatched ∈ c.incidents id ↔
      ∃ a, c.engine.attempts[id]? = some a ∧ a.job.state ≠ .created) ∧
    (∀ id, id ∈ c.engine.table ↔
      .dispatched ∈ c.incidents id ∧ .settled ∉ c.incidents id) ∧
    c.engine.table.Nodup ∧
    (∀ id, c.engine.timesDelivered id =
      if .dispatched ∈ c.incidents id ∧ id ∉ c.engine.table then 1 else 0) ∧
    (∀ d ∈ c.engine.deliveries, d.record.state = .completed ∨ d.record.state = .cancelled) ∧
    (∀ now ids later,
      let begun := c.step now (.wait ids)
      let c' := begun.play later
      ∃ w w', begun.engine.waits[c.engine.waits.length]? = some w ∧
        c'.engine.waits[c.engine.waits.length]? = some w' ∧ w'.jobs = ids ∧
        ((∀ id ∈ ids, id ∉ c.engine.table) → w.returned) ∧
        (w'.returned → ∀ id ∈ ids, .dispatched ∈ c.incidents id →
          c'.engine.timesDelivered id = 1)) ∧
    ∀ width' sinks', Alike c.engine ((fresh config width' sinks').play events) := by
  intro c
  have faithful : Course.Faithful config c := Course.faithful config width sinks events
  have balanced : c.Balanced := Course.balanced config width sinks events
  refine ⟨fun id => faithful.dispatched_iff, balanced.table, balanced.nodup, fun id => ?_,
    fun d member => ?_, fun now ids later => ?_, fun width' sinks' => ?_⟩
  · rw [balanced.timesDelivered faithful]
    have (settled : .settled ∈ c.incidents id) := (faithful.settled_once settled).1
    grind [balanced.table id]
  · have terminal := (balanced.record d member).1
    revert terminal
    unfold Job.isTerminal
    cases d.record.state <;> simp [JobState.isTerminal]
  · have begun : Course.Faithful config (c.step now (.wait ids)) :=
      faithful.play [(now, .wait ids)]
    obtain ⟨w', found, jobs, ready, owed⟩ := (balanced.awaited now ids).play begun later
    refine ⟨_, w', List.getElem?_concat_length, found, jobs, fun unlisted => ?_,
      fun returned id listed dispatched => ?_⟩
    · have nothing : c.engine.table.filter (ids.contains ·) = [] :=
        List.filter_eq_nil_iff.mpr fun id there listed =>
          unlisted id (List.contains_iff_mem.mp listed) there
      exact List.isEmpty_iff.mpr nothing
    · have settled := (owed id listed dispatched).resolve_left (by simp [ready returned])
      have balanced' := balanced.play faithful ((now, .wait ids) :: later)
      exact (balanced'.timesDelivered (begun.play later) id).trans (if_pos settled)
  · have alike : Alike (fresh config width sinks) (fresh config width' sinks') :=
      ⟨rfl, rfl, rfl, rfl, rfl⟩
    rw [show c.engine = (fresh config width sinks).play events from Course.engine_play _ _]
    exact alike.play events

/-! A job that is dispatched while it is already waited for. -/

/-- The first of two jobs is dispatched, and both are waited for. Then the second is dispatched,
and the first comes to its end and is delivered. -/
def overtaken : Course :=
  let config : Config := { languages := [], directory := .current }
  let test : TestInfo := { name := none, file := Path.here, line := 1 }
  let tree : FileTree := { top := .directory [], current := Path.here }
  let events : List Event :=
    [.create ["sh"] test {}, .create ["sh"] test {}, .run tree {} true 0, .wait [0, 1],
      .run tree {} true 1, .task 0 (.begin (.failed .missing)), .settle 0, .wake 0]
  (fresh config 80 Report.sinkFor).course (events.map fun event => (⟨0, 1⟩, event))

/-- The wait comes back. -/
def overtakenReturned : Course := overtaken.step ⟨0, 1⟩ (.resume 0)

/-- A wait does not care for a job that is dispatched after it has begun: it comes back while
that job is running and has not been delivered. -/
theorem returned_undelivered :
    (∃ w, overtaken.engine.waits[0]? = some w ∧ ¬ w.returned) ∧
    (∃ w, overtakenReturned.engine.waits[0]? = some w ∧ w.returned ∧ 1 ∈ w.jobs) ∧
    .dispatched ∈ overtakenReturned.incidents 1 ∧
    overtakenReturned.engine.timesDelivered 1 = 0 ∧
    overtakenReturned.engine.jobs[1]?.map Job.state = some .running :=
  ⟨⟨_, rfl, by decide⟩, ⟨_, rfl, by decide, by decide⟩, by decide, by decide, by decide⟩

end Engine

end Proctor

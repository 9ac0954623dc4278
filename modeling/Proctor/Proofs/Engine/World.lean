import Proctor.Engine.World
import Proctor.Proofs.Engine.Life

/-!
# What an engine at work goes through

As time goes on, an engine at work is taken from event to event: those of its tasks, and the
callbacks. So what holds of an engine after every list of events holds of one at work. Here
it is that no job gets lost while others are waited for, or comes to be about another test.
-/

namespace Proctor

namespace Engine

variable {e : Engine} {id : Nat} {j : Job}

theorem play_append (e : Engine) (events later : List (Moment × Event)) :
    e.play (events ++ later) = (e.play events).play later := by
  simp [play]

/-- Whatever happens, a job stays at its place and is about the same test. -/
theorem exists_job_play (events : List (Moment × Event)) (found : e.jobs[id]? = some j) :
    ∃ k, (e.play events).jobs[id]? = some k ∧ k.test = j.test := by
  induction events generalizing e j with
  | nil => exact ⟨j, found, rfl⟩
  | cons x rest ih =>
      obtain ⟨k, found', test⟩ : ∃ k, (e.step x.1 x.2).jobs[id]? = some k ∧ k.test = j.test := by
        unfold step
        cases happens : e.step? x.1 x.2 with
        | none => exact ⟨j, found, rfl⟩
        | some e' =>
            simp only [jobs, List.getElem?_map, Option.map_eq_some_iff] at found
            obtain ⟨a, held, rfl⟩ := found
            obtain ⟨b, held', change⟩ := (steps_of_step? happens).changes held
            exact ⟨b.job, by simp [jobs, held'], change.test_eq⟩
      obtain ⟨l, found'', test'⟩ := ih found'
      exact ⟨l, found'', test'.trans test⟩

end Engine

namespace World

variable {w w' w'' : World}

/-- The engine of the second world is that of the first after some events. -/
def LeadsTo (w w' : World) : Prop := ∃ events, w'.engine = w.engine.play events

theorem LeadsTo.of_engine_eq (same : w'.engine = w.engine) : w.LeadsTo w' := ⟨[], same⟩

theorem LeadsTo.trans (first : w.LeadsTo w') (second : w'.LeadsTo w'') : w.LeadsTo w'' := by
  obtain ⟨events, same⟩ := first
  obtain ⟨later, same'⟩ := second
  exact ⟨events ++ later, by rw [same', same, Engine.play_append]⟩

/-- Clocks, files and agendas are no matter of the engine. -/
theorem LeadsTo.after {u : World} (leads : u.LeadsTo w') (same : u.engine = w.engine) :
    w.LeadsTo w' :=
  .trans (.of_engine_eq same) leads

/-- One event of the engine, which may be refused. -/
theorem LeadsTo.event (now : Moment) (event : Engine.Event)
    (same : w'.engine = w.engine.step now event) : w.LeadsTo w' :=
  ⟨[(now, event)], same⟩

/-! ## Tasks and callbacks -/

theorem engine_afterKill (w : World) (id : Nat) : (w.afterKill id).engine = w.engine := by
  unfold afterKill
  split <;> rfl

theorem engine_replan (w : World) (id : Nat) (before : Option Phase) :
    (w.replan id before).engine = w.engine := by
  rw [← w.engine_afterKill id]
  unfold replan
  dsimp only
  repeat' split
  all_goals rfl

theorem leadsTo_goOn (id n : Nat) (w : World) : w.LeadsTo (goOn id n w) := by
  induction n generalizing w with
  | zero => exact .of_engine_eq rfl
  | succ n ih =>
      unfold goOn
      split
      · rename_i engine went
        obtain ⟨event, -, handled⟩ := Option.bind_eq_some_iff.mp went
        refine .trans (.event w.moment (.task id event) ?_) (ih { w with engine })
        simp [Engine.step, Engine.step?, handled]
      · exact .of_engine_eq rfl

theorem leadsTo_happen (w : World) (id : Nat) (event : TaskEvent) :
    w.LeadsTo (w.happen id event) := by
  let handled : World :=
    { w with engine := (w.engine.handle? w.moment id event).getD w.engine }
  have first : w.LeadsTo handled := .event w.moment (.task id event) rfl
  exact (first.trans (leadsTo_goOn id stride handled)).trans (.of_engine_eq (engine_replan ..))

theorem leadsTo_callBack (id n : Nat) (w : World) : w.LeadsTo (callBack id n w) := by
  induction n generalizing w with
  | zero => exact .of_engine_eq (engine_replan ..)
  | succ n ih =>
      unfold callBack
      split
      · rename_i engine called
        refine .trans ?_ (ih { w with engine })
        cases settles : w.engine.settle? w.moment id with
        | some e =>
            refine .event w.moment (.settle id) ?_
            simp_all [Engine.callBack?, Engine.step, Engine.step?]
        | none =>
            refine .event w.moment (.wake id) ?_
            simp_all [Engine.callBack?, Engine.step, Engine.step?]
      · exact .of_engine_eq (engine_replan ..)

theorem leadsTo_begin [Host] (w : World) (id : Nat) : w.LeadsTo (w.begin id) := by
  unfold begin
  split
  · exact .of_engine_eq rfl
  · split
    · exact leadsTo_happen ..
    · exact (leadsTo_happen ..).after rfl

/-! ## Time -/

theorem leadsTo_next [Host] {limit : Option Nat} (next : w.next? limit = some w') :
    w.LeadsTo w' := by
  unfold next? at next
  split at next
  · cases next
  · split at next
    · cases next
    · obtain rfl := Option.some.inj next
      split
      · exact (leadsTo_begin ..).after rfl
      · exact (leadsTo_happen ..).after rfl
      · exact (leadsTo_callBack ..).after rfl

theorem leadsTo_runUntilReady [Host] (number n : Nat) (w : World) :
    w.LeadsTo (runUntilReady number n w) := by
  induction n generalizing w with
  | zero => exact .of_engine_eq rfl
  | succ n ih =>
      unfold runUntilReady
      split
      · exact .of_engine_eq rfl
      · split
        · rename_i next
          exact .trans (leadsTo_next next) (ih _)
        · exact .of_engine_eq rfl

theorem leadsTo_wait [Host] (w : World) (ids : List Nat) : w.LeadsTo (w.wait ids) := by
  let waiting : World := { w with engine := (w.engine.wait ids).1 }
  have first : w.LeadsTo waiting := .event w.moment (.wait ids) rfl
  have ready := first.trans (leadsTo_runUntilReady (w.engine.wait ids).2 patience waiting)
  exact ready.trans (.event w.moment (.resume (w.engine.wait ids).2) rfl)

/-- While jobs are waited for, every job stays at its place and is about the same test. -/
theorem exists_job_wait [Host] {id : Nat} {j : Job} (ids : List Nat)
    (found : w.engine.jobs[id]? = some j) :
    ∃ k, (w.wait ids).engine.jobs[id]? = some k ∧ k.test = j.test := by
  obtain ⟨events, same⟩ := w.leadsTo_wait ids
  rw [same]
  exact Engine.exists_job_play events found

end World

end Proctor

import Proctor.CommandLine.Batch
import Proctor.Machine.Process
import Proctor.Proofs.Engine.Passing
import Proctor.Proofs.Engine.World
import Proctor.Proofs.Session.Registers

/-!
# What a batch that ends well has done

A batch goes through stages: its targets are looked up and what is found is selected, the
selected tests are run, their jobs are waited for, and the exit code is made of them. What
each stage keeps of the one before is said by itself. Put together, an exit code of zero means
that for every target with a test the first test of that name in that file has passed, if it
could be dispatched. None of this depends on the host, that is on what becomes of the processes.
-/

namespace Proctor

open Session (adding sameKey)

namespace CommandLine

variable {s s' : Session} {language : Option String} {target : Target}

/-! ## Selecting -/

/-- The test at a target, if its file exists and a test is found there. -/
def located (s : Session) (language : Option String) (target : Target) : Option TestInfo :=
  if s.tree.isFile target.file then
    s.found ⟨target.file.text, none, target.line, language⟩
  else none

theorem located_congr (same : s'.setting = s.setting) :
    located s' language = located s language := by
  obtain ⟨-, tree, -, -⟩ := Session.Setting.mk.inj same
  funext target
  rw [located, located, tree, Session.found_congr same]

theorem selectTarget_kept (s : Session) (language : Option String) (target : Target) :
    (selectTarget language s target).1.setting = s.setting ∧
      (selectTarget language s target).1.selected =
        (located s language target).elim s.selected (adding s.selected) := by
  unfold selectTarget located
  split
  · let place : Session.Place := ⟨target.file.text, none, target.line, language⟩
    exact ⟨s.setting_selectAtPoint place, (Prod.mk.inj (s.registers_selectAtPoint place)).2⟩
  · exact ⟨rfl, rfl⟩

namespace Desk

theorem selectTargets_kept {targets : List Target} {d : Desk}
    (done : (selectTargets language targets d s).2 = .ok s') :
    s'.setting = s.setting ∧
      s'.selected = (targets.filterMap (located s language)).foldl adding s.selected := by
  induction targets generalizing d s with
  | nil =>
    obtain rfl := Except.ok.inj done
    exact ⟨rfl, rfl⟩
  | cons target rest ih =>
    obtain ⟨setting, selected⟩ := selectTarget_kept s language target
    rw [selectTargets] at done
    split at done
    · cases done
    · rename_i s₁ sighting first
      rw [first] at setting selected
      obtain ⟨setting', selected'⟩ := ih (s := (d.follow s₁).2) done
      have setting₁ : (d.follow s₁).2.setting = s₁.setting := rfl
      have selected₁ : (d.follow s₁).2.selected = s₁.selected := rfl
      rw [located_congr (setting₁.trans setting), selected₁, selected] at selected'
      refine ⟨setting'.trans (setting₁.trans setting), selected'.trans ?_⟩
      cases here : located s language target with
      | none => rw [List.filterMap_cons_none here]; rfl
      | some t => rw [List.filterMap_cons_some here]; rfl

/-! ## The exit code -/

/-- The exit code is zero exactly if the jobs that were waited for have all passed. -/
theorem exitFor_zero_iff {ids : List Nat} :
    exitFor s ids = .code 0 ↔
      ∀ id ∈ ids, ∀ j, s.world.engine.jobs[id]? = some j → j.succeeded := by
  have held : (∀ j ∈ ids.filterMap fun id => s.world.engine.jobs[id]?, j.succeeded) ↔
      ∀ id ∈ ids, ∀ j, s.world.engine.jobs[id]? = some j → j.succeeded := by
    simp only [List.mem_filterMap, forall_exists_index, and_imp]
    exact ⟨fun all id mem j found => all j id mem found,
      fun all j id mem found => all id mem j found⟩
  rw [exitFor, Job.exitCodeFor_eq, ← held]
  cases first : (ids.filterMap fun id => s.world.engine.jobs[id]?).find? (!·.succeeded) with
  | none => simpa using List.find?_eq_none.mp first
  | some k =>
    have failed : k.succeeded = false := by simpa using List.find?_some first
    have mem := List.mem_of_find?_eq_some first
    refine iff_of_false (fun zero => ?_) fun all => by simp [all k mem] at failed
    dsimp only at zero
    split at zero
    · rename_i n code
      obtain rfl := Exit.code.inj zero
      exact Job.failureCode_ne_zero k.exitCode code
    · cases zero
    · cases zero

/-! ## All stages -/

/-- How a batch goes. -/
structure BatchRun where
  /-- The session as it was opened. -/
  opened : Session
  targets : List Target
  /-- The session with the tests at the targets selected. -/
  selecting : Session
  /-- The session once the selected tests have been run. -/
  ran : Session
  /-- The jobs that are waited for. -/
  ids : List Nat

/-- The session once all jobs are over. -/
def BatchRun.final [Host] (b : BatchRun) : Session := b.ran.wait b.ids

/-- How a batch goes, as far as it comes to wait for jobs. -/
def batchRun? (d : Desk) (own : LogOptions) (r : BatchRequest) : Option BatchRun := do
  let targets ← (r.targets.mapM Target.parse).toOption
  let (d, opened) := (d.configureFor own).openSession r.config
  let opened ← opened.toOption
  let selecting ← (selectTargets r.language targets d opened).2.toOption
  let ids ← (selecting.runSelected r.options).2.toOption
  return { opened, targets, selecting, ran := (selecting.runSelected r.options).1, ids }

theorem openSession_ne_zero {d d' : Desk} {given : Option Path} {exit : Exit}
    (failed : d.openSession given = (d', .error exit)) : exit ≠ .code 0 := by
  unfold openSession at failed
  split at failed
  · cases failed
  · split at failed
    · obtain rfl := Except.error.inj (Prod.mk.inj failed).2
      intro zero
      exact absurd (Exit.code.inj zero) (by decide)
    · obtain rfl := Except.error.inj (Prod.mk.inj failed).2
      nofun

/-- Nothing is selected in a session that has just been opened. -/
theorem selected_of_openSession {d d' : Desk} {given : Option Path}
    (opened : d.openSession given = (d', .ok s)) : s.selected = [] := by
  unfold openSession at opened
  split at opened
  · obtain rfl := Except.ok.inj (Prod.mk.inj opened).2
    rfl
  · split at opened <;> cases opened

theorem runSelected_zero [Host] {d : Desk} {options : RunOptions}
    (zero : (d.runSelected s options).2 = .code 0) :
    ∃ ids, (s.runSelected options).2 = .ok ids ∧
      exitFor ((s.runSelected options).1.wait ids) ids = .code 0 := by
  unfold runSelected at zero
  split at zero
  · cases zero
  · rename_i ran ids done
    rw [done]
    dsimp only at zero
    split at zero
    · exact absurd (Exit.code.inj zero) (by decide)
    · exact ⟨ids, rfl, zero⟩

/-- A batch that ends with zero has come to wait for jobs, and its exit code is made of them. -/
theorem exists_batchRun [Host] {d : Desk} {own : LogOptions} {r : BatchRequest}
    (zero : (d.batch own r).2 = .ok (.code 0)) :
    ∃ b, d.batchRun? own r = some b ∧ exitFor b.final b.ids = .code 0 := by
  unfold batch at zero
  unfold batchRun?
  dsimp only at zero
  split at zero
  · cases zero
  · cases zero
  · rename_i targets parsed
    split at zero
    · rename_i d₁ exit failed
      exact absurd (Except.ok.inj zero) (openSession_ne_zero failed)
    · rename_i d₁ opened opens
      split at zero
      · cases zero
      · rename_i d₂ selecting selects
        split at zero
        · exact absurd (Exit.code.inj (Except.ok.inj zero)) (by decide)
        · obtain ⟨ids, done, passed⟩ := runSelected_zero (Except.ok.inj zero)
          exact ⟨⟨opened, targets, selecting, _, ids⟩,
            by simp [parsed, opens, selects, done, Except.toOption], passed⟩

/-- A batch that comes to wait for some jobs ends with the exit code that is made of them. -/
theorem batch_of_batchRun [Host] {d : Desk} {own : LogOptions} {r : BatchRequest}
    {b : BatchRun} (run : d.batchRun? own r = some b) (waits : b.ids ≠ []) :
    (d.batch own r).2 = .ok (exitFor b.final b.ids) := by
  unfold batchRun? at run
  simp only [Option.bind_eq_bind, Option.bind_eq_some_iff, Except.toOption_eq_some] at run
  obtain ⟨targets, parsed, opened, opens, selecting, selects, ids, done, same⟩ := run
  obtain rfl := Option.some.inj same
  have waits : ids ≠ [] := waits
  have chosen : selecting.selected ≠ [] := by
    intro none_
    rw [Session.runSelected, none_] at done
    exact waits (Except.ok.inj done).symm
  have opens : (d.configureFor own).openSession r.config =
      (((d.configureFor own).openSession r.config).1, .ok opened) := Prod.ext rfl opens
  have selects : selectTargets r.language targets ((d.configureFor own).openSession r.config).1
      opened = ((selectTargets r.language targets
        ((d.configureFor own).openSession r.config).1 opened).1, .ok selecting) :=
    Prod.ext rfl selects
  have done : selecting.runSelected r.options =
      ((selecting.runSelected r.options).1, .ok ids) := Prod.ext rfl done
  unfold batch
  rw [parsed]
  dsimp only
  rw [opens]
  dsimp only
  rw [selects]
  simp only [List.isEmpty_iff, chosen, if_false, runSelected]
  rw [done]
  simp only [waits, if_false]
  rfl

/-- What is known of the stages of a batch that comes to wait for jobs. -/
structure BatchRun.Stages (b : BatchRun) (r : BatchRequest) : Prop where
  parsed : r.targets.mapM Target.parse = .ok b.targets
  setting : b.selecting.setting = b.opened.setting
  selected : b.selecting.selected =
    (b.targets.filterMap (located b.opened r.language)).eraseDupsBy sameKey
  done : b.selecting.runSelected r.options = (b.ran, .ok b.ids)

theorem stages_of_batchRun {d : Desk} {own : LogOptions} {r : BatchRequest} {b : BatchRun}
    (run : d.batchRun? own r = some b) : b.Stages r := by
  unfold batchRun? at run
  simp only [Option.bind_eq_bind, Option.bind_eq_some_iff, Except.toOption_eq_some] at run
  obtain ⟨targets, parsed, opened, opens, selecting, selects, ids, done, same⟩ := run
  obtain rfl := Option.some.inj same
  obtain ⟨setting, selected⟩ := selectTargets_kept selects
  rw [selected_of_openSession (Prod.ext rfl opens), Session.foldl_adding] at selected
  exact ⟨parsed, setting, selected, Prod.ext rfl done⟩

/-- A batch that ends with zero has let no test fail. For every target whose file exists and at
which a test is found, the first test of that name and that file among those found at the
targets has passed, if it has all that a dispatch needs: it is that very test unless one of the
same name was found in the same file before. -/
theorem succeeded_of_batch [Host] {d : Desk} {own : LogOptions} {r : BatchRequest}
    (zero : (d.batch own r).2 = .ok (.code 0)) :
    ∃ b, d.batchRun? own r = some b ∧ r.targets.mapM Target.parse = .ok b.targets ∧
      ∀ target ∈ b.targets, ∀ t, located b.opened r.language target = some t →
        ∃ u, (b.targets.filterMap (located b.opened r.language)).find? (·.key == t.key) =
            some u ∧
          ∀ needs, b.opened.clearance u r.options = .ok needs →
            ∃ id ∈ b.ids, ∃ j, b.final.world.engine.jobs[id]? = some j ∧ j.test = u ∧
              j.succeeded := by
  obtain ⟨b, run, passed⟩ := exists_batchRun zero
  have stages := stages_of_batchRun run
  refine ⟨b, run, stages.parsed, ?_⟩
  intro target mem t found
  have held : t ∈ b.targets.filterMap (located b.opened r.language) :=
    List.mem_filterMap.mpr ⟨target, mem, found⟩
  obtain ⟨u, first⟩ : ∃ u, (b.targets.filterMap (located b.opened r.language)).find?
      (·.key == t.key) = some u :=
    Option.isSome_iff_exists.mp (List.find?_isSome.mpr ⟨t, held, beq_self_eq_true t.key⟩)
  refine ⟨u, first, fun ⟨command, directory⟩ cleared => ?_⟩
  have chosen : u ∈ b.selecting.selected :=
    stages.selected ▸ Session.mem_eraseDupsBy_of_find? first
  have cleared' := (Session.clearance_congr stages.setting).trans cleared
  have done := stages.done
  rw [Session.runSelected, if_neg (by simp [List.ne_nil_of_mem chosen])] at done
  obtain ⟨id, mem', j, ran, test⟩ :=
    Session.exists_job_runEach (congrArg Prod.snd done) chosen cleared'
  rw [congrArg Prod.fst done] at ran
  obtain ⟨k, ended, test'⟩ := World.exists_job_wait b.ids ran
  exact ⟨id, mem', k, ended, test'.trans test, exitFor_zero_iff.mp passed id mem' k ended⟩

/-! Two classes with a test of the same name. -/

def twinConfig : String := "[languages]\npython.commands = 'true %S'\n"

def twinSource : String :=
  "class TestA:\n    def test_x(self): pass\nclass TestB:\n    def test_x(self): pass\n"

def twinTree : FileTree where
  top := .directory [
    ("testatpoint.toml", .file (Text.Utf8.encode twinConfig) false),
    ("t.py", .file (Text.Utf8.encode twinSource) false)]
  current := ⟨.slash, []⟩

def twinDesk : Desk where
  call := { words := [], environment := [], tree := twinTree, time := "" }
  tree := twinTree

def twinRequest : BatchRequest where
  targets := ["t.py:2", "t.py:4"]
  language := none
  options := {}
  config := none

def twin (context : String) (line : Int) : TestInfo where
  name := some "test_x"
  file := ⟨.slash, ["t.py"]⟩
  line := line
  language := "python"
  context := some ⟨context, 0, false⟩

/-- How the batch of the two targets goes: each has a test with all that a dispatch needs, and
only the first is run. -/
theorem exists_twinRun : ∃ b, twinDesk.batchRun? {} twinRequest = some b ∧
    b.targets.map (located b.opened none) = [some (twin "TestA" 2), some (twin "TestB" 4)] ∧
    b.ids = [0] ∧ (b.final.world.engine.jobs.map fun j => (j.test, j.succeeded)) =
      [(twin "TestA" 2, true)] ∧
    [twin "TestA" 2, twin "TestB" 4].map (fun t => (b.opened.clearance t {}).isOk) =
      [true, true] := by
  have facts : (twinDesk.batchRun? {} twinRequest).map (fun b =>
      (b.targets.map (located b.opened none), b.ids,
        b.final.world.engine.jobs.map fun j => (j.test, j.succeeded),
        [twin "TestA" 2, twin "TestB" 4].map fun t => (b.opened.clearance t {}).isOk)) =
      some ([some (twin "TestA" 2), some (twin "TestB" 4)], [0], [(twin "TestA" 2, true)],
        [true, true]) := by decide +kernel
  obtain ⟨b, run, same⟩ := Option.map_eq_some_iff.mp facts
  simp only [Prod.mk.injEq] at same
  exact ⟨b, run, same⟩

theorem twin_zero : (twinDesk.batch {} twinRequest).2 = .ok (.code 0) := by
  obtain ⟨b, run, -, ids, jobs, -⟩ := exists_twinRun
  rw [batch_of_batchRun run (by simp [ids])]
  congr
  rw [exitFor_zero_iff, ids]
  intro id mem j found
  obtain rfl := List.mem_singleton.mp mem
  have only := congrArg (·[0]?) jobs
  simp only [List.getElem?_map, found, Option.map_some, List.getElem?_cons_zero,
    Option.some.injEq, Prod.mk.injEq] at only
  exact only.2

/-- The batch ends with zero, and the test that was found at its first target has passed. -/
theorem succeeded_of_batch_twins :
    (twinDesk.batch {} twinRequest).2 = .ok (.code 0) ∧
    ∃ b, twinDesk.batchRun? {} twinRequest = some b ∧
      ∃ id ∈ b.ids, ∃ j, b.final.world.engine.jobs[id]? = some j ∧ j.test = twin "TestA" 2 ∧
        j.succeeded := by
  refine ⟨twin_zero, ?_⟩
  obtain ⟨b, run, found, -, -, cleared⟩ := exists_twinRun
  obtain ⟨b', run', -, passed⟩ := succeeded_of_batch twin_zero
  obtain rfl := Option.some.inj (run.symm.trans run')
  obtain ⟨target, mem, here⟩ : ∃ target ∈ b.targets,
      located b.opened none target = some (twin "TestA" 2) :=
    List.mem_map.mp (found ▸ List.mem_cons_self)
  have tests : b.targets.filterMap (located b.opened none) =
      [twin "TestA" 2, twin "TestB" 4] := by
    have same := congrArg (List.filterMap id) found
    rwa [List.filterMap_map] at same
  obtain ⟨u, first, job⟩ := passed target mem _ here
  obtain rfl : twin "TestA" 2 = u := by
    have first' := (congrArg (List.find? (·.key == (twin "TestA" 2).key)) tests).symm.trans first
    exact Option.some.inj first'
  cases needs : b.opened.clearance (twin "TestA" 2) {} with
  | error why => simp [needs, Except.isOk, Except.toBool] at cleared
  | ok needs' => exact ⟨b, run, job needs' needs⟩

/-- The batch ends with zero, but of the tests that are found at its two targets the second,
which has the name and the file of the first and another class around it, is not that of a
job, although it has all that a dispatch needs. -/
theorem batch_passes_over_twin :
    (twinDesk.batch {} twinRequest).2 = .ok (.code 0) ∧
    ∃ b, twinDesk.batchRun? {} twinRequest = some b ∧
      b.targets.map (located b.opened twinRequest.language) =
        [some (twin "TestA" 2), some (twin "TestB" 4)] ∧
      (b.opened.clearance (twin "TestB" 4) twinRequest.options).isOk ∧
      b.final.world.engine.jobs.map Job.test = [twin "TestA" 2] := by
  refine ⟨twin_zero, ?_⟩
  obtain ⟨b, run, found, -, jobs, cleared⟩ := exists_twinRun
  refine ⟨b, run, found, ?_, by simpa using congrArg (List.map Prod.fst) jobs⟩
  simp only [List.map_cons, List.cons.injEq] at cleared
  exact cleared.2.1

end Desk

end CommandLine

end Proctor

import Mathlib.Data.List.Induction
import Proctor.Proofs.Session.Locate
import Proctor.Proofs.Session.Place

/-!
# The registers of a session

What the two registers of a session hold is told by its history alone. The selection is
made of the tests that were chosen since it was last cleared, the first of each key; the
last test is the latest that was to be run. What one operation does to each register is
said once, for all operations; from that the same follows for every history.
-/

namespace Proctor

namespace Session

variable {s : Session} {t : TestInfo} {options : RunOptions} {p : Place}

/-- The last test and the selected tests. -/
def registers (s : Session) : Option TestInfo × List TestInfo := (s.last, s.selected)

/-! ## Operations that are about no test -/

@[simp] theorem registers_say (records : List Log.Record) :
    (s.say records).registers = s.registers := rfl

@[simp] theorem registers_note (level : Log.Level) (event : String) (entries : Log.Entries) :
    (s.note level event entries).registers = s.registers := rfl

@[simp] theorem registers_register (tag : String) (p : Profile) :
    (s.register tag p).registers = s.registers := rfl

@[simp] theorem registers_stop (id : Nat) : (s.stop id).1.registers = s.registers := rfl

@[simp] theorem registers_locate (file : String) (lines : Option (List String)) (cursor : Int)
    (language : Option String) :
    (s.locate file lines cursor language).1.registers = s.registers := by
  obtain ⟨records, said⟩ := s.locate_says file lines cursor language
  rw [said, registers_say]

@[simp] theorem registers_findAll (file : String) (lines : Option (List String))
    (language : Option String) :
    (s.findAll file lines language).1.registers = s.registers := by
  cases opened : s.source file lines language with
  | error why =>
    simp only [findAll, opened]
    split <;> simp
  | ok source =>
    simp only [findAll, opened, registers_say]
    split <;> simp

@[simp] theorem registers_counterpart (file : String) :
    (s.counterpart file).1.registers = s.registers := by
  unfold counterpart
  lift_lets
  intro path said
  cases Counterpart.of said.tree said.registry path with
  | error why => rfl
  | ok other => cases other <;> rfl

/-! ## Attempts -/

theorem registers_runTest (s : Session) (t : TestInfo) (options : RunOptions) :
    (s.runTest t options).1.registers = (some t, s.selected) := by
  obtain ⟨-, last, selected⟩ := s.runTest_kept t options
  rw [registers, last, selected]

/-- Where no test is found, nothing happens to the registers. -/
theorem registers_atPoint_of_missed {α : Type}
    {action : Session → TestInfo → Session × Except Error (Option α)}
    (missed : s.found p = none) :
    (s.atPoint p.file p.lines p.cursor p.language action).1.registers = s.registers := by
  obtain ⟨records, said⟩ := atPoint_says_of_missed (α := α) missed
  rw [said, registers_say]

theorem registers_runAtPoint (s : Session) (p : Place) (options : RunOptions) :
    (s.runAtPoint p.file p.lines p.cursor p.language options).1.registers =
      ((s.found p).or s.last, s.selected) := by
  unfold runAtPoint
  cases found : s.found p with
  | none => exact registers_atPoint_of_missed found
  | some t =>
    have kept := s.registers_locate p.file p.lines p.cursor p.language
    rw [atPoint_of_found found, registers_runTest, (Prod.mk.inj kept).2]
    rfl

theorem registers_runLast (s : Session) (options : RunOptions) :
    (s.runLast options).1.registers = s.registers := by
  unfold runLast
  cases last : s.last with
  | none => exact registers_note ..
  | some t =>
    dsimp only
    rw [registers_runTest, ← last, registers]

theorem tried_cons (rest : List TestInfo) :
    s.tried options (t :: rest) =
      t :: if s.escapes options t then [] else s.tried options rest := by
  cases escapes : s.escapes options t <;> simp [tried, escapes]

theorem tried_congr {s' : Session} (same : s'.setting = s.setting) (tests : List TestInfo) :
    s'.tried options tests = s.tried options tests := by
  have escapes : s'.escapes options = s.escapes options := by
    funext t
    rw [Session.escapes, Session.escapes, isOk_runTest_congr same]
  simp only [tried, escapes]

/-- Of some tests that are run one after the other, the latest that is tried is remembered.
No attempt changes the setting, so which tests are tried can be told beforehand. -/
theorem registers_runEach (options : RunOptions) (tests : List TestInfo) (s : Session) :
    (runEach options tests s).1.registers =
      ((s.tried options tests).getLast?.or s.last, s.selected) := by
  induction tests generalizing s with
  | nil => rfl
  | cons t rest ih =>
    obtain ⟨setting, last, selected⟩ := s.runTest_kept t options
    have registers := s.registers_runTest t options
    rw [tried_cons, escapes]
    unfold runEach
    split
    · rename_i s' why failed
      rw [failed] at registers ⊢
      simpa [Except.isOk, Except.toBool] using registers
    · rename_i s' id done
      rw [done] at setting last selected ⊢
      have rest := ih s'
      rw [tried_congr setting, last, selected] at rest
      simp [rest, Except.isOk, Except.toBool, List.getLast?_cons]

theorem registers_runSelected (s : Session) (options : RunOptions) :
    (s.runSelected options).1.registers =
      ((s.tried options s.selected).getLast?.or s.last, s.selected) := by
  unfold runSelected
  split
  · rename_i empty
    rw [registers_note, List.isEmpty_iff.mp empty]
    simp [tried, registers, List.isEmpty_iff.mp empty]
  · exact registers_runEach options s.selected s

/-! ## Choices -/

/-- Some tests with one more behind them, unless one of its key is among them. -/
def adding (tests : List TestInfo) (t : TestInfo) : List TestInfo :=
  if tests.any fun u => u.key == t.key then tests else tests ++ [t]

theorem registers_select (s : Session) (t : TestInfo) :
    (s.select t).1.registers = (s.last, adding s.selected t) := by
  unfold select hasSelected adding
  split <;> rfl

theorem select_answer (s : Session) (t : TestInfo) :
    (s.select t).2 = true ↔ ∀ u ∈ s.selected, u.key ≠ t.key := by
  unfold select hasSelected
  split <;> simp_all

theorem registers_selectAtPoint (s : Session) (p : Place) :
    (s.selectAtPoint p.file p.lines p.cursor p.language).1.registers =
      (s.last, (s.found p).elim s.selected (adding s.selected)) := by
  unfold selectAtPoint
  cases found : s.found p with
  | none => exact registers_atPoint_of_missed found
  | some t =>
    have kept := s.registers_locate p.file p.lines p.cursor p.language
    obtain ⟨last, selected⟩ := Prod.mk.inj kept
    rw [atPoint_of_found found, registers_select, last, selected]
    rfl

theorem setting_selectAtPoint (s : Session) (p : Place) :
    (s.selectAtPoint p.file p.lines p.cursor p.language).1.setting = s.setting := by
  unfold selectAtPoint
  cases found : s.found p with
  | none =>
    obtain ⟨records, said⟩ := atPoint_says_of_missed (α := TestInfo) found
    rw [said, setting_say]
  | some t =>
    obtain ⟨records, said⟩ := s.locate_says p.file p.lines p.cursor p.language
    rw [atPoint_of_found found, said]
    unfold select
    split <;> rfl

/-! ## All operations -/

theorem getLast?_toList {α : Type} (o : Option α) : o.toList.getLast? = o := by cases o <;> rfl

/-- What an operation does to the registers. The last test is the latest of those that were to
be run, if there was one, and a test that was chosen is selected unless one of its key is. -/
theorem registers_perform (s : Session) (op : Operation) :
    (s.perform op).registers =
      ((op.attempted s).getLast?.or s.last,
        if op.clears then [] else (op.chosen s).elim s.selected (adding s.selected)) := by
  cases op with
  | register tag p => exact registers_register tag p
  | languageOf | listSelected | meanwhile => rfl
  | locate p => exact registers_locate ..
  | findAll file lines language => exact registers_findAll file lines language
  | run t options => exact registers_runTest s t options
  | runAtPoint p options =>
    rw [Operation.attempted, getLast?_toList]
    exact registers_runAtPoint s p options
  | debugAtPoint p options =>
    rw [Operation.attempted, getLast?_toList]
    exact registers_runAtPoint s p _
  | runLast options =>
    rw [Operation.attempted, getLast?_toList, Option.or_self]
    exact registers_runLast s options
  | stop id => exact registers_stop id
  | select t => exact registers_select s t
  | selectAtPoint p => exact registers_selectAtPoint s p
  | clearSelected => rfl
  | runSelected options => exact registers_runSelected s options
  | counterpart file => exact registers_counterpart file

/-- Have two tests the same key? -/
def sameKey (t u : TestInfo) : Bool := u.key == t.key

/-- Of some tests with one more behind them, the first of each key are those of the tests
before, and the last one if its key is new. -/
theorem eraseDupsBy_append_singleton (tests : List TestInfo) (t : TestInfo) :
    (tests ++ [t]).eraseDupsBy sameKey = adding (tests.eraseDupsBy sameKey) t := by
  suffices loop : ∀ seen, List.eraseDupsBy.loop sameKey (tests ++ [t]) seen =
      adding (List.eraseDupsBy.loop sameKey tests seen) t from loop []
  induction tests with
  | nil =>
    intro seen
    simp only [List.nil_append, List.eraseDupsBy.loop, adding, List.any_reverse]
    split <;> simp_all [sameKey]
  | cons u rest ih =>
    intro seen
    simp only [List.cons_append, List.eraseDupsBy.loop]
    split <;> exact ih _

theorem forall_mem_adding (tests : List TestInfo) (t v : TestInfo) :
    (∀ u ∈ adding tests v, u.key ≠ t.key) ↔ (∀ u ∈ tests, u.key ≠ t.key) ∧ v.key ≠ t.key := by
  unfold adding
  split
  · rename_i known
    obtain ⟨u, mem, same⟩ := List.any_eq_true.mp known
    have same : u.key = v.key := eq_of_beq same
    exact ⟨fun new => ⟨new, same ▸ new u mem⟩, And.left⟩
  · simp [or_imp, forall_and]

theorem forall_mem_eraseDupsBy (tests : List TestInfo) (t : TestInfo) :
    (∀ u ∈ tests.eraseDupsBy sameKey, u.key ≠ t.key) ↔ ∀ u ∈ tests, u.key ≠ t.key := by
  induction tests using List.reverseRecOn with
  | nil => rfl
  | append_singleton tests v ih =>
    rw [eraseDupsBy_append_singleton, forall_mem_adding, ih]
    simp [or_imp, forall_and]

/-- To add tests one after the other is to keep the first of each key. -/
theorem foldl_adding (tests : List TestInfo) :
    tests.foldl adding [] = tests.eraseDupsBy sameKey := by
  induction tests using List.reverseRecOn with
  | nil => rfl
  | append_singleton tests t ih =>
    rw [List.foldl_append, ih, eraseDupsBy_append_singleton]
    rfl

/-- The first test of a key is one of those that are kept. -/
theorem mem_eraseDupsBy_of_find? {tests : List TestInfo} {t u : TestInfo}
    (first : tests.find? (·.key == t.key) = some u) : u ∈ tests.eraseDupsBy sameKey := by
  induction tests using List.reverseRecOn with
  | nil => cases first
  | append_singleton tests v ih =>
    rw [List.find?_append, Option.or_eq_some_iff] at first
    rw [eraseDupsBy_append_singleton, adding]
    obtain first | ⟨missing, last⟩ := first
    · split
      · exact ih first
      · exact List.mem_append_left _ (ih first)
    · have isNew : ∀ w ∈ tests.eraseDupsBy sameKey, w.key ≠ t.key :=
        (forall_mem_eraseDupsBy tests t).mpr (by simpa using missing)
      obtain ⟨same, rfl⟩ : v.key = t.key ∧ v = u := by simpa using last
      rw [if_neg (by simpa [same] using isNew)]
      exact List.mem_append_right _ List.mem_cons_self

/-! ## Histories -/

namespace Chronicle

variable {c : Chronicle}

/-- The registers of the session are what its history makes them. -/
structure Agrees (c : Chronicle) : Prop where
  selected : c.session.selected = c.chosen.eraseDupsBy sameKey
  last : c.session.last = c.attempted.getLast?

theorem Agrees.step (agrees : c.Agrees) (op : Operation) : (c.step op).Agrees := by
  obtain ⟨last, selected⟩ := Prod.mk.inj (c.session.registers_perform op)
  constructor
  · simp only [Chronicle.step, selected, agrees.selected]
    split
    · rfl
    · cases op.chosen c.session with
      | none => simp
      | some t => exact (eraseDupsBy_append_singleton c.chosen t).symm
  · simp [Chronicle.step, last, agrees.last]

theorem Agrees.play (agrees : c.Agrees) (ops : List Operation) :
    (ops.foldl Chronicle.step c).Agrees := by
  induction ops generalizing c with
  | nil => exact agrees
  | cons op rest ih => exact ih (agrees.step op)

/-- What is kept of the history decides nothing. -/
theorem session_play (c : Chronicle) (ops : List Operation) :
    (ops.foldl Chronicle.step c).session = ops.foldl perform c.session := by
  induction ops generalizing c with
  | nil => rfl
  | cons op rest ih => exact ih (c.step op)

end Chronicle

/-- The registers of a session follow its history. Whatever a new session is asked for, and
whatever else happens in between, its selection is made of the tests that were given or found
for it since it was last cleared, in that order and only the first of each key; a test is newly
selected exactly if none of these has its key; and the last test is the latest that was to be
run, no matter what came of it. An operation that neither chooses a test nor clears the
selection leaves it as it is, and one that does not come to run a test leaves the last test. -/
theorem registers_follow_history (config : Config) (given : Option Registry) (tree : FileTree)
    (environment : Environment) (width : Nat) (ops : List Operation) :
    let new := create config given tree environment width
    let s := ops.foldl perform new
    let history := new.chronicle ops
    s.selected = history.chosen.eraseDupsBy (fun t u => u.key == t.key) ∧
    s.last = history.attempted.getLast? ∧
    (∀ t, (s.select t).2 = true ↔ ∀ u ∈ history.chosen, u.key ≠ t.key) ∧
    ∀ op : Operation,
      (op.chosen s = none → ¬ op.clears → (s.perform op).selected = s.selected) ∧
      (op.attempted s = [] → (s.perform op).last = s.last) := by
  intro new s history
  have agrees : history.Agrees := Chronicle.Agrees.play (c := ⟨new, [], []⟩) ⟨rfl, rfl⟩ ops
  have same : history.session = s := Chronicle.session_play ⟨new, [], []⟩ ops
  refine ⟨same ▸ agrees.selected, same ▸ agrees.last, fun t => ?_, fun op => ?_⟩
  · rw [select_answer, ← same, agrees.selected, forall_mem_eraseDupsBy]
  · obtain ⟨last, selected⟩ := Prod.mk.inj (s.registers_perform op)
    constructor
    · intro chosen stays
      rw [selected, chosen, if_neg stays]
      rfl
    · intro attempted
      rw [last, attempted]
      rfl

/-! A session that knows the Go language, and some of what can be asked of it. -/

def goNew : Session :=
  create { languages := [("go", goProfile)] } none goSession.tree [] 80

def goPlace (cursor : Int) : Place := ⟨"pkg/sum_test.go", some goLines, cursor, some "go"⟩

/-- A test is selected at its place and then once more, no test is found above all lines, and
another test is run. -/
def goOperations : List Operation :=
  [.selectAtPoint (goPlace 3), .select (goTest "TestSum" 9), .runAtPoint (goPlace 1) {},
    .run (goTest "BenchmarkSum" 4) {}]

/-- The selection has the first test, which running all that is selected does not change; the
last test is the other one, which missing a test does not change. -/
theorem registers_follow_history_go :
    let s := goOperations.foldl perform goNew
    s.selected = [goTest "TestSum" 2] ∧ s.last = some (goTest "BenchmarkSum" 4) ∧
      (s.select (goTest "TestSum" 9)).2 = false ∧
      (s.perform (.runSelected {})).selected = s.selected ∧
      (s.perform (.counterpart "sum.go")).last = s.last := by
  intro s
  have chosen : (goNew.chronicle goOperations).chosen = [goTest "TestSum" 2, goTest "TestSum" 9] :=
    by decide +kernel
  have attempted : (goNew.chronicle goOperations).attempted = [goTest "BenchmarkSum" 4] := by
    decide +kernel
  obtain ⟨selected, last, new, others⟩ := registers_follow_history
    { languages := [("go", goProfile)] } none goSession.tree [] 80 goOperations
  refine ⟨selected.trans ?_, last.trans ?_, ?_, (others (.runSelected {})).1 rfl (by decide),
    (others (.counterpart "sum.go")).2 rfl⟩
  · exact (congrArg _ chosen).trans (by decide)
  · exact congrArg List.getLast? attempted
  · rw [Bool.eq_false_iff]
    intro isNew
    have member : goTest "TestSum" 9 ∈ (goNew.chronicle goOperations).chosen := by simp [chosen]
    exact (new _).mp isNew _ member rfl

end Session

end Proctor

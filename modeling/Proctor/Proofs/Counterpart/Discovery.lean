import Mathlib.Data.List.Sort
import Mathlib.Data.String.Basic
import Proctor.Proofs.Counterpart.Name
import Proctor.Proofs.FileTree

/-!
# Finding test files and telling them

A test file is told by the rules of one profile, as globs, and the test files below a directory
are found by the rules of all profiles, as patterns for paths. The two agree on every rule but
those with double stars: a rule that is one finds no file though every name satisfies it, and
a double star next to anything else makes the search fail.
-/

namespace Proctor.Counterpart

open FileTree (IsBelow)
open Node (IsEntryName)

variable {tree : FileTree} {registry : Registry} {root p : Path} {values : List Value}
  {rule name : String} {rules : List String} {found : List Path}

/-! ## Telling a test file -/

/-- Is every naming rule a text? -/
def AllTexts (values : List Value) : Prop := ∀ value ∈ values, ∃ text, value = .text text

/-- Is it what one of the naming rules asks of a name? -/
def IsNameRule (values : List Value) (rule : String) : Prop :=
  ∃ text, .text text ∈ values ∧ nameRule text = rule

theorem nameRuleOf_eq_ok {value : Value} :
    nameRuleOf value = .ok rule ↔ ∃ text, value = .text text ∧ nameRule text = rule := by
  cases value <;> simp [nameRuleOf]

theorem AllTexts.exists_map (texts : AllTexts values) :
    ∃ rules : List String, values = rules.map .text := by
  induction values with
  | nil => exact ⟨[], rfl⟩
  | cons value rest ih =>
    obtain ⟨⟨text, rfl⟩, later⟩ := List.forall_mem_cons.mp texts
    obtain ⟨rules, rfl⟩ := ih later
    exact ⟨text :: rules, rfl⟩

/-- With texts for rules a name satisfies one of them if it matches what one asks for. -/
theorem satisfiesAny_eq_ok_true (texts : AllTexts values) :
    satisfiesAny name values = .ok true ↔
      ∃ rule, IsNameRule values rule ∧ Glob.holds rule name := by
  obtain ⟨rules, rfl⟩ := texts.exists_map
  simp [satisfiesAny_texts, IsNameRule]

/-- The naming rules of all profiles. -/
def rulesOf (registry : Registry) : List Value :=
  registry.entries.flatMap (·.2.testFileNaming)

/-- Is the file a test file by the rules of a profile that is registered? -/
def IsTestFile (registry : Registry) (p : Path) : Prop :=
  ∃ e ∈ registry.entries, isTestFile p e.2 = .ok true

theorem isTestFile_iff (texts : AllTexts (rulesOf registry)) :
    IsTestFile registry p ↔
      ∃ rule, IsNameRule (rulesOf registry) rule ∧ Glob.holds rule p.name := by
  have each (e : String × Profile) (mem : e ∈ registry.entries) :
      isTestFile p e.2 = .ok true ↔
        ∃ rule, IsNameRule e.2.testFileNaming rule ∧ Glob.holds rule p.name :=
    satisfiesAny_eq_ok_true fun value asked => texts value (List.mem_flatMap.mpr ⟨e, mem, asked⟩)
  unfold IsTestFile
  constructor
  · rintro ⟨e, mem, told⟩
    obtain ⟨rule, ⟨text, asked, named⟩, holds⟩ := (each e mem).mp told
    exact ⟨rule, ⟨text, List.mem_flatMap.mpr ⟨e, mem, asked⟩, named⟩, holds⟩
  · rintro ⟨rule, ⟨text, asked, named⟩, holds⟩
    obtain ⟨e, mem, asked⟩ := List.mem_flatMap.mp asked
    exact ⟨e, mem, (each e mem).mpr ⟨rule, ⟨text, asked, named⟩, holds⟩⟩

/-! ## Finding test files -/

/-- Can a search be made with the rule? A double star must be the whole rule. -/
def IsSearchable (rule : String) : Prop := rule = "**" ∨ hasDoubleStar rule.toList = false

theorem picks_eq_error {e : Error} :
    picks rule name = .error e ↔ e = .unfit .doubleStar ∧ ¬ IsSearchable rule := by
  have special : ["", ".", "..", "**"].contains rule → IsSearchable rule := by
    intro mem
    obtain rfl | rfl | rfl | rfl := by simpa using mem
    · exact .inr rfl
    · exact .inr rfl
    · exact .inr rfl
    · exact .inl rfl
  unfold picks
  split
  · rename_i mem
    simp [special mem]
  · rename_i none
    have other : rule ≠ "**" := by
      rintro rfl
      exact none rfl
    split
    · rename_i double
      simp [IsSearchable, other, double, eq_comm]
    · rename_i single
      simp [IsSearchable, single]

theorem holds_of_no_wildcard (plain : hasWildcard rule = false) :
    Glob.holds rule name = (rule == name) := by
  apply Glob.holds_of_plain
  unfold hasWildcard at plain
  rw [List.any_eq_false] at plain
  rw [List.all_eq_true]
  intro c mem
  simpa [Glob.isPlain, and_assoc] using plain c mem

theorem not_isEntryName_of_special (special : rule ∈ ["", ".", ".."]) : ¬ IsEntryName rule := by
  rintro ⟨⟨-, counts⟩, up⟩
  obtain rfl | rfl | rfl := by simpa using special
  · cases counts
  · cases counts
  · exact up rfl

/-- A rule picks the names it matches as a glob, if it is no double star. -/
theorem picks_eq_ok (searchable : IsSearchable rule) (named : IsEntryName name) :
    picks rule name = .ok (rule != "**" && Glob.holds rule name) := by
  by_cases double : rule = "**"
  · rw [double]
    rfl
  have single : hasDoubleStar rule.toList = false := searchable.resolve_left double
  rw [picks, single, bne_iff_ne.mpr double, Bool.true_and]
  by_cases special : rule ∈ ["", ".", ".."]
  · -- such a rule would ask for a name that no entry has
    have plain : hasWildcard rule = false := by
      obtain rfl | rfl | rfl := by simpa using special
      all_goals rfl
    have other : rule ≠ name := by
      rintro rfl
      exact not_isEntryName_of_special special named
    have listed : ["", ".", "..", "**"].contains rule = true := by
      simp_all
    rw [listed, if_pos rfl, holds_of_no_wildcard plain, beq_false_of_ne other]
  · have unlisted : ["", ".", "..", "**"].contains rule = false := by
      simp_all
    rw [unlisted, if_neg Bool.false_ne_true, if_neg Bool.false_ne_true]
    split
    · rfl
    · rename_i plain
      rw [holds_of_no_wildcard (Bool.eq_false_of_not_eq_true plain)]

theorem pickedBy_eq_ok (searchable : ∀ rule ∈ rules, IsSearchable rule) (named : IsEntryName name) :
    pickedBy rules name = .ok (rules.any fun rule => rule != "**" && Glob.holds rule name) := by
  rw [pickedBy, Except.mapM_of_ok fun rule mem => picks_eq_ok (searchable rule mem) named,
    Except.ok_bind, List.contains_eq_any_beq, List.any_map]
  simp [pure, Except.pure, Function.comp_def]

theorem pickedBy_eq_error {e : Error} :
    pickedBy rules name = .error e ↔
      e = .unfit .doubleStar ∧ ∃ rule ∈ rules, ¬ IsSearchable rule := by
  rw [pickedBy, Except.bind_pure_eq_error]
  exact Except.mapM_eq_error_iff fun rule e => picks_eq_error

theorem allRules_eq_ok :
    (∃ rules, allRules registry = .ok rules) ↔ AllTexts (rulesOf registry) := by
  constructor
  · rintro ⟨rules, all⟩ value mem
    obtain ⟨names, read, -⟩ := Except.bind_eq_ok.mp all
    obtain ⟨name, here⟩ := Except.exists_of_mapM_eq_ok read mem
    obtain ⟨text, same, -⟩ := nameRuleOf_eq_ok.mp here
    exact ⟨text, same⟩
  · intro texts
    cases outcome : allRules registry with
    | ok rules => exact ⟨rules, rfl⟩
    | error e =>
      rw [allRules, Except.bind_pure_eq_error] at outcome
      obtain ⟨value, mem, failed⟩ := Except.exists_of_mapM_eq_error outcome
      obtain ⟨text, rfl⟩ := texts value mem
      cases failed

theorem mem_allRules (all : allRules registry = .ok rules) :
    rule ∈ rules ↔ IsNameRule (rulesOf registry) rule := by
  obtain ⟨names, read, rest⟩ := Except.bind_eq_ok.mp all
  obtain rfl := Except.ok.inj rest
  rw [List.mem_eraseDups, Except.mem_iff_of_mapM_eq_ok read]
  simp [nameRuleOf_eq_ok, IsNameRule, rulesOf]

/-! ## The order of paths -/

/-- Paths with one root that are different have an order. -/
theorem before_of_not_before {a b : Path} (rooted : a.root = b.root) (differ : a ≠ b)
    (after : !b.before a) : a.before b := by
  rw [Path.before, Bool.not_eq_true', decide_eq_false_iff_not, not_lt] at after
  rw [Path.before, decide_eq_true_iff]
  refine lt_of_le_of_ne after fun same => differ ?_
  obtain ⟨r, as⟩ := a
  obtain ⟨r', bs⟩ := b
  obtain rfl : r = r' := rooted
  unfold Path.key Path.isAbsolute at same
  split at same <;> simpa using same

/-- Files with one root, sorted, are in strict order if none of them is named twice. -/
theorem pairwise_before_mergeSort {r : Path.Root} (rooted : ∀ p ∈ found, p.root = r)
    (once : found.Nodup) :
    (found.mergeSort fun a b => !b.before a).Pairwise fun a b => a.before b := by
  have sorted : (found.mergeSort fun a b => !b.before a).Pairwise fun a b => !b.before a := by
    refine List.pairwise_mergeSort ?_ ?_ found
    · intro a b c
      simp only [Path.before, Bool.not_eq_true', decide_eq_false_iff_not, not_lt]
      exact le_trans
    · intro a b
      simp only [Path.before, Bool.or_eq_true, Bool.not_eq_true', decide_eq_false_iff_not, not_lt]
      exact le_total _ _
  have distinct : (found.mergeSort fun a b => !b.before a).Nodup :=
    (List.mergeSort_perm _ _).nodup_iff.mpr once
  refine (sorted.and distinct).imp_of_mem fun {a b} left right ⟨after, differ⟩ => ?_
  have rooted (p : Path) (mem : p ∈ found.mergeSort fun a b => !b.before a) : p.root = r :=
    rooted p ((List.mergeSort_perm _ _).mem_iff.mp mem)
  exact before_of_not_before ((rooted a left).trans (rooted b right).symm) differ after

/-! ## Agreement -/

theorem testFilesBelow_eq (proper : tree.top.IsProper) (isDir : tree.isDirectory root)
    (all : allRules registry = .ok rules) (searchable : ∀ rule ∈ rules, IsSearchable rule) :
    testFilesBelow tree registry root = .ok (((tree.files root).filter fun p =>
      rules.any fun rule => rule != "**" && Glob.holds rule p.name).mergeSort
        fun a b => !b.before a) := by
  have picked : (tree.files root).filterM (fun p => pickedBy rules p.name) =
      .ok ((tree.files root).filter fun p =>
        rules.any fun rule => rule != "**" && Glob.holds rule p.name) :=
    Except.filterM_of_ok fun p mem =>
      pickedBy_eq_ok searchable (FileTree.isEntryName_of_mem_files proper isDir mem)
  unfold testFilesBelow
  cases tried : pickedBy rules "" with
  | error e =>
    obtain ⟨-, rule, mem, unfit⟩ := pickedBy_eq_error.mp tried
    exact absurd (searchable rule mem) unfit
  | ok answer =>
    simp only [isDir, all, tried, picked, Except.ok_bind, Bool.not_true, Bool.false_eq_true,
      if_false]
    rfl

/-- A search that succeeds has rules that are texts, and each can be searched with. -/
theorem exists_allRules_of_testFilesBelow (isDir : tree.isDirectory root)
    (done : testFilesBelow tree registry root = .ok found) :
    ∃ rules, allRules registry = .ok rules ∧ ∀ rule ∈ rules, IsSearchable rule := by
  unfold testFilesBelow at done
  simp only [isDir, Bool.not_true, Bool.false_eq_true, if_false] at done
  obtain ⟨rules, all, done⟩ := Except.bind_eq_ok.mp done
  obtain ⟨answer, tried, -⟩ := Except.bind_eq_ok.mp done
  refine ⟨rules, all, fun rule mem => by_contra fun unfit => ?_⟩
  cases tried.symm.trans (pickedBy_eq_error.mpr ⟨rfl, rule, mem, unfit⟩)

/-- A search finds the files that match a rule other than a double star, each once and in
order. -/
theorem mem_testFilesBelow (proper : tree.top.IsProper) (isDir : tree.isDirectory root)
    (done : testFilesBelow tree registry root = .ok found) :
    (found.Pairwise fun a b => a.before b) ∧
      ∀ p, p ∈ found ↔ IsBelow root p ∧ tree.isFile p ∧
        ∃ rule, IsNameRule (rulesOf registry) rule ∧ rule ≠ "**" ∧ Glob.holds rule p.name := by
  obtain ⟨rules, all, searchable⟩ := exists_allRules_of_testFilesBelow isDir done
  obtain rfl := Except.ok.inj ((testFilesBelow_eq proper isDir all searchable).symm.trans done)
  constructor
  · refine pairwise_before_mergeSort (r := root.root) (fun p mem => ?_) ?_
    · obtain ⟨⟨names, -, -, rfl⟩, -⟩ :=
        (FileTree.mem_files proper isDir).mp (List.mem_of_mem_filter mem)
      rfl
    · exact (FileTree.nodup_files proper root).filter _
  · intro p
    rw [List.mem_mergeSort, List.mem_filter, FileTree.mem_files proper isDir, and_assoc]
    simp only [List.any_eq_true, Bool.and_eq_true, bne_iff_ne, mem_allRules all]

/-- The search for test files agrees with telling them exactly if all rules are texts, no double
star stands in one next to something else, and every file below the directory matches some other
rule as soon as one rule is a double star. -/
theorem search_agrees_iff (proper : tree.top.IsProper) (isDir : tree.isDirectory root) :
    (∃ found, testFilesBelow tree registry root = .ok found ∧
      (found.Pairwise fun a b => a.before b) ∧
      ∀ p, p ∈ found ↔ IsBelow root p ∧ tree.isFile p ∧ IsTestFile registry p) ↔
    AllTexts (rulesOf registry) ∧
      (∀ rule, IsNameRule (rulesOf registry) rule → IsSearchable rule) ∧
      (IsNameRule (rulesOf registry) "**" → ∀ p, IsBelow root p → tree.isFile p →
        ∃ rule, IsNameRule (rulesOf registry) rule ∧ rule ≠ "**" ∧ Glob.holds rule p.name) := by
  constructor
  · rintro ⟨found, done, -, told⟩
    obtain ⟨rules, all, searchable⟩ := exists_allRules_of_testFilesBelow isDir done
    have texts := allRules_eq_ok.mp ⟨rules, all⟩
    refine ⟨texts, fun rule asked => searchable rule ((mem_allRules all).mpr asked), ?_⟩
    intro double p below file
    have test : IsTestFile registry p :=
      (isTestFile_iff texts).mpr ⟨"**", double, Glob.holds_doubleStar p.name⟩
    have picked := (told p).mpr ⟨below, file, test⟩
    exact (((mem_testFilesBelow proper isDir done).2 p).mp picked).2.2
  · rintro ⟨texts, searchable, double⟩
    obtain ⟨rules, all⟩ := allRules_eq_ok.mpr texts
    have done := testFilesBelow_eq proper isDir all fun rule mem =>
      searchable rule ((mem_allRules all).mp mem)
    obtain ⟨ordered, picked⟩ := mem_testFilesBelow proper isDir done
    refine ⟨_, done, ordered, fun p => ?_⟩
    rw [picked p, isTestFile_iff texts]
    refine and_congr_right fun below => and_congr_right fun file => ⟨?_, ?_⟩
    · rintro ⟨rule, asked, -, holds⟩
      exact ⟨rule, asked, holds⟩
    · rintro ⟨rule, asked, holds⟩
      by_cases star : rule = "**"
      · exact double (star ▸ asked) p below file
      · exact ⟨rule, asked, star, holds⟩

/-! ## A disk with one test -/

/-- A disk with a test beside a text. -/
def disk : FileTree where
  top := .directory [("tests", .directory
    [("test_app.py", .file [] false), ("notes.txt", .file [] false)])]
  current := ⟨.slash, []⟩

/-- The top directory. -/
def diskRoot : Path := ⟨.slash, []⟩

/-- The test on the disk. -/
def diskTest : Path := ⟨.slash, ["tests", "test_app.py"]⟩

/-- A registry with one naming rule. -/
def ruled (rule : String) : Registry := ⟨[("python", { testFileNaming := [.text rule] })]⟩

theorem isProper_disk : disk.top.IsProper := by
  have inner : (Node.directory [("test_app.py", .file [] false),
      ("notes.txt", .file [] false)]).IsProper :=
    .directory (by decide) (by decide) (by simp [Node.IsProper.file])
  exact .directory (by decide) (by decide) (List.forall_mem_singleton.mpr inner)

theorem isNameRule_ruled {text : String} :
    IsNameRule (rulesOf (ruled text)) rule ↔ nameRule text = rule := by
  simp [rulesOf, ruled, IsNameRule]

/-- A rule with one star finds the test. -/
theorem search_agrees_iff_single : disk.top.IsProper ∧ disk.isDirectory diskRoot ∧
    ∃ found, testFilesBelow disk (ruled "tests/test_*.py") diskRoot = .ok found ∧
      (found.Pairwise fun a b => a.before b) ∧
      ∀ p, p ∈ found ↔
        IsBelow diskRoot p ∧ disk.isFile p ∧ IsTestFile (ruled "tests/test_*.py") p := by
  have part : nameRule "tests/test_*.py" = "test_*.py" := by decide
  refine ⟨isProper_disk, by decide, (search_agrees_iff isProper_disk (by decide)).mpr ⟨?_, ?_, ?_⟩⟩
  · simp [AllTexts, rulesOf, ruled]
  · intro rule asked
    obtain rfl := isNameRule_ruled.mp asked
    rw [part]
    exact .inr rfl
  · intro double
    rw [isNameRule_ruled, part] at double
    exact absurd double (by decide)

/-- Of two rules with double stars, which the test satisfies, one finds nothing, and the other
makes the search fail. -/
theorem search_disagrees : IsBelow diskRoot diskTest ∧ disk.isFile diskTest ∧
    (IsTestFile (ruled "tests/**") diskTest ∧
      testFilesBelow disk (ruled "tests/**") diskRoot = .ok []) ∧
    (IsTestFile (ruled "test_**.py") diskTest ∧
      testFilesBelow disk (ruled "test_**.py") diskRoot = .error (.unfit .doubleStar)) := by
  refine ⟨⟨["tests", "test_app.py"], by decide, by decide, rfl⟩, by decide, ⟨?_, ?_⟩, ?_, rfl⟩
  · exact ⟨_, List.mem_cons_self, rfl⟩
  · have searchable : ∀ rule ∈ ["**"], IsSearchable rule := List.forall_mem_singleton.mpr (.inl rfl)
    rw [testFilesBelow_eq isProper_disk (by decide) rfl searchable]
    simp
  · exact ⟨_, List.mem_cons_self, rfl⟩

end Proctor.Counterpart

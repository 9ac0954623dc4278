import Proctor.Counterpart
import Proctor.Proofs.Glob
import Proctor.Proofs.Outcome
import Proctor.Proofs.Path

/-!
# The names of tests

The name of a test has one of four forms, in which the base of its source follows a beginning or
precedes an end. A base that is itself not formed so is read back from the name of its test by
whatever form reads it: two forms can read one name, but they then find the same base.
-/

namespace Proctor.Counterpart

variable {f g : NameForm} {base ext name rule : String} {a b m e e' cs : List Char}

/-! ## Endings -/

theorem cutEnding?_append_dot (dotless : '.' ∉ e) :
    cutEnding? (b ++ '.' :: e) = if e.isEmpty then none else some (b, e) := by
  have before : (b ++ '.' :: e).take ((b ++ '.' :: e).length - e.length) = b ++ ['.'] := by
    have length : (b ++ '.' :: e).length - e.length = (b ++ ['.']).length := by
      simp
      omega
    rw [length, List.append_cons b '.' e, List.take_left]
  rw [cutEnding?, Text.takeWhile_reverse_append dotless, List.reverse_reverse, before]
  simp

theorem cutEnding?_of_dotless (dotless : '.' ∉ cs) : cutEnding? cs = none := by
  simp [cutEnding?, Text.takeWhile_reverse_of_not_mem dotless]

theorem cutEnding?_eq_some :
    cutEnding? cs = some (b, e) ↔ cs = b ++ '.' :: e ∧ e ≠ [] ∧ '.' ∉ e := by
  constructor
  · intro cut
    by_cases dotted : '.' ∈ cs
    · obtain ⟨b', e', rfl, dotless⟩ := Text.exists_last dotted
      rw [cutEnding?_append_dot dotless] at cut
      split at cut
      · cases cut
      · rename_i ending
        obtain ⟨rfl, rfl⟩ := Prod.mk.inj (Option.some.inj cut)
        exact ⟨rfl, by simpa using ending, dotless⟩
    · rw [cutEnding?_of_dotless dotted] at cut
      cases cut
  · rintro ⟨rfl, ending, dotless⟩
    rw [cutEnding?_append_dot dotless, if_neg (by simpa using ending)]

theorem between?_eq_some : between? a b cs = some m ↔ cs = a ++ (m ++ b) := by
  unfold between?
  split
  · rename_i both
    rw [Bool.and_eq_true, List.isPrefixOf_iff_prefix, List.isSuffixOf_iff_suffix] at both
    obtain ⟨⟨tail, rfl⟩, suffix⟩ := both
    rw [List.drop_left] at suffix ⊢
    obtain ⟨middle, rfl⟩ := suffix
    simp [eq_comm]
  · rename_i other
    simp only [reduceCtorEq, false_iff]
    rintro rfl
    simp [List.isPrefixOf_iff_prefix, List.isSuffixOf_iff_suffix] at other

/-! ## Forms -/

/-- The name of a file with a base and an ending. -/
def fileName (base ext : String) : String := base ++ "." ++ ext

/-- The name of the test of such a file, in a form. -/
def NameForm.testName (f : NameForm) (base ext : String) : String :=
  fileName (f.before ++ base ++ f.after) ext

/-- What a form adds to a name has five letters. -/
theorem length_of_mem_nameForms (mem : f ∈ nameForms) : f.before.length + f.after.length = 5 := by
  revert f
  decide

theorem slashless_of_mem_nameForms (mem : f ∈ nameForms) :
    '/' ∉ f.before.toList ∧ '/' ∉ f.after.toList := by
  revert f
  decide

theorem toList_fileName : (fileName base ext).toList = base.toList ++ '.' :: ext.toList := by
  simp [fileName]

theorem toList_testName : (f.testName base ext).toList =
    (f.before.toList ++ (base.toList ++ f.after.toList)) ++ '.' :: ext.toList := by
  simp [NameForm.testName, toList_fileName]

/-- Is the text formed by a beginning and an end? -/
def NameForm.Forms (f : NameForm) (m b : List Char) : Prop :=
  b = f.before.toList ++ (m ++ f.after.toList)

theorem sourceName?_eq_some {src : String} (named : name.toList = b ++ '.' :: e)
    (ending : e ≠ []) (dotless : '.' ∉ e) :
    f.sourceName? name = some src ↔ ∃ m, f.Forms m b ∧ m ≠ [] ∧ '\n' ∉ m ∧
      src = String.ofList (m ++ '.' :: e) := by
  have cut : cutEnding? name.toList = some (b, e) := cutEnding?_eq_some.mpr ⟨named, ending, dotless⟩
  simp only [NameForm.sourceName?, cut, Option.bind_eq_bind, Option.bind_some]
  have formed (m : List Char) :
      between? f.before.toList f.after.toList b = some m ↔ f.Forms m b := between?_eq_some
  constructor
  · intro read
    obtain ⟨m, found, read⟩ := Option.bind_eq_some_iff.mp read
    split at read
    · cases read
    · rename_i fit
      obtain ⟨nonempty, oneLine⟩ := by simpa using fit
      exact ⟨m, (formed m).mp found, nonempty, oneLine, (Option.some.inj read).symm⟩
  · rintro ⟨m, forms, nonempty, oneLine, rfl⟩
    rw [(formed m).mpr forms, Option.bind_some, if_neg (by simp [nonempty, oneLine])]

/-- A name that is read has an ending, and the form stands before it. -/
theorem exists_of_sourceName? {src : String} (read : f.sourceName? name = some src) :
    ∃ m e, name.toList = (f.before.toList ++ (m ++ f.after.toList)) ++ '.' :: e ∧
      src.toList = m ++ '.' :: e ∧ m ≠ [] ∧ e ≠ [] := by
  obtain ⟨⟨b, e⟩, cut, -⟩ := Option.bind_eq_some_iff.mp read
  obtain ⟨named, ending, dotless⟩ := cutEnding?_eq_some.mp cut
  obtain ⟨m, rfl, nonempty, -, rfl⟩ := (sourceName?_eq_some named ending dotless).mp read
  exact ⟨m, e, named, String.toList_ofList, nonempty, ending⟩

/-! ## Bases -/

/-- The beginning that the name of a test can have. -/
def testPrefix : List Char := "test_".toList

/-- The ends that the base of the name of a test can have. -/
def testSuffixes : List (List Char) := ["_test".toList, ".test".toList, ".spec".toList]

/-- Can the text be the base of a name that is not formed like that of a test? -/
structure IsBase (base : String) : Prop where
  nonempty : base ≠ ""
  slashless : '/' ∉ base.toList
  unprefixed : ¬ testPrefix <+: base.toList
  unsuffixed : ∀ suffix ∈ testSuffixes, ¬ suffix <:+ base.toList

theorem mem_nameForms :
    f ∈ nameForms ↔
      f = ⟨"test_", ""⟩ ∨ ∃ suffix ∈ testSuffixes, f = ⟨"", String.ofList suffix⟩ := by
  simp [nameForms, testSuffixes]

theorem forms_before : (NameForm.mk "test_" "").Forms m b ↔ b = testPrefix ++ m := by
  simp [NameForm.Forms, testPrefix]

theorem forms_suffix {suffix : List Char} :
    (NameForm.mk "" (String.ofList suffix)).Forms m b ↔ b = m ++ suffix := by
  simp [NameForm.Forms]

theorem length_of_mem_testSuffixes {suffix : List Char} (mem : suffix ∈ testSuffixes) :
    suffix.length = 5 := by
  revert suffix
  decide

/-- The beginning of a test's name and the end of one share a part if a text without that
beginning or without that end stands between them, and the text is then the same either way. -/
theorem eq_of_overlap {suffix : List Char} (mem : suffix ∈ testSuffixes)
    (same : testPrefix ++ a = b ++ suffix)
    (bare : ¬ suffix <:+ a ∨ ¬ testPrefix <+: b) : a = b := by
  obtain ⟨c, rfl, rfl⟩ | ⟨c, before, behind⟩ := List.append_eq_append_iff.mp same
  · obtain unsuffixed | unprefixed := bare
    · exact absurd (List.suffix_append c suffix) unsuffixed
    · exact absurd (List.prefix_append testPrefix c) unprefixed
  · -- the shared part `c` ends the beginning and begins the end
    have shared : ∀ suffix ∈ testSuffixes, ∀ k < 5, testPrefix.drop k = suffix.take (5 - k) →
        testPrefix.take k = suffix.drop (5 - k) := by
      decide
    have whole : b.length + c.length = 5 := by
      rw [← List.length_append, ← before]
      rfl
    have apart : c ≠ [] := by
      rintro rfl
      obtain unsuffixed | unprefixed := bare
      · exact unsuffixed ⟨[], behind⟩
      · exact unprefixed ⟨[], before ▸ by simp⟩
    have length : 5 - b.length = c.length := by omega
    have short : b.length < 5 := by
      have := List.length_pos_iff.mpr apart
      omega
    have reads := shared suffix mem b.length short
    rw [length, before, behind, List.drop_left, List.take_left, List.take_left,
      List.drop_left] at reads
    exact (reads rfl).symm

/-- A base that is not formed like the name of a test is what every form reads that reads the
name of its test. -/
theorem IsBase.eq_of_forms (isBase : IsBase base) (mem : f ∈ nameForms) (mem' : g ∈ nameForms)
    (forms : f.Forms base.toList b) (forms' : g.Forms m b) : m = base.toList := by
  obtain rfl | ⟨suffix, inside, rfl⟩ := mem_nameForms.mp mem
  all_goals obtain rfl | ⟨suffix', inside', rfl⟩ := mem_nameForms.mp mem'
  · rw [forms_before] at forms forms'
    exact List.append_cancel_left (forms'.symm.trans forms)
  · rw [forms_before] at forms
    rw [forms_suffix] at forms'
    exact (eq_of_overlap inside' (forms.symm.trans forms')
      (.inl (isBase.unsuffixed _ inside'))).symm
  · rw [forms_suffix] at forms
    rw [forms_before] at forms'
    exact eq_of_overlap inside (forms'.symm.trans forms) (.inr isBase.unprefixed)
  · rw [forms_suffix] at forms forms'
    have length : suffix'.length = suffix.length := by
      rw [length_of_mem_testSuffixes inside, length_of_mem_testSuffixes inside']
    exact (List.append_inj' (forms'.symm.trans forms) length).1

/-- Such a base is of no form itself. -/
theorem IsBase.not_forms (isBase : IsBase base) (mem : f ∈ nameForms) :
    ¬ f.Forms m base.toList := by
  obtain rfl | ⟨suffix, inside, rfl⟩ := mem_nameForms.mp mem
  · rw [forms_before]
    intro same
    exact isBase.unprefixed ⟨m, same.symm⟩
  · rw [forms_suffix]
    intro same
    exact isBase.unsuffixed suffix inside ⟨m, same.symm⟩

/-! ## Rules -/

/-- A name satisfies rules that are texts if it matches what one of them asks of names. -/
theorem satisfiesAny_texts (name : String) (rules : List String) :
    satisfiesAny name (rules.map .text) =
      .ok (rules.any fun rule => Glob.holds (nameRule rule) name) := by
  induction rules with
  | nil => rfl
  | cons rule rest ih =>
    rw [List.map_cons, satisfiesAny, nameRuleOf, Except.ok_bind, ih, List.any_cons]
    cases Glob.holds (nameRule rule) name <;> rfl

/-- A rule with one star asks for a form and an ending. -/
theorem holds_iff_forms (shape : Glob.pieces rule =
      f.before.toList.map .char ++ .star :: (f.after.toList ++ '.' :: e').map .char)
    (dotless' : '.' ∉ e') (named : name.toList = b ++ '.' :: e) (dotless : '.' ∉ e) :
    Glob.holds rule name ↔ e = e' ∧ ∃ m, f.Forms m b := by
  rw [Glob.holds_iff_of_star shape, named, ← exists_and_left]
  refine exists_congr fun m => ?_
  have regroup : f.before.toList ++ (m ++ (f.after.toList ++ '.' :: e')) =
      (f.before.toList ++ (m ++ f.after.toList)) ++ '.' :: e' := by simp
  rw [regroup, Text.append_cons_inj_of_last dotless dotless', and_comm]
  rfl

end Proctor.Counterpart

import Proctor.Proofs.Counterpart.RoundTrip

/-!
# Two searches that undo each other

The names under which a test is looked for are those of the source, lengthened by five letters,
and the names under which a source is looked for are those of the test, shortened by as many. So
neither search finds the file it starts from. From a test the source is looked for under every
name that can be read from that of the test, and one of them is the one the test was made of,
whatever dots and parts like those of tests the name has.
-/

namespace Proctor.Counterpart

open Node (IsEntryName)

variable {tree : FileTree} {f : NameForm} {name : String} {s t : Path}

/-! ## Names -/

theorem isEntryName_of_length (slashless : '/' ∉ name.toList) (long : 2 < name.length) :
    IsEntryName name := by
  have ne_of_short {cs : List Char} (short : cs.length ≤ 2) : name.toList ≠ cs := by
    rintro rfl
    rw [String.length_toList] at short
    omega
  have part : Path.isPart name.toList := by
    rw [Path.isPart, Bool.and_eq_true, Bool.not_eq_true', List.isEmpty_eq_false_iff, bne_iff_ne]
    exact ⟨ne_of_short (Nat.zero_le 2), ne_of_short (Nat.le_succ 1)⟩
  exact ⟨⟨slashless, part⟩, fun up => ne_of_short (by simp) (congrArg String.toList up)⟩

/-- A name is what precedes its ending and the ending. -/
theorem stem_append_ending (p : Path) : p.stem ++ p.ending = p.name := by
  rw [Path.stem, Path.ending, ← String.ofList_append, ← String.toList_inj, String.toList_ofList]
  obtain cut | ⟨b, e, same, -, -, -, cut⟩ := Path.cut_cases p.name.toList
  · simp [cut]
  · rw [cut, same]

/-- An ending is a dot and what the names of tests have after it. -/
theorem exists_ending (some_ : s.ending ≠ "") :
    ∃ ext, s.name = fileName s.stem ext ∧ s.ending = "." ++ ext ∧ s.stem ≠ "" ∧
      ext.toList ≠ [] ∧ '.' ∉ ext.toList := by
  obtain cut | ⟨b, e, same, nonempty, ending, dotless, cut⟩ := Path.cut_cases s.name.toList
  · exact absurd (by simp [Path.ending, cut]) some_
  · refine ⟨String.ofList e, ?_, ?_, ?_, by simpa using ending, by simpa using dotless⟩
    · rw [← String.toList_inj, toList_fileName, Path.stem, cut, same]
      simp
    · simp [Path.ending, cut]
    · simpa [Path.stem, cut] using nonempty

/-- The names of tests have something before the stem of the source and after it. -/
theorem testNames_eq (s : Path) :
    testNames s = searchedForms.map fun f => f.before ++ s.stem ++ f.after ++ s.ending := by
  simp [testNames, searchedForms, ← stem_append_ending s, String.append_assoc]

theorem isEntryName_of_mem_testNames (slashless : '/' ∉ s.name.toList) (mem : name ∈ testNames s) :
    IsEntryName name ∧ name.length = s.name.length + 5 := by
  rw [testNames_eq] at mem
  obtain ⟨f, form, rfl⟩ := List.mem_map.mp mem
  obtain ⟨before, after⟩ := slashless_of_mem_nameForms (searchedForms_subset form)
  have five := length_of_mem_nameForms (searchedForms_subset form)
  rw [← stem_append_ending s] at slashless ⊢
  simp only [String.toList_append, List.mem_append, not_or] at slashless
  have length : (f.before ++ s.stem ++ f.after ++ s.ending).length =
      (s.stem ++ s.ending).length + 5 := by
    simp only [String.length_append]
    omega
  refine ⟨isEntryName_of_length ?_ ?_, length⟩
  · simp [before, after, slashless]
  · omega

/-- The name of a source is five letters shorter than that of its test. -/
theorem isEntryName_of_sourceName? (form : f ∈ nameForms) (slashless : '/' ∉ t.name.toList)
    (read : f.sourceName? t.name = some name) :
    IsEntryName name ∧ t.name.length = name.length + 5 := by
  obtain ⟨m, e, same, src, nonempty, ending⟩ := exists_of_sourceName? read
  have five := length_of_mem_nameForms form
  rw [same] at slashless
  simp only [List.mem_append, List.mem_cons, not_or] at slashless
  have length : t.name.length = name.length + 5 := by
    simp only [← String.length_toList, same, src] at five ⊢
    simp only [List.length_append, List.length_cons]
    omega
  refine ⟨isEntryName_of_length ?_ ?_, length⟩
  · simp [src, slashless]
  · have := List.length_pos_iff.mpr nonempty
    have := List.length_pos_iff.mpr ending
    rw [← String.length_toList, src, List.length_append, List.length_cons]
    omega

/-- From the name of the test that was made of it the name of the source is read. -/
theorem exists_sourceName?_eq_some (some_ : s.ending ≠ "") (oneLine : '\n' ∉ s.name.toList)
    (mem : name ∈ testNames s) : ∃ f ∈ nameForms, f.sourceName? name = some s.name := by
  obtain ⟨ext, named, dotted, nonempty, ending, dotless⟩ := exists_ending some_
  rw [testNames_eq, dotted] at mem
  obtain ⟨f, form, rfl⟩ := List.mem_map.mp mem
  have made : f.before ++ s.stem ++ f.after ++ ("." ++ ext) = f.testName s.stem ext := by
    simp [NameForm.testName, fileName, String.append_assoc]
  have clean : '\n' ∉ s.stem.toList := by
    rw [← stem_append_ending, String.toList_append, List.mem_append, not_or] at oneLine
    exact oneLine.1
  have whole : s.name = String.ofList (s.stem.toList ++ '.' :: ext.toList) := by
    rw [← toList_fileName, String.ofList_toList, ← named]
  rw [made]
  exact ⟨f, searchedForms_subset form, (sourceName?_eq_some toList_testName ending dotless).mpr
    ⟨_, rfl, by simpa using nonempty, clean, whole⟩⟩

/-! ## Paths -/

/-- The paths under which the source of a test is looked for. -/
def sourceCandidates (test : Path) : List Path :=
  (nameForms.filterMap (·.sourceName? test.name)).flatMap fun name =>
    (sourcePlaces test).map (·.child name)

/-- A source is looked for under each of the paths in turn. -/
theorem sourceFile?_eq (tree : FileTree) (test : Path) : sourceFile? tree test =
    (sourceCandidates test).find? fun c => tree.isFile c && c != test := by
  rw [sourceFile?, sourceCandidates, List.find?_flatMap]

theorem mem_sourceCandidates {c : Path} : c ∈ sourceCandidates t ↔
    ∃ f ∈ nameForms, ∃ name, f.sourceName? t.name = some name ∧
      ∃ place ∈ sourcePlaces t, c = place.child name := by
  simp only [sourceCandidates, List.mem_flatMap, List.mem_filterMap, List.mem_map]
  constructor
  · rintro ⟨name, ⟨f, form, read⟩, place, inside, rfl⟩
    exact ⟨f, form, name, read, place, inside, rfl⟩
  · rintro ⟨f, form, name, read, place, inside, rfl⟩
    exact ⟨name, ⟨f, form, read⟩, place, inside, rfl⟩

/-- The test lies in the directory of the source, in a test directory there, or in one beside the
directory of the source if that is called `src`. -/
def IsNear (s t : Path) : Prop :=
  t.parent = s.parent ∨ (∃ x ∈ testDirectories, t.parent = s.parent.child x) ∨
    (s.parent.name = "src" ∧ ∃ x ∈ testDirectories, t.parent = s.parent.parent.child x)

/-- From a test that is near its source the directory of the source is searched. -/
theorem IsNear.mem_sourcePlaces (near : IsNear s t) (named : Path.IsPartText t.name) :
    s.parent ∈ sourcePlaces t := by
  rw [← Path.parent_child_of_name named, Counterpart.mem_sourcePlaces named]
  obtain here | ⟨x, inside, below⟩ | ⟨src, x, inside, beside⟩ := near
  · exact .inl here.symm
  · exact .inr ⟨s.parent, x, inside, below, .inl rfl⟩
  · have whole : s.parent.parent.child "src" = s.parent := by
      rw [← src]
      exact Path.parent_child_of_name (src ▸ isEntryName_src.1)
    exact .inr ⟨s.parent.parent, x, inside, beside, .inr whole.symm⟩

/-! ## Searches -/

theorem testFile?_eq_find? (tree : FileTree) (slashless : '/' ∉ s.name.toList) :
    testFile? tree s = (testCandidates s).find? tree.isFile :=
  testFile?_eq fun _ mem => (isEntryName_of_mem_testNames slashless mem).1.1

/-- No test is found only if none is there. -/
theorem testFile?_eq_none_iff (slashless : '/' ∉ s.name.toList) :
    testFile? tree s = none ↔ ∀ c ∈ testCandidates s, ¬ tree.isFile c := by
  rw [testFile?_eq_find? tree slashless, List.find?_eq_none]

/-- No source is found only if none is there, the test itself apart. -/
theorem sourceFile?_eq_none_iff :
    sourceFile? tree t = none ↔ ∀ c ∈ sourceCandidates t, tree.isFile c → c = t := by
  rw [sourceFile?_eq, List.find?_eq_none]
  simp

/-- What is found as a test is a file that has one of the names. -/
theorem isFile_of_testFile? (slashless : '/' ∉ s.name.toList) (found : testFile? tree s = some t) :
    tree.isFile t ∧ t.name ∈ testNames s := by
  rw [testFile?_eq_find? tree slashless] at found
  obtain ⟨place, -, listed⟩ := List.mem_flatMap.mp (List.mem_of_find?_eq_some found)
  obtain ⟨n, mem, rfl⟩ := List.mem_map.mp listed
  rw [Path.name_child (isEntryName_of_mem_testNames slashless mem).1.1]
  exact ⟨List.find?_some found, mem⟩

theorem resolve_ne_of_length {current : Path} (named : IsEntryName s.name)
    (named' : IsEntryName t.name) (longer : t.name.length = s.name.length + 5) :
    Path.resolve current t ≠ Path.resolve current s := by
  rw [← Path.parent_child_of_name named.1, ← Path.parent_child_of_name named'.1]
  intro same
  have names := ((resolve_child_inj named' named).mp same).2
  rw [names] at longer
  omega

/-- A test that is found is a file, and not the source. -/
theorem of_testFile?_eq_some (slashless : '/' ∉ s.name.toList)
    (found : testFile? tree s = some t) : tree.isFile t ∧ t ≠ s ∧
      (IsEntryName s.name → Path.resolve tree.current t ≠ Path.resolve tree.current s) := by
  obtain ⟨file, mem⟩ := isFile_of_testFile? slashless found
  obtain ⟨named, longer⟩ := isEntryName_of_mem_testNames slashless mem
  refine ⟨file, ?_, fun named' => resolve_ne_of_length named' named longer⟩
  rintro rfl
  omega

/-- A source that is found is a file, and not the test. -/
theorem of_sourceFile?_eq_some (found : sourceFile? tree t = some s) : tree.isFile s ∧ s ≠ t ∧
    ('/' ∉ t.name.toList → Path.resolve tree.current s ≠ Path.resolve tree.current t) := by
  rw [sourceFile?_eq] at found
  have holds := List.find?_some found
  rw [Bool.and_eq_true, bne_iff_ne] at holds
  refine ⟨holds.1, holds.2, fun slashless => ?_⟩
  obtain ⟨f, form, n, read, place, -, rfl⟩ :=
    mem_sourceCandidates.mp (List.mem_of_find?_eq_some found)
  obtain ⟨named, longer⟩ := isEntryName_of_sourceName? form slashless read
  have called := Path.name_child named.1 place
  rw [← called] at named longer
  have named' : IsEntryName t.name := isEntryName_of_length slashless (by omega)
  exact (resolve_ne_of_length named named' longer).symm

/-- A search finds the source of the test that was found for it, if the test is near and no other
file is met on the way. -/
theorem sourceFile?_of_testFile? (slashless : '/' ∉ s.name.toList) (source : tree.isFile s)
    (some_ : s.ending ≠ "") (oneLine : '\n' ∉ s.name.toList) (found : testFile? tree s = some t)
    (near : IsNear s t) (only : ∀ c ∈ sourceCandidates t, tree.isFile c →
      Path.resolve tree.current c = Path.resolve tree.current s) :
    sourceFile? tree t = some s := by
  obtain ⟨-, mem⟩ := isFile_of_testFile? slashless found
  obtain ⟨-, apart, -⟩ := of_testFile?_eq_some slashless found
  obtain ⟨named', -⟩ := isEntryName_of_mem_testNames slashless mem
  obtain ⟨f, form, read⟩ := exists_sourceName?_eq_some some_ oneLine mem
  obtain ⟨named, -⟩ := isEntryName_of_sourceName? form named'.1.1 read
  have whole := Path.parent_child_of_name named.1
  have searched := near.mem_sourcePlaces named'.1
  rw [sourceFile?_eq]
  refine find?_eq_some_of_unique
    (mem_sourceCandidates.mpr ⟨f, form, _, read, _, searched, whole.symm⟩)
    (by simp [source, apart.symm]) ?_
  intro c listed file
  rw [Bool.and_eq_true] at file
  have same := only c listed file.1
  obtain ⟨g, form', n, read', place, inside, rfl⟩ := mem_sourceCandidates.mp listed
  obtain ⟨called, -⟩ := isEntryName_of_sourceName? form' named'.1.1 read'
  rw [← whole, resolve_child_inj called named] at same
  rw [same.2, List.inj_on_of_nodup_map (nodup_sourcePlaces _ _) inside searched same.1, whole]

/-- The two searches undo each other: from the test that is found for a source, the source is
found, if the name of the source has an ending and no line feed, the test is near the source and
no other file is found on the way back. What either search finds is a file, and not the one it
starts from, under whatever path; and it finds one if there is one. Only a path that was not read
has a name with a slash. -/
theorem searches_inverse (tree : FileTree) :
    (∀ s t, '/' ∉ s.name.toList → tree.isFile s → s.ending ≠ "" → '\n' ∉ s.name.toList →
      testFile? tree s = some t → IsNear s t →
      (∀ c ∈ sourceCandidates t, tree.isFile c →
        Path.resolve tree.current c = Path.resolve tree.current s) →
      sourceFile? tree t = some s) ∧
    (∀ s, '/' ∉ s.name.toList →
      (testFile? tree s = none ↔ ∀ c ∈ testCandidates s, ¬ tree.isFile c) ∧
      ∀ t, testFile? tree s = some t → tree.isFile t ∧ t ≠ s ∧
        (IsEntryName s.name → Path.resolve tree.current t ≠ Path.resolve tree.current s)) ∧
    ∀ t, (sourceFile? tree t = none ↔ ∀ c ∈ sourceCandidates t, tree.isFile c → c = t) ∧
      ∀ s, sourceFile? tree t = some s → tree.isFile s ∧ s ≠ t ∧
        ('/' ∉ t.name.toList → Path.resolve tree.current s ≠ Path.resolve tree.current t) := by
  refine ⟨fun s t => sourceFile?_of_testFile?, fun s slashless => ?_, fun t => ?_⟩
  · exact ⟨testFile?_eq_none_iff slashless, fun t => of_testFile?_eq_some slashless⟩
  · exact ⟨sourceFile?_eq_none_iff, fun s => of_sourceFile?_eq_some⟩

/-- A name that begins like that of a test, and whose test ends like one too, so that two forms
read it. Only one of them leads to a file. -/
theorem searches_inverse_overlap :
    let tree := twoFiles "src" "test_a.b.py" "tests" "test_a.b_test.py"
    let s := (top.child "src").child "test_a.b.py"
    let t := (top.child "tests").child "test_a.b_test.py"
    nameForms.filterMap (·.sourceName? t.name) = ["a.b_test.py", "test_a.b.py"] ∧
      testFile? tree s = some t ∧ sourceFile? tree t = some s ∧
      Path.resolve tree.current t ≠ Path.resolve tree.current s ∧
      Path.resolve tree.current s ≠ Path.resolve tree.current t := by
  intro tree s t
  have found : testFile? tree s = some t := by decide +kernel
  have beside : IsNear s t :=
    .inr (.inr ⟨by decide +kernel, "tests", by decide, by decide +kernel⟩)
  obtain ⟨back, forth, other⟩ := searches_inverse tree
  have source := back s t (by decide +kernel) (by decide +kernel) (by decide +kernel)
    (by decide +kernel) found beside (by decide +kernel)
  obtain ⟨-, -, apart⟩ := (forth s (by decide +kernel)).2 t found
  obtain ⟨-, -, apart'⟩ := (other t).2 s source
  exact ⟨by decide +kernel, found, source, apart (by decide +kernel), apart' (by decide +kernel)⟩

end Proctor.Counterpart

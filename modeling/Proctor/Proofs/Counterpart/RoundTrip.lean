import Proctor.Proofs.Counterpart.Builtin
import Proctor.Proofs.FileTree

/-!
# There and back

The test of a source is looked for under three names in the directory of the source, in test
directories beside the source and beside its directory. From the test the way back leads only if
the rules of the language know the name, and the directory of the source is one of those that
are searched from where the test is.
-/

namespace Proctor.Counterpart

open Proctor.Path (IsPartText)
open Node (IsEntryName)

variable {tree : FileTree} {f g : NameForm} {base ext name : String} {home place test : Path}

/-! ## Names -/

/-- The forms of the names under which the test of a source is looked for. -/
def searchedForms : List NameForm := [⟨"test_", ""⟩, ⟨"", "_test"⟩, ⟨"", ".test"⟩]

theorem searchedForms_subset (mem : f ∈ searchedForms) : f ∈ nameForms := by
  revert f
  decide

theorem isEntryName_fileName (known : IsKnown ext) (slashless : '/' ∉ base.toList) :
    IsEntryName (fileName base ext) := by
  obtain ⟨ending, dotless, slashless'⟩ := known.ending
  refine ⟨⟨?_, ?_⟩, ?_⟩
  · simp [toList_fileName, slashless, slashless']
  · simp [Path.isPart, toList_fileName, List.append_eq_cons_iff, ending]
  · intro same
    have same : base.toList ++ '.' :: ext.toList = ['.'] ++ '.' :: [] := by
      rw [← toList_fileName, same]
      rfl
    exact ending ((Text.append_cons_inj_of_last dotless List.not_mem_nil).mp same).2

theorem isEntryName_testName (known : IsKnown ext) (slashless : '/' ∉ base.toList)
    (mem : f ∈ nameForms) : IsEntryName (f.testName base ext) := by
  obtain ⟨before, after⟩ := slashless_of_mem_nameForms mem
  exact isEntryName_fileName known (by simp [before, after, slashless])

theorem testNames_child (known : IsKnown ext) (slashless : '/' ∉ base.toList)
    (nonempty : base ≠ "") (home : Path) :
    testNames (home.child (fileName base ext)) = searchedForms.map (·.testName base ext) := by
  obtain ⟨ending, dotless, -⟩ := known.ending
  have name := Path.name_child (isEntryName_fileName known slashless).1 home
  have cut : Path.cut (fileName base ext).toList = (base.toList, '.' :: ext.toList) := by
    rw [toList_fileName]
    exact Path.cut_append_dot (by simpa using nonempty) ending dotless
  have dot : String.ofList ('.' :: ext.toList) = "." ++ ext := by
    rw [← String.toList_inj]
    simp
  simp only [testNames, Path.stem, Path.ending, name, cut, dot, String.ofList_toList]
  simp [searchedForms, NameForm.testName, fileName, String.append_assoc]

/-- The name of a test is longer than that of its source. -/
theorem length_testName (base ext : String) (mem : f ∈ nameForms) :
    (f.testName base ext).length = (fileName base ext).length + 5 := by
  have := length_of_mem_nameForms mem
  simp only [NameForm.testName, fileName, String.length_append]
  omega

theorem testName_ne (mem : f ∈ nameForms) : f.testName base ext ≠ fileName base ext := by
  intro same
  have := length_testName base ext mem
  rw [same] at this
  omega

/-! ## Places -/

/-- The paths under which the test of a source is looked for. -/
def testCandidates (source : Path) : List Path :=
  (testPlaces source).flatMap fun place => (testNames source).map place.child

/-- A test is looked for under each of the paths in turn. -/
theorem testFile?_eq {source : Path} (named : ∀ name ∈ testNames source, IsPartText name) :
    testFile? tree source = (testCandidates source).find? tree.isFile := by
  rw [testFile?, testCandidates, List.find?_flatMap]
  congr 1
  funext place
  split
  · rfl
  · rename_i absent
    symm
    rw [List.find?_eq_none]
    simp only [List.forall_mem_map]
    intro name mem file
    exact absent (FileTree.isDirectory_of_isFile_child (named name mem) file)

/-- The only files of the tree are a source and a file that is looked for as its test. -/
structure IsPair (tree : FileTree) (s t : Path) : Prop where
  place : t ∈ testCandidates s
  source : tree.isFile s
  test : tree.isFile t
  only : ∀ p, tree.isFile p →
    Path.resolve tree.current p = Path.resolve tree.current s ∨
      Path.resolve tree.current p = Path.resolve tree.current t

theorem resolve_child_inj {place place' current : Path} {name name' : String}
    (named : IsEntryName name) (named' : IsEntryName name') :
    Path.resolve current (place.child name) = Path.resolve current (place'.child name') ↔
      Path.resolve current place = Path.resolve current place' ∧ name = name' := by
  rw [Path.resolve_child named.1 named.2, Path.resolve_child named'.1 named'.2]
  constructor
  · intro same
    obtain ⟨parts, last⟩ := List.append_inj' (Path.mk.inj same).2 rfl
    exact ⟨congrArg (Path.mk .slash) parts, (List.cons.inj last).1⟩
  · rintro ⟨same, rfl⟩
    rw [same]

theorem resolve_child_ne (named : IsEntryName name) (current place : Path) :
    Path.resolve current (place.child name) ≠ Path.resolve current place := by
  intro same
  have parts := congrArg (·.parts.length) same
  simp [Path.resolve_child named.1 named.2] at parts

theorem isEntryName_of_mem_testDirectories (mem : name ∈ testDirectories) : IsEntryName name := by
  revert name
  decide

theorem isEntryName_src : IsEntryName "src" := by decide

/-- From a test its directory is searched, and if that is a test directory, also what is above it
and the sources beside it. -/
theorem mem_sourcePlaces (named : IsPartText name) :
    home ∈ sourcePlaces (place.child name) ↔ home = place ∨
      ∃ above, ∃ x ∈ testDirectories, place = above.child x ∧
        (home = above ∨ home = above.child "src") := by
  rw [sourcePlaces, Path.parent_child named]
  constructor
  · intro mem
    obtain rfl | mem := List.mem_cons.mp mem
    · exact .inl rfl
    split at mem
    · rename_i inside
      have inside : place.name ∈ testDirectories := by simpa using inside
      have whole := Path.parent_child_of_name (isEntryName_of_mem_testDirectories inside).1
      exact .inr ⟨place.parent, place.name, inside, whole.symm, by simpa using mem⟩
    · cases mem
  · rintro (rfl | ⟨above, x, inside, rfl, mem⟩)
    · exact List.mem_cons_self
    · have part := (isEntryName_of_mem_testDirectories inside).1
      rw [Path.name_child part, Path.parent_child part]
      simp [inside, mem]

/-! ## From the source to the test -/

section Search

variable {names : List String} {places : List Path} {current t : Path}

theorem find?_eq_some_of_unique {α : Type} {l : List α} {x : α} {p : α → Bool} (mem : x ∈ l)
    (holds : p x) (unique : ∀ y ∈ l, p y → y = x) : l.find? p = some x := by
  obtain ⟨y, found⟩ := Option.isSome_iff_exists.mp (List.find?_isSome.mpr ⟨x, mem, holds⟩)
  rw [found, unique y (List.mem_of_find?_eq_some found) (List.find?_some found)]

/-- What is found first if of all places one only is, as the paths stand for, the place where
the only file lies. -/
theorem find?_of_only_place {isFile : Path → Bool} (current : Path) (mem : place ∈ places)
    (called : name ∈ names) (named : ∀ n ∈ names, IsEntryName n) (file : isFile (place.child name))
    (only : ∀ d ∈ places, ∀ n ∈ names, isFile (d.child n) →
      Path.resolve current (d.child n) = Path.resolve current (place.child name))
    (apart : ∀ d ∈ places, Path.resolve current d = Path.resolve current place → d = place) :
    (places.flatMap fun d => names.map d.child).find? isFile = some (place.child name) := by
  refine find?_eq_some_of_unique
    (List.mem_flatMap.mpr ⟨place, mem, List.mem_map_of_mem called⟩) file ?_
  intro c listed here
  obtain ⟨d, inside, listed⟩ := List.mem_flatMap.mp listed
  obtain ⟨n, called', rfl⟩ := List.mem_map.mp listed
  obtain ⟨same, rfl⟩ := (resolve_child_inj (named n called') (named name called)).mp
    (only d inside n called' here)
  rw [apart d inside same]

/-- In and beside the directory of the source no two places are the same. -/
theorem eq_of_near {d : Path} (near : place ∈ home :: testDirectoriesIn home)
    (mem : d ∈ home :: testDirectoriesIn home)
    (same : Path.resolve current d = Path.resolve current place) : d = place := by
  simp only [testDirectoriesIn, List.mem_cons, List.mem_map] at near mem
  obtain rfl | ⟨x, inside, rfl⟩ := near
  all_goals obtain rfl | ⟨y, inside', rfl⟩ := mem
  · rfl
  · exact absurd same (resolve_child_ne (isEntryName_of_mem_testDirectories inside') _ _)
  · exact absurd same.symm (resolve_child_ne (isEntryName_of_mem_testDirectories inside) _ _)
  · have named := isEntryName_of_mem_testDirectories inside
    have named' := isEntryName_of_mem_testDirectories inside'
    rw [((resolve_child_inj named' named).mp same).2]

/-- If the source is in a directory of sources, a place beside that directory is not the same as
another one that is searched. -/
theorem eq_of_beside {above d : Path} {x : String} (inside : x ∈ testDirectories)
    (mem : d ∈ testPlaces ((above.child "src").child name)) (named : IsEntryName name)
    (same : Path.resolve current d = Path.resolve current (above.child x)) :
    d = above.child x := by
  have named' := isEntryName_of_mem_testDirectories inside
  have other : "src" ≠ x := by
    rintro rfl
    exact absurd inside (by decide)
  simp only [testPlaces, Path.parent_child named.1, Path.parent_child isEntryName_src.1,
    testDirectoriesIn, List.cons_append, List.mem_cons, List.mem_append, List.mem_map] at mem
  obtain rfl | ⟨y, inside', rfl⟩ | mem := mem
  · exact absurd ((resolve_child_inj isEntryName_src named').mp same).2 other
  · have named := isEntryName_of_mem_testDirectories inside'
    have higher := ((resolve_child_inj named named').mp same).1
    exact absurd higher (resolve_child_ne isEntryName_src _ _)
  · split at mem
    · cases mem
    · obtain ⟨y, inside', rfl⟩ := List.mem_map.mp mem
      have named := isEntryName_of_mem_testDirectories inside'
      rw [((resolve_child_inj named named').mp same).2]

end Search

/-! ## From the test to the source -/

theorem findSome?_eq_some_of_forall_eq {α β : Type} {l : List α} {x : α} {y : β} {g : α → Option β}
    (all : ∀ a ∈ l, a = x) : l.findSome? g = some y ↔ l ≠ [] ∧ g x = some y := by
  induction l with
  | nil => simp
  | cons a l ih =>
    obtain ⟨rfl, all⟩ := List.forall_mem_cons.mp all
    rw [List.findSome?_cons]
    cases found : g a with
    | none => simp [ih all, found]
    | some z => simp

/-- Whatever reads the name of a test finds the name of the source, if its base is on one line. -/
theorem sourceName?_testName {n : String} (known : IsKnown ext) (isBase : IsBase base)
    (form : f ∈ nameForms) (form' : g ∈ nameForms) :
    g.sourceName? (f.testName base ext) = some n ↔
      g.Forms base.toList (f.before.toList ++ (base.toList ++ f.after.toList)) ∧
        '\n' ∉ base.toList ∧ n = fileName base ext := by
  obtain ⟨ending, dotless, -⟩ := known.ending
  have whole : String.ofList (base.toList ++ '.' :: ext.toList) = fileName base ext := by
    rw [← toList_fileName, String.ofList_toList]
  rw [sourceName?_eq_some toList_testName ending dotless]
  constructor
  · rintro ⟨m, forms, -, oneLine, rfl⟩
    obtain rfl := isBase.eq_of_forms form form' rfl forms
    exact ⟨forms, oneLine, whole⟩
  · rintro ⟨forms, oneLine, rfl⟩
    exact ⟨_, forms, by simpa using isBase.nonempty, oneLine, whole.symm⟩

theorem findSome?_sourceName? {g : String → Option Path} {s : Path} (known : IsKnown ext)
    (isBase : IsBase base) (form : f ∈ nameForms) :
    (nameForms.filterMap (·.sourceName? (f.testName base ext))).findSome? g = some s ↔
      '\n' ∉ base.toList ∧ g (fileName base ext) = some s := by
  have read (n : String) : n ∈ nameForms.filterMap (·.sourceName? (f.testName base ext)) →
      '\n' ∉ base.toList ∧ n = fileName base ext := by
    intro mem
    obtain ⟨g, form', found⟩ := List.mem_filterMap.mp mem
    exact ((sourceName?_testName known isBase form form').mp found).2
  rw [findSome?_eq_some_of_forall_eq fun n mem => (read n mem).2]
  refine and_congr_left fun _ => ⟨fun some => ?_, fun oneLine => ?_⟩
  · obtain ⟨n, mem⟩ := List.exists_mem_of_ne_nil _ some
    exact (read n mem).1
  · exact List.ne_nil_of_mem (List.mem_filterMap.mpr
      ⟨f, form, (sourceName?_testName known isBase form form).mpr ⟨rfl, oneLine, rfl⟩⟩)

/-- No two of the places that are searched from a test are the same. -/
theorem nodup_sourcePlaces (current test : Path) :
    ((sourcePlaces test).map (Path.resolve current)).Nodup := by
  by_cases inside : test.parent.name ∈ testDirectories
  case neg => simp [sourcePlaces, inside]
  case pos =>
    have part := isEntryName_of_mem_testDirectories inside
    have whole := Path.parent_child_of_name part.1
    have other : test.parent.name ≠ "src" := fun src => absurd (src ▸ inside) (by decide)
    have up : Path.resolve current test.parent ≠ Path.resolve current test.parent.parent := by
      conv_lhs => rw [← whole]
      exact resolve_child_ne part _ _
    have across : Path.resolve current test.parent ≠
        Path.resolve current (test.parent.parent.child "src") := by
      conv_lhs => rw [← whole]
      exact fun same => other ((resolve_child_inj part isEntryName_src).mp same).2
    have down := resolve_child_ne isEntryName_src current test.parent.parent
    simp [sourcePlaces, inside, up, across, down.symm]

/-! ## A source and its test -/

section Pair

variable {t d : Path} (known : IsKnown ext) (isBase : IsBase base)

include known isBase

theorem mem_testNames_child : name ∈ testNames (home.child (fileName base ext)) ↔
    ∃ f ∈ searchedForms, name = f.testName base ext := by
  rw [testNames_child known isBase.slashless isBase.nonempty, List.mem_map]
  simp only [eq_comm]

/-- A path under which a test is looked for is made of a place and a form. -/
theorem mem_testCandidates_child : t ∈ testCandidates (home.child (fileName base ext)) ↔
    ∃ place ∈ testPlaces (home.child (fileName base ext)), ∃ f ∈ searchedForms,
      t = place.child (f.testName base ext) := by
  simp only [testCandidates, List.mem_flatMap, List.mem_map, mem_testNames_child known isBase]
  constructor
  · rintro ⟨place, inside, n, ⟨f, form, rfl⟩, rfl⟩
    exact ⟨place, inside, f, form, rfl⟩
  · rintro ⟨place, inside, f, form, rfl⟩
    exact ⟨place, inside, _, ⟨f, form, rfl⟩, rfl⟩

variable (form : f ∈ searchedForms) (placed : place ∈ testPlaces (home.child (fileName base ext)))
  (pair : IsPair tree (home.child (fileName base ext)) (place.child (f.testName base ext)))

include pair

/-- A file that has the name of a test is the test. -/
theorem resolve_of_testName (form' : g ∈ nameForms)
    (file : tree.isFile (d.child (g.testName base ext))) :
    Path.resolve tree.current (d.child (g.testName base ext)) =
      Path.resolve tree.current (place.child (f.testName base ext)) := by
  refine (pair.only _ file).resolve_left fun same => ?_
  have named := isEntryName_testName known isBase.slashless form'
  have named' := isEntryName_fileName known isBase.slashless
  exact testName_ne form' ((resolve_child_inj named named').mp same).2

include form

/-- A file that has the name of the source is the source. -/
theorem resolve_of_fileName (file : tree.isFile (d.child (fileName base ext))) :
    Path.resolve tree.current (d.child (fileName base ext)) =
      Path.resolve tree.current (home.child (fileName base ext)) := by
  refine (pair.only _ file).resolve_right fun same => ?_
  have named := isEntryName_fileName known isBase.slashless
  have named' := isEntryName_testName known isBase.slashless (searchedForms_subset form)
  exact testName_ne (searchedForms_subset form) ((resolve_child_inj named named').mp same).2.symm

/-- From the test the source is found exactly if its place is searched and its base can be read
from the name, for which it must be on one line. -/
theorem sourceFile?_eq_iff :
    sourceFile? tree (place.child (f.testName base ext)) = some (home.child (fileName base ext)) ↔
      '\n' ∉ base.toList ∧ home ∈ sourcePlaces (place.child (f.testName base ext)) := by
  have called := isEntryName_testName known isBase.slashless (searchedForms_subset form)
  have named := isEntryName_fileName known isBase.slashless
  rw [sourceFile?, Path.name_child called.1,
    findSome?_sourceName? known isBase (searchedForms_subset form)]
  refine and_congr_right fun _ => ⟨fun found => ?_, fun back => ?_⟩
  · obtain ⟨d, mem, same⟩ := List.mem_map.mp (List.mem_of_find?_eq_some found)
    rwa [← Path.parent_child named.1 home, ← same, Path.parent_child named.1]
  · have apart : home.child (fileName base ext) ≠ place.child (f.testName base ext) := by
      intro same
      have names := congrArg Path.name same
      rw [Path.name_child named.1, Path.name_child called.1] at names
      exact testName_ne (searchedForms_subset form) names.symm
    have source : (tree.isFile (home.child (fileName base ext)) &&
        home.child (fileName base ext) != place.child (f.testName base ext)) = true := by
      simpa using ⟨pair.source, apart⟩
    rw [List.map_eq_flatMap]
    refine find?_of_only_place tree.current back (List.mem_singleton_self (fileName base ext))
      (List.forall_mem_singleton.mpr named) source ?_ ?_
    · intro d _ n mem file
      obtain rfl := List.mem_singleton.mp mem
      rw [Bool.and_eq_true] at file
      exact resolve_of_fileName known isBase form pair file.1
    · intro d mem same
      exact List.inj_on_of_nodup_map (nodup_sourcePlaces _ _) mem back same

include placed

/-- From the source the test is found if from the place of the test the source is searched. -/
theorem testFile?_of_isPair (back : home ∈ sourcePlaces (place.child (f.testName base ext))) :
    testFile? tree (home.child (fileName base ext)) = some (place.child (f.testName base ext)) := by
  have named (n : String) (called : n ∈ testNames (home.child (fileName base ext))) :
      IsEntryName n := by
    obtain ⟨g, form', rfl⟩ := (mem_testNames_child known isBase).mp called
    exact isEntryName_testName known isBase.slashless (searchedForms_subset form')
  have only (d : Path) (n : String) (called : n ∈ testNames (home.child (fileName base ext)))
      (file : tree.isFile (d.child n)) : Path.resolve tree.current (d.child n) =
        Path.resolve tree.current (place.child (f.testName base ext)) := by
    obtain ⟨g, form', rfl⟩ := (mem_testNames_child known isBase).mp called
    exact resolve_of_testName known isBase pair (searchedForms_subset form') file
  have called : f.testName base ext ∈ testNames (home.child (fileName base ext)) :=
    (mem_testNames_child known isBase).mpr ⟨f, form, rfl⟩
  have source := isEntryName_fileName known isBase.slashless
  rw [testFile?_eq fun n called => (named n called).1, testCandidates]
  have located : place ∈ home :: testDirectoriesIn home ∨
      ∃ above : Path, ∃ x ∈ testDirectories, place = above.child x ∧ home = above.child "src" := by
    obtain same | ⟨above, x, inside, beside, same | same⟩ :=
      (mem_sourcePlaces (named _ called).1).mp back
    · exact .inl (same ▸ List.mem_cons_self)
    · refine .inl (List.mem_cons_of_mem _ ?_)
      rw [beside, same]
      exact List.mem_map_of_mem inside
    · exact .inr ⟨above, x, inside, beside, same⟩
  obtain near | ⟨above, x, inside, rfl, rfl⟩ := located
  · -- what is farther away is not reached, and may be the same file if the source is above the top
    have first := find?_of_only_place _ near called named pair.test (fun d _ => only d)
      fun d mem => eq_of_near near mem
    rw [testPlaces, Path.parent_child source.1, List.flatMap_append, List.find?_append, first]
    rfl
  · exact find?_of_only_place _ placed called named pair.test (fun d _ => only d)
      fun d mem => eq_of_beside inside mem source

end Pair

/-! ## There and back -/

theorem of_eq {registry : Registry} {path : Path} {answer : Bool}
    (told : looksLikeTest registry path = .ok answer) : of tree registry path =
      .ok (if answer then sourceFile? tree path else testFile? tree path) := by
  rw [of, told, Except.ok_bind]
  cases answer <;> rfl

/-- The name of the test in one form is the one in another form if that reads it so. -/
theorem testName_eq_iff : f.testName base ext = g.testName base ext ↔
    g.Forms base.toList (f.before.toList ++ (base.toList ++ f.after.toList)) := by
  rw [← String.toList_inj, toList_testName, toList_testName, List.append_left_inj]
  rfl

section Told

variable (known : IsKnown ext) (isBase : IsBase base)

include known isBase

/-- No form finds a source for a source. -/
theorem sourceFile?_source : sourceFile? tree (home.child (fileName base ext)) = none := by
  obtain ⟨ending, dotless, -⟩ := known.ending
  have unread : nameForms.filterMap (·.sourceName? (fileName base ext)) = [] := by
    rw [List.filterMap_eq_nil_iff]
    intro f form
    rw [Option.eq_none_iff_forall_ne_some]
    intro n found
    obtain ⟨m, forms, -⟩ := (sourceName?_eq_some toList_fileName ending dotless).mp found
    exact isBase.not_forms form forms
  rw [sourceFile?, Path.name_child (isEntryName_fileName known isBase.slashless).1, unread]
  rfl

/-- A source is taken for a test in the one language whose rules ask for nothing. -/
theorem looksLikeTest_source : looksLikeTest Builtin.registry (home.child (fileName base ext)) =
    .ok (ext == "rs") := by
  have named := Path.name_child (isEntryName_fileName known isBase.slashless).1 home
  obtain ⟨answer, told, forms⟩ := looksLikeTest_registry known named isBase.nonempty
  rw [told, Bool.eq_iff_iff.mpr (forms.trans ?_)]
  rw [beq_iff_eq]
  constructor
  · rintro ⟨f, mem, m, forms⟩
    by_contra other
    exact isBase.not_forms (languageForms_subset other mem) forms
  · rintro rfl
    exact ⟨⟨"", ""⟩, List.mem_singleton_self _, base.toList, by simp [NameForm.Forms]⟩

/-- A test is taken for one if its name is one that the rules of its language know. -/
theorem looksLikeTest_test (place : Path) (form : f ∈ nameForms) (other : ext ≠ "rs") :
    ∃ answer, looksLikeTest Builtin.registry (place.child (f.testName base ext)) = .ok answer ∧
      (answer ↔ ∃ g ∈ languageForms ext, f.testName base ext = g.testName base ext) := by
  have named := Path.name_child (isEntryName_testName known isBase.slashless form).1 place
  have nonempty : f.before ++ base ++ f.after ≠ "" := by
    intro empty
    simp [isBase.nonempty] at empty
  obtain ⟨answer, told, forms⟩ := looksLikeTest_registry known named nonempty
  refine ⟨answer, told, forms.trans (exists_congr fun g => and_congr_right fun mem => ?_)⟩
  rw [testName_eq_iff]
  constructor
  · rintro ⟨m, forms⟩
    have forms : g.Forms m (f.before.toList ++ (base.toList ++ f.after.toList)) := by
      simpa using forms
    exact isBase.eq_of_forms form (languageForms_subset other mem) rfl forms ▸ forms
  · intro forms
    exact ⟨base.toList, by simpa using forms⟩

/-- The source of a test is not looked for as its test: the names only grow. -/
theorem testFile?_test_ne (form : f ∈ nameForms) :
    testFile? tree (place.child (f.testName base ext)) ≠ some (home.child (fileName base ext)) := by
  have slashless : '/' ∉ (f.before ++ base ++ f.after).toList := by
    simp [slashless_of_mem_nameForms form, isBase.slashless]
  have nonempty : f.before ++ base ++ f.after ≠ "" := by
    intro empty
    simp [isBase.nonempty] at empty
  have names := testNames_child known slashless nonempty place
  intro found
  rw [NameForm.testName, testFile?_eq] at found
  · obtain ⟨d, -, listed⟩ := List.mem_flatMap.mp (List.mem_of_find?_eq_some found)
    rw [names] at listed
    obtain ⟨n, called, same⟩ := List.mem_map.mp listed
    obtain ⟨g, form', rfl⟩ := List.mem_map.mp called
    have form' := searchedForms_subset form'
    have same := congrArg Path.name same
    rw [Path.name_child (isEntryName_testName known slashless form').1,
      Path.name_child (isEntryName_fileName known isBase.slashless).1] at same
    have longer := length_testName (f.before ++ base ++ f.after) ext form'
    have long := length_testName base ext form
    rw [same] at longer
    rw [NameForm.testName] at long
    omega
  · intro n called
    rw [names] at called
    obtain ⟨g, form', rfl⟩ := List.mem_map.mp called
    exact (isEntryName_testName known slashless (searchedForms_subset form')).1

end Told

/-- A source that is not formed like a test and its test, the only files of a tree, are each
other's counterparts exactly if the rules of the language know the form of the test's name, the
base of the names is on one line, and the directory of the source is searched from the test. -/
theorem round_trip_iff {s t : Path} (known : IsKnown ext) (isBase : IsBase base)
    (called : s = home.child (fileName base ext)) (pair : IsPair tree s t) :
    (of tree Builtin.registry s = .ok (some t) ∧ of tree Builtin.registry t = .ok (some s)) ↔
      (∃ g ∈ languageForms ext, t.name = g.testName base ext) ∧ '\n' ∉ base.toList ∧
        home ∈ sourcePlaces t := by
  subst called
  obtain ⟨place, placed, f, form, rfl⟩ := (mem_testCandidates_child known isBase).mp pair.place
  have form' := searchedForms_subset form
  have named := isEntryName_testName known isBase.slashless form'
  rw [of_eq (looksLikeTest_source known isBase), Path.name_child named.1,
    ← sourceFile?_eq_iff known isBase form pair]
  by_cases rust : ext = "rs"
  · -- the source is taken for a test, and its name is that of no test
    subst rust
    rw [if_pos (beq_self_eq_true "rs"), sourceFile?_source known isBase]
    constructor
    · rintro ⟨absent, -⟩
      cases absent
    · rintro ⟨⟨g, mem, same⟩, -⟩
      obtain rfl : g = ⟨"", ""⟩ := List.mem_singleton.mp mem
      exact absurd (same.trans (by simp [NameForm.testName])) (testName_ne form')
  · obtain ⟨answer, told, knows⟩ := looksLikeTest_test known isBase place form' rust
    rw [of_eq told, ← knows, if_neg (by simpa using rust)]
    constructor
    · rintro ⟨-, back⟩
      cases answer with
      | false => exact absurd (Except.ok.inj back) (testFile?_test_ne known isBase form')
      | true => exact ⟨rfl, Except.ok.inj back⟩
    · rintro ⟨rfl, back⟩
      have searched := ((sourceFile?_eq_iff known isBase form pair).mp back).2
      rw [testFile?_of_isPair known isBase form placed pair searched, if_pos rfl, back]
      exact ⟨rfl, rfl⟩

/-! ## Disks with two files -/

/-- A tree is as its listing says. -/
theorem isPair_of_files {s t : Path} (proper : tree.top.IsProper) (place : t ∈ testCandidates s)
    (source : tree.isFile s) (test : tree.isFile t)
    (files : ∀ p ∈ FileTree.filesBelow ⟨.slash, []⟩ tree.top,
      p = Path.resolve tree.current s ∨ p = Path.resolve tree.current t) : IsPair tree s t :=
  ⟨place, source, test, fun _ file => files _ (FileTree.resolve_mem_filesBelow proper file)⟩

/-- A disk with one file in each of two directories. -/
def twoFiles (directory name directory' name' : String) : FileTree where
  top := .directory [(directory, .directory [(name, .file [] false)]),
    (directory', .directory [(name', .file [] false)])]
  current := ⟨.slash, []⟩

/-- The top directory. -/
def top : Path := ⟨.slash, []⟩

theorem isProper_twoFiles {directory name directory' name' : String}
    (distinct : [directory, directory'].Nodup)
    (named : ∀ n ∈ [directory, name, directory', name'], IsEntryName n) :
    (twoFiles directory name directory' name').top.IsProper := by
  have single {n : String} (named : IsEntryName n) :
      (Node.directory [(n, .file [] false)]).IsProper :=
    .directory (List.nodup_singleton n) (List.forall_mem_singleton.mpr named)
      (List.forall_mem_singleton.mpr .file)
  simp only [List.forall_mem_cons] at named
  obtain ⟨outer, inner, outer', inner', -⟩ := named
  refine .directory distinct ?_ ?_
  · simp [outer, outer']
  · simp [single inner, single inner']

theorem isBase_lib : IsBase "lib" := ⟨by decide, by decide, by decide, by decide⟩

theorem isKnown_of_mem (mem : ext ∈ builtinNaming.flatMap (·.2.1)) : IsKnown ext :=
  isKnown_iff.mpr mem

/-- A source in the directory of sources, and its test in the directory of tests beside it. -/
theorem round_trip_iff_beside :
    IsPair (twoFiles "src" "lib.py" "tests" "test_lib.py") ((top.child "src").child "lib.py")
        ((top.child "tests").child "test_lib.py") ∧
      of (twoFiles "src" "lib.py" "tests" "test_lib.py") Builtin.registry
        ((top.child "src").child "lib.py") = .ok (some ((top.child "tests").child "test_lib.py")) ∧
      of (twoFiles "src" "lib.py" "tests" "test_lib.py") Builtin.registry
        ((top.child "tests").child "test_lib.py") =
          .ok (some ((top.child "src").child "lib.py")) := by
  have pair : IsPair (twoFiles "src" "lib.py" "tests" "test_lib.py")
      ((top.child "src").child "lib.py") ((top.child "tests").child "test_lib.py") :=
    isPair_of_files (isProper_twoFiles (by decide) (by decide)) (by decide +kernel)
      (by decide +kernel) (by decide +kernel) (by decide +kernel)
  have name : "lib.py" = fileName "lib" "py" := by decide
  have trip := round_trip_iff (isKnown_of_mem (by decide)) isBase_lib (congrArg _ name) pair
  refine ⟨pair, trip.mpr ⟨⟨⟨"test_", ""⟩, by decide, by decide +kernel⟩, by decide, ?_⟩⟩
  decide +kernel

/-- A source that is taken for a test, so that nothing is found from it, and a test beside the
directory of its source, from which nothing is found. -/
theorem no_way_back : IsBase "lib" ∧
    (IsKnown "rs" ∧
      IsPair (twoFiles "src" "lib.rs" "tests" "lib_test.rs") ((top.child "src").child "lib.rs")
        ((top.child "tests").child "lib_test.rs") ∧
      of (twoFiles "src" "lib.rs" "tests" "lib_test.rs") Builtin.registry
        ((top.child "src").child "lib.rs") = .ok none) ∧
    IsKnown "py" ∧
      IsPair (twoFiles "lib" "lib.py" "tests" "test_lib.py") ((top.child "lib").child "lib.py")
        ((top.child "tests").child "test_lib.py") ∧
      of (twoFiles "lib" "lib.py" "tests" "test_lib.py") Builtin.registry
        ((top.child "tests").child "test_lib.py") = .ok none := by
  have rust : IsKnown "rs" := isKnown_of_mem (by decide)
  have python : IsKnown "py" := isKnown_of_mem (by decide)
  refine ⟨isBase_lib, ⟨rust, ?_, ?_⟩, python, ?_, ?_⟩
  · exact isPair_of_files (isProper_twoFiles (by decide) (by decide)) (by decide +kernel)
      (by decide +kernel) (by decide +kernel) (by decide +kernel)
  · have name : "lib.rs" = fileName "lib" "rs" := by decide
    rw [name, of_eq (looksLikeTest_source rust isBase_lib), if_pos (beq_self_eq_true "rs"),
      sourceFile?_source rust isBase_lib]
  · exact isPair_of_files (isProper_twoFiles (by decide) (by decide)) (by decide +kernel)
      (by decide +kernel) (by decide +kernel) (by decide +kernel)
  · have name : "test_lib.py" = (NameForm.mk "test_" "").testName "lib" "py" := by decide
    have form : (NameForm.mk "test_" "") ∈ nameForms := by decide
    obtain ⟨answer, told, knows⟩ := looksLikeTest_test python isBase_lib
      (top.child "tests") form (by decide)
    obtain rfl : answer = true := knows.mpr ⟨_, List.mem_cons_self, rfl⟩
    rw [← name] at told
    rw [of_eq told, if_pos rfl]
    exact congrArg Except.ok (by decide +kernel)

end Proctor.Counterpart

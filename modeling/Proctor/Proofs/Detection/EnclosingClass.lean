import Proctor.Proofs.Detection.Declaration

/-!
# Tests in classes

Tests are functions, alone or in a class. Of the lines at the left margin only those count
that open a function or a class: the nearest of them, at or above the line of a test, decides
what the test stands in.
-/

namespace Proctor.Detection

open Pattern

/-- The line declares a class of tests at the left margin. -/
def IsTestClass (line name : String) : Prop :=
  Declares ["class".toList] "Test".toList line.toList name.toList

/-- The keywords of functions. -/
def functions : List (List (List Char)) := [["def".toList], ["async".toList, "def".toList]]

/-- The line declares a test function, after any blanks. -/
def IsTestFunction (line name : String) : Prop :=
  ∃ margin text, line.toList = margin ++ text ∧ (∀ c ∈ margin, Text.isBlank c) ∧
    ∃ keywords ∈ functions, Declares keywords "test_".toList text name.toList

/-- The last of some lines that opens a function or a class at the left margin declares the
class of tests. -/
def StandsIn (lines : List String) (name : String) : Prop :=
  ∃ above opener body, lines = above ++ opener :: body ∧ IsTestClass opener name ∧
    ∀ line ∈ body, ¬ Opens line.toList

/-! ## Beginnings -/

theorem Declares.isPrefix {keyword stem text name : List Char} {keywords : List (List Char)}
    (declares : Declares (keyword :: keywords) stem text name) : keyword <+: text := by
  obtain ⟨heads, -, -, -⟩ := declares
  cases heads
  simp only [List.append_assoc]
  exact List.prefix_append _ _

/-- Texts that begin with different keywords declare different things. -/
theorem declared?_of_other {keyword keyword' stem stem' text name : List Char}
    {keywords keywords' : List (List Char)}
    (declares : Declares (keyword :: keywords) stem text name)
    (other : ¬ keyword <+: keyword' ∧ ¬ keyword' <+: keyword) :
    declared? (keyword' :: keywords') stem' text = none := by
  cases begins : keyword'.isPrefixOf text with
  | true =>
    have both := List.prefix_or_prefix_of_prefix declares.isPrefix
      (List.isPrefixOf_iff_prefix.mp begins)
    rcases both with one | one
    · exact absurd one other.1
    · exact absurd one other.2
  | false => simp [declared?, afterWords?, afterWord?_eq, begins]

theorem Declares.stem_isPrefix {keywords : List (List Char)} {stem text name : List Char}
    (declares : Declares keywords stem text name) : stem <+: name := by
  obtain ⟨-, -, -, -⟩ := declares
  exact List.prefix_append _ _

theorem mem_functions {keywords : List (List Char)} :
    keywords ∈ functions ↔ keywords = ["def".toList] ∨ keywords = ["async".toList, "def".toList] := by
  rw [functions, List.mem_cons, List.mem_singleton]

theorem functions_subset : functions ⊆ openers := by decide

theorem Declares.opens {keywords : List (List Char)} {stem text name : List Char}
    (declares : Declares keywords stem text name) (mem : keywords ∈ openers) : Opens text := by
  obtain ⟨heads, -, -, -⟩ := declares
  exact ⟨keywords, mem, _, _, heads, rfl⟩

theorem IsTestClass.isOpener {line name : String} (declares : IsTestClass line name) :
    isOpener line :=
  isOpener_iff.mpr (declares.opens (by decide))

theorem Opens.isSolid {text : List Char} (opens : Opens text) : IsSolid text := by
  obtain ⟨keywords, mem, head, rest, heads, rfl⟩ := opens
  obtain ⟨nonempty, solid⟩ := isSolid_openers keywords mem
  cases heads with
  | nil => exact absurd rfl nonempty
  | cons =>
    have first := solid _ List.mem_cons_self
    simp only [List.append_assoc]
    exact ⟨List.append_ne_nil_of_left_ne_nil first.1 _, first.indent_append _⟩

/-! ## The class that is found -/

/-- The class of tests that a line declares at the left margin. -/
def testClass? (line : String) : Option String :=
  (declared? ["class".toList] "Test".toList line.toList).map String.ofList

/-- The class of tests that the last opener of some lines declares. -/
def classOf? (lines : List String) : Option String :=
  (lines.reverse.find? isOpener).bind testClass?

theorem isTestClass_iff {line name : String} :
    IsTestClass line name ↔ testClass? line = some name := by
  rw [IsTestClass, ← declared?_eq_some_iff (by decide) (by decide), testClass?,
    Option.map_eq_some_iff]
  constructor
  · intro found
    exact ⟨_, found, String.ofList_toList⟩
  · rintro ⟨chars, found, rfl⟩
    have back : (String.ofList chars).toList = chars := String.toList_ofList
    rw [back]
    exact found

theorem standsIn_iff {lines : List String} {name : String} :
    StandsIn lines name ↔ classOf? lines = some name := by
  rw [classOf?, Option.bind_eq_some_iff]
  constructor
  · rintro ⟨above, opener, body, rfl, declares, clear⟩
    refine ⟨opener, List.find?_eq_some_iff_append.mpr
      ⟨declares.isOpener, body.reverse, above.reverse, by simp, ?_⟩, isTestClass_iff.mp declares⟩
    intro line mem
    have closed := clear line (List.mem_reverse.mp mem)
    simpa [← isOpener_iff] using closed
  · rintro ⟨opener, found, declares⟩
    obtain ⟨-, below, above, same, clear⟩ := List.find?_eq_some_iff_append.mp found
    refine ⟨above.reverse, opener, below.reverse, ?_, isTestClass_iff.mpr declares, ?_⟩
    · rw [← List.reverse_reverse lines, same]
      simp
    · intro line mem
      have closed := clear line (List.mem_reverse.mp mem)
      simpa [← isOpener_iff] using closed

theorem findSome?_search? {β : Type} (patterns : List Pattern) (line : String)
    (f : Match → β) :
    patterns.findSome? (fun p => (p.search? line).map f) =
      (patterns.map (·.expression)).findSome? fun e => (e.search? line.toList).map f := by
  rw [List.findSome?_map]
  rfl

variable {patterns : List Pattern}

theorem firstCapture_eq
    (scope : patterns.map (·.expression) = [atMargin ["class".toList] "Test".toList])
    (line : String) : firstCapture patterns line = testClass? line := by
  rw [firstCapture, findSome?_search?, scope, List.findSome?_singleton,
    search?_atMargin _ (by decide) (by decide), testClass?]
  cases declared? ["class".toList] "Test".toList line.toList <;> rfl

theorem isOpener_of_isInner {line : String} (inner : isInner line) : isOpener line = false := by
  rw [Bool.eq_false_iff, Ne, isOpener_iff]
  intro opens
  obtain ⟨c, rest, same, solid⟩ := opens.isSolid.exists_cons
  simp [isInner, indentOf, Text.indent, Text.isBlankText, same, solid] at inner

theorem IsTestClass.make {line name : String} (declares : IsTestClass line name) :
    Context.make name 0 false = .ok ⟨name, 0, false⟩ := by
  have nonempty : name.isEmpty = false := by
    rw [Bool.eq_false_iff, Ne, String.isEmpty_iff]
    rintro rfl
    exact absurd declares.stem_isPrefix (by decide)
  unfold Context.make
  rw [nonempty]
  rfl

theorem classAbove_eq
    (scope : patterns.map (·.expression) = [atMargin ["class".toList] "Test".toList])
    (lines : List String) :
    classAbove patterns lines.reverse =
      .ok ((classOf? lines).map fun name => ⟨name, 0, false⟩) := by
  unfold classOf?
  generalize lines.reverse = above
  induction above with
  | nil => rfl
  | cons line above ih =>
    rw [classAbove, firstCapture_eq scope, List.find?_cons]
    cases inner : isInner line with
    | true =>
      rw [isOpener_of_isInner inner]
      exact ih
    | false =>
      cases found : testClass? line with
      | some name =>
        have declares : IsTestClass line name := isTestClass_iff.mpr found
        simp [declares.isOpener, found, declares.make, Except.map]
      | none =>
        cases isOpener line with
        | true => simp [found]
        | false => exact ih

/-- What encloses a line by the rule of enclosing classes: nothing if the line stands at the
left margin, and else what the last opener above it declares. -/
theorem enclosingClass_eq {p : Profile} {lines : List String} {line : String} {i : Nat}
    (scope : p.scopePatterns.map (·.expression) = [atMargin ["class".toList] "Test".toList])
    (there : lines[i]? = some line) :
    enclosingClass lines (i + 1 : Nat) p =
      if indentOf line = 0 then .ok none
      else .ok ((classOf? (lines.take i)).map fun name => ⟨name, 0, false⟩) := by
  have above : linesBefore lines (i + 1 : Nat) = lines.take i := by
    rw [linesBefore]
    congr 1
    omega
  have positive : ¬ ((i + 1 : Nat) : Int) ≤ 0 := by omega
  rw [enclosingClass, if_neg positive, above, classAbove_eq scope]
  simp [there]

/-- The context of a test function is the class it stands in. -/
theorem enclosingClass_of_isTestFunction {p : Profile} {lines : List String}
    {line name : String} {i : Nat}
    (scope : p.scopePatterns.map (·.expression) = [atMargin ["class".toList] "Test".toList])
    (there : lines[i]? = some line) (test : IsTestFunction line name) :
    enclosingClass lines (i + 1 : Nat) p =
      .ok ((classOf? (lines.take (i + 1))).map fun name => ⟨name, 0, false⟩) := by
  have last : (lines.take (i + 1)).reverse = line :: (lines.take i).reverse := by
    rw [List.take_add_one, there]
    simp
  rw [enclosingClass_eq scope there, classOf?, classOf?, last, List.find?_cons]
  obtain ⟨margin, text, same, blank, keywords, mem, declares⟩ := test
  cases margin with
  | nil =>
    -- The function opens itself at the left margin, and it is no class.
    have opens : Opens text := declares.opens (functions_subset mem)
    obtain rfl : line.toList = text := same
    have margin : indentOf line = 0 := opens.isSolid.2
    have alone : testClass? line = none := by
      rw [testClass?]
      obtain rfl | rfl := mem_functions.mp mem
      · rw [declared?_of_other declares (by decide)]
        rfl
      · rw [declared?_of_other declares (by decide)]
        rfl
    rw [if_pos margin, isOpener_iff.mpr opens]
    simp [alone]
  | cons c margin =>
    have inner : isInner line := by
      simp [isInner, indentOf, same, Text.indent, blank c List.mem_cons_self]
    have moved : indentOf line ≠ 0 := by
      simp [indentOf, same, Text.indent, blank c List.mem_cons_self]
    rw [if_neg moved, isOpener_of_isInner inner]

end Proctor.Detection

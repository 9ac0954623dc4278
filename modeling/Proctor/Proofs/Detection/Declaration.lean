import Proctor.Detection.Scope
import Proctor.Proofs.Pattern.Match

/-!
# Declarations

A line declares a function or a class with some keywords, each with blanks after it, and a
name. What the expressions for such lines find is described twice: by a scanner, which the
matcher follows step by step, and by the texts themselves.
-/

namespace Proctor.Detection

open Pattern

/-- A word that is not empty and does not begin with a blank. -/
def IsSolid (word : List Char) : Prop := word ≠ [] ∧ Text.indent word = 0

instance (word : List Char) : Decidable (IsSolid word) :=
  inferInstanceAs (Decidable (_ ∧ _))

theorem IsSolid.exists_cons {word : List Char} (solid : IsSolid word) :
    ∃ c rest, word = c :: rest ∧ Text.isBlank c = false := by
  obtain ⟨c, rest, rfl⟩ := List.exists_cons_of_ne_nil solid.1
  refine ⟨c, rest, rfl, ?_⟩
  cases blank : Text.isBlank c with
  | true => simp [IsSolid, Text.indent, blank] at solid
  | false => rfl

theorem IsSolid.indent_append {word : List Char} (solid : IsSolid word) (rest : List Char) :
    Text.indent (word ++ rest) = 0 := by
  obtain ⟨c, word, rfl, blank⟩ := solid.exists_cons
  simp [Text.indent, blank]

theorem IsSolid.not_isPrefixOf {word : List Char} (solid : IsSolid word) {c : Char}
    (blank : Text.isBlank c) (rest : List Char) : word.isPrefixOf (c :: rest) = false := by
  obtain ⟨d, word, rfl, other⟩ := solid.exists_cons
  have ne : d ≠ c := by
    rintro rfl
    exact absurd blank (by simp [other])
  simp [List.isPrefixOf, ne]

/-! ## What a text declares -/

/-- Keywords, and at least one blank after each. -/
inductive Heads : List (List Char) → List Char → Prop
  | nil : Heads [] []
  | cons {keyword gap head : List Char} {keywords : List (List Char)} :
    gap ≠ [] → (∀ c ∈ gap, Text.isBlank c) → Heads keywords head →
    Heads (keyword :: keywords) (keyword ++ gap ++ head)

/-- A text declares a name: after the keywords comes the stem, and then as many word
characters as there are, at least one. -/
inductive Declares (keywords : List (List Char)) (stem : List Char) :
    List Char → List Char → Prop
  | intro {head run tail : List Char} :
    Heads keywords head → run ≠ [] → (∀ c ∈ run, Text.isWordChar c) →
    (∀ c ∈ tail.head?, Text.isWordChar c = false) →
    Declares keywords stem (head ++ (stem ++ run ++ tail)) (stem ++ run)

/-! ## The scanner -/

/-- The text after some keywords, each with blanks after it. -/
def afterWords? : List (List Char) → List Char → Option (List Char)
  | [], cs => some cs
  | word :: words, cs => (afterWord? word cs).bind (afterWords? words)

/-- The name a text begins with: the stem and the word characters after it. -/
def nameAt? (stem cs : List Char) : Option (List Char) :=
  let run := (cs.drop stem.length).takeWhile Text.isWordChar
  if stem.isPrefixOf cs then
    if 1 ≤ run.length then some (stem ++ run) else none
  else none

/-- The name a text declares. -/
def declared? (keywords : List (List Char)) (stem cs : List Char) : Option (List Char) :=
  (afterWords? keywords cs).bind (nameAt? stem)

theorem afterWord?_eq (word cs : List Char) :
    afterWord? word cs =
      if word.isPrefixOf cs then
        if 1 ≤ Text.indent (cs.drop word.length) then some (Text.stripStart (cs.drop word.length))
        else none
      else none := by
  unfold afterWord?
  split
  · cases cs.drop word.length with
    | nil => rfl
    | cons c rest =>
      cases blank : Text.isBlank c <;> simp [Text.indent, Text.stripStart, blank]
  · rfl

theorem afterWord?_eq_some_iff {word cs rest : List Char} :
    afterWord? word cs = some rest ↔
      ∃ gap, gap ≠ [] ∧ (∀ c ∈ gap, Text.isBlank c) ∧ cs = word ++ gap ++ rest ∧
        Text.indent rest = 0 := by
  rw [afterWord?_eq]
  constructor
  · intro found
    split at found
    case isFalse => cases found
    case isTrue begins =>
      split at found
      case isFalse => cases found
      case isTrue nonempty =>
        obtain rfl := Option.some.inj found
        refine ⟨(cs.drop word.length).takeWhile Text.isBlank, List.ne_nil_of_length_pos nonempty,
          fun c => List.mem_takeWhile_imp, ?_, Text.indent_stripStart _⟩
        rw [Text.stripStart, List.append_assoc, List.takeWhile_append_dropWhile]
        exact (List.prefix_iff_eq_append.mp (List.isPrefixOf_iff_prefix.mp begins)).symm
  · rintro ⟨gap, nonempty, blank, rfl, margin⟩
    have begins : word.isPrefixOf (word ++ (gap ++ rest)) :=
      List.isPrefixOf_iff_prefix.mpr ⟨gap ++ rest, rfl⟩
    have long : 1 ≤ gap.length + Text.indent rest :=
      Nat.le_add_right_of_le (List.length_pos_iff.mpr nonempty)
    rw [List.append_assoc, if_pos begins, List.drop_left,
      Text.indent_append_of_blank blank, if_pos long, Text.stripStart_append_of_blank blank,
      Text.stripStart_of_indent margin]

theorem nameAt?_eq_some_iff {stem cs name : List Char} :
    nameAt? stem cs = some name ↔
      ∃ run tail, run ≠ [] ∧ (∀ c ∈ run, Text.isWordChar c) ∧
        (∀ c ∈ tail.head?, Text.isWordChar c = false) ∧ cs = stem ++ run ++ tail ∧
        name = stem ++ run := by
  unfold nameAt?
  dsimp only
  constructor
  · intro found
    split at found
    case isFalse => cases found
    case isTrue begins =>
      split at found
      case isFalse => cases found
      case isTrue nonempty =>
        obtain rfl := Option.some.inj found
        refine ⟨_, (cs.drop stem.length).dropWhile Text.isWordChar,
          List.ne_nil_of_length_pos nonempty, fun c => List.mem_takeWhile_imp, ?_, ?_, rfl⟩
        · intro c first
          have stopped := List.head?_dropWhile_not Text.isWordChar (cs.drop stem.length)
          rw [Option.mem_def.mp first] at stopped
          simpa using stopped
        · rw [List.append_assoc, List.takeWhile_append_dropWhile]
          exact (List.prefix_iff_eq_append.mp (List.isPrefixOf_iff_prefix.mp begins)).symm
  · rintro ⟨run, tail, nonempty, word, stops, rfl, rfl⟩
    have begins : stem.isPrefixOf (stem ++ (run ++ tail)) :=
      List.isPrefixOf_iff_prefix.mpr ⟨run ++ tail, rfl⟩
    have rest : tail.takeWhile Text.isWordChar = [] := by
      cases tail with
      | nil => rfl
      | cons c tail => simp [stops c rfl]
    have whole : (run ++ tail).takeWhile Text.isWordChar = run := by
      rw [List.takeWhile_append_of_pos word, rest, List.append_nil]
    have long : 1 ≤ run.length := List.length_pos_iff.mpr nonempty
    simp only [List.append_assoc, begins, List.drop_left, whole, long, if_true]

theorem Heads.indent_append {keywords : List (List Char)} {head rest : List Char}
    (heads : Heads keywords head) (solid : ∀ word ∈ keywords, IsSolid word)
    (margin : Text.indent rest = 0) : Text.indent (head ++ rest) = 0 := by
  cases heads with
  | nil => exact margin
  | cons =>
    rw [List.append_assoc, List.append_assoc]
    exact (solid _ List.mem_cons_self).indent_append _

theorem Heads.afterWords? {keywords : List (List Char)} {head rest : List Char}
    (heads : Heads keywords head) (solid : ∀ word ∈ keywords, IsSolid word)
    (margin : Text.indent rest = 0) :
    afterWords? keywords (head ++ rest) = some rest := by
  induction heads with
  | nil => rfl
  | @cons keyword gap head keywords nonempty blank heads ih =>
    have solid : ∀ word ∈ keywords, IsSolid word := fun word mem =>
      solid word (List.mem_cons_of_mem keyword mem)
    have first : afterWord? keyword (keyword ++ gap ++ head ++ rest) = some (head ++ rest) :=
      afterWord?_eq_some_iff.mpr
        ⟨gap, nonempty, blank, List.append_assoc _ _ _, heads.indent_append solid margin⟩
    rw [Detection.afterWords?, first]
    exact ih solid

theorem heads_of_afterWords? {keywords : List (List Char)} {cs rest : List Char}
    (found : afterWords? keywords cs = some rest) :
    ∃ head, Heads keywords head ∧ cs = head ++ rest := by
  induction keywords generalizing cs with
  | nil =>
    obtain rfl : cs = rest := Option.some.inj found
    exact ⟨[], .nil, rfl⟩
  | cons keyword keywords ih =>
    obtain ⟨middle, first, others⟩ := Option.bind_eq_some_iff.mp found
    obtain ⟨gap, nonempty, blank, rfl, -⟩ := afterWord?_eq_some_iff.mp first
    obtain ⟨head, heads, rfl⟩ := ih others
    exact ⟨keyword ++ gap ++ head, .cons nonempty blank heads, (List.append_assoc _ _ _).symm⟩

/-- The scanner finds what the text declares. -/
theorem declared?_eq_some_iff {keywords : List (List Char)} {stem cs name : List Char}
    (solid : ∀ word ∈ keywords, IsSolid word) (solidStem : IsSolid stem) :
    declared? keywords stem cs = some name ↔ Declares keywords stem cs name := by
  rw [declared?, Option.bind_eq_some_iff]
  constructor
  · rintro ⟨rest, found, named⟩
    obtain ⟨head, heads, rfl⟩ := heads_of_afterWords? found
    obtain ⟨run, tail, nonempty, word, stops, rfl, rfl⟩ := nameAt?_eq_some_iff.mp named
    exact .intro heads nonempty word stops
  · rintro ⟨heads, nonempty, word, stops⟩
    refine ⟨_, heads.afterWords? solid ?_, nameAt?_eq_some_iff.mpr
      ⟨_, _, nonempty, word, stops, rfl, rfl⟩⟩
    rw [List.append_assoc]
    exact solidStem.indent_append _

/-! ## The matcher -/

/-- The expression for what declares a name. -/
def declaration (keywords : List (List Char)) (stem : List Char) : Pattern.Syntax :=
  keywords.foldr (fun word e => .spell word (.seq (.run .greedy 1 none .blank) e))
    (.capture 1 (.spell stem (.run .greedy 1 none .word)))

theorem tryAt_declaration_cons {word stem : List Char} {words : List (List Char)}
    {p : Progress} {rest : Rest} :
    (declaration (word :: words) stem).tryAt p rest =
      if word.isPrefixOf p.place.after then
        (Syntax.run .greedy 1 none .blank).tryAt
          { p with place := p.place.forward word.length }
          fun q => (declaration words stem).tryAt q rest
      else none :=
  tryAt_spell

theorem shuns_declaration {keywords : List (List Char)} {stem : List Char} {rest : Rest}
    (solid : ∀ word ∈ keywords, IsSolid word) (solidStem : IsSolid stem) :
    Rest.Shuns .blank fun q => (declaration keywords stem).tryAt q rest := by
  intro p inside
  obtain ⟨c, cs, after, held⟩ := Place.nextIn_iff.mp inside
  have blank : Text.isBlank c := by simpa using held
  cases keywords with
  | nil =>
    change (Syntax.spell stem _).tryAt p _ = none
    rw [tryAt_spell, after, solidStem.not_isPrefixOf blank cs]
    rfl
  | cons word words =>
    change (declaration (word :: words) stem).tryAt p rest = none
    rw [tryAt_declaration_cons, after, (solid word List.mem_cons_self).not_isPrefixOf blank cs]
    rfl

theorem reach_blank (p : Place) : p.reach .blank = Text.indent p.after := by
  rw [Place.reach, CharClass.blank_holds, Text.indent]

theorem take_of_isPrefixOf {stem cs : List Char} (begins : stem.isPrefixOf cs)
    (holds : Char → Bool) :
    cs.take (stem.length + ((cs.drop stem.length).takeWhile holds).length) =
      stem ++ (cs.drop stem.length).takeWhile holds := by
  obtain ⟨rest, rfl⟩ := List.isPrefixOf_iff_prefix.mp begins
  rw [List.drop_left, List.take_length_add_append]
  congr 1
  exact List.prefix_iff_eq_take.mp (List.takeWhile_prefix holds) |>.symm

/-- What is kept of a match is the name that the scanner finds. -/
theorem tryAt_declaration {keywords : List (List Char)} {stem : List Char} (p : Progress)
    (solid : ∀ word ∈ keywords, IsSolid word) (solidStem : IsSolid stem) :
    ((declaration keywords stem).tryAt p some).map (·.kept) =
      (declared? keywords stem p.place.after).map fun name => (1, name) :: p.kept := by
  induction keywords generalizing p with
  | nil =>
    change ((Syntax.spell stem (.run .greedy 1 none .word)).tryAt p
      fun q => some (q.keep 1 p.place)).map _ = (nameAt? stem p.place.after).map _
    rw [tryAt_spell, nameAt?]
    split
    case isFalse => rfl
    case isTrue begins =>
      have kept := take_of_isPrefixOf begins Text.isWordChar
      rw [tryAt_run_of_total fun q => Option.some_ne_none _]
      simp only [Place.reach, CharClass.word_holds, Place.forward_after, Place.forward_forward,
        Progress.keep, Place.forward_index, Nat.add_sub_cancel_left, kept]
      split <;> rfl
  | cons word words ih =>
    have solidWords : ∀ w ∈ words, IsSolid w := fun w mem =>
      solid w (List.mem_cons_of_mem word mem)
    rw [tryAt_declaration_cons, declared?, afterWords?, afterWord?_eq]
    split
    case isFalse => rfl
    case isTrue =>
      rw [tryAt_run_of_shuns (shuns_declaration solidWords solidStem)]
      simp only [reach_blank, Place.forward_after]
      split
      case isFalse => rfl
      case isTrue =>
        rw [ih _ solidWords]
        simp only [Place.forward_after, Text.drop_indent, declared?, Option.bind_some]

/-- The expression for a declaration at the left margin. -/
def atMargin (keywords : List (List Char)) (stem : List Char) : Pattern.Syntax :=
  .seq (.anchor .textStart) (declaration keywords stem)

/-- The expression for a declaration after any blanks. -/
def indented (keywords : List (List Char)) (stem : List Char) : Pattern.Syntax :=
  .seq (.anchor .textStart) (.seq (.run .greedy 0 none .blank) (declaration keywords stem))

theorem search?_declaration {keywords : List (List Char)} {stem cs : List Char}
    {e : Pattern.Syntax} {place : Place}
    (begun : e.tryAt ⟨.start cs, []⟩ some = (declaration keywords stem).tryAt ⟨place, []⟩ some)
    (solid : ∀ word ∈ keywords, IsSolid word) (solidStem : IsSolid stem) :
    (Syntax.seq (.anchor .textStart) e).search? cs =
      (declared? keywords stem place.after).map fun name => ⟨0, [(1, name)]⟩ := by
  have kept := tryAt_declaration ⟨place, []⟩ solid solidStem
  have named := congrArg (Option.map (Match.mk 0)) kept
  rw [Option.map_map, Option.map_map] at named
  rw [search?_textStart, begun]
  exact named

theorem search?_atMargin {keywords : List (List Char)} {stem : List Char} (cs : List Char)
    (solid : ∀ word ∈ keywords, IsSolid word) (solidStem : IsSolid stem) :
    (atMargin keywords stem).search? cs =
      (declared? keywords stem cs).map fun name => ⟨0, [(1, name)]⟩ :=
  search?_declaration rfl solid solidStem

theorem search?_indented {keywords : List (List Char)} {stem : List Char} (cs : List Char)
    (solid : ∀ word ∈ keywords, IsSolid word) (solidStem : IsSolid stem) :
    (indented keywords stem).search? cs =
      (declared? keywords stem (Text.stripStart cs)).map fun name => ⟨0, [(1, name)]⟩ := by
  have begun : (Syntax.seq (.run .greedy 0 none .blank) (declaration keywords stem)).tryAt
      ⟨.start cs, []⟩ some = (declaration keywords stem).tryAt
        ⟨(Place.start cs).forward (Text.indent cs), []⟩ some := by
    change (Syntax.run .greedy 0 none .blank).tryAt _ _ = _
    rw [tryAt_run_of_shuns (shuns_declaration solid solidStem), if_pos (Nat.zero_le _),
      reach_blank]
    rfl
  have found := search?_declaration begun solid solidStem
  rw [Place.forward_after, Place.start, Text.drop_indent] at found
  exact found

/-! ## Openers -/

/-- The keywords of lines that open a function or a class. -/
def openers : List (List (List Char)) :=
  [["def".toList], ["class".toList], ["async".toList, "def".toList]]

/-- A text opens a function or a class if it begins with the keywords for that. -/
def Opens (cs : List Char) : Prop :=
  ∃ keywords ∈ openers, ∃ head rest, Heads keywords head ∧ cs = head ++ rest

theorem Heads.append_of_blank {keywords : List (List Char)} {head more : List Char}
    (heads : Heads keywords head) (nonempty : keywords ≠ [])
    (blank : ∀ c ∈ more, Text.isBlank c) : Heads keywords (head ++ more) := by
  induction heads with
  | nil => exact absurd rfl nonempty
  | @cons keyword gap head keywords some first heads ih =>
    cases heads with
    | nil =>
      have longer : Heads [keyword] (keyword ++ (gap ++ more) ++ []) := by
        refine .cons (List.append_ne_nil_of_left_ne_nil some more) (fun c mem => ?_) .nil
        rcases List.mem_append.mp mem with mem | mem
        · exact first c mem
        · exact blank c mem
      simpa using longer
    | cons =>
      rw [List.append_assoc]
      exact .cons some first (ih (List.cons_ne_nil _ _))

theorem isSome_afterWords?_iff {keywords : List (List Char)} {cs : List Char}
    (nonempty : keywords ≠ []) (solid : ∀ word ∈ keywords, IsSolid word) :
    (afterWords? keywords cs).isSome ↔ ∃ head rest, Heads keywords head ∧ cs = head ++ rest := by
  rw [Option.isSome_iff_exists]
  constructor
  · rintro ⟨rest, found⟩
    obtain ⟨head, heads, same⟩ := heads_of_afterWords? found
    exact ⟨head, rest, heads, same⟩
  · rintro ⟨head, rest, heads, rfl⟩
    refine ⟨Text.stripStart rest, ?_⟩
    have longer : Heads keywords (head ++ rest.takeWhile Text.isBlank) :=
      heads.append_of_blank nonempty fun c => List.mem_takeWhile_imp
    have split : head ++ rest =
        head ++ rest.takeWhile Text.isBlank ++ Text.stripStart rest := by
      rw [List.append_assoc, Text.stripStart, List.takeWhile_append_dropWhile]
    rw [split]
    exact longer.afterWords? solid (Text.indent_stripStart rest)

theorem isSolid_openers : ∀ keywords ∈ openers, keywords ≠ [] ∧ ∀ word ∈ keywords, IsSolid word := by
  decide

theorem isOpener_iff {line : String} : isOpener line ↔ Opens line.toList := by
  have scan : isOpener line =
      openers.any fun keywords => (afterWords? keywords line.toList).isSome := by
    have alone (word : List Char) : afterWords? [word] = afterWord? word := by
      funext cs
      exact Option.bind_fun_some _
    simp only [openers, List.any_cons, List.any_nil, Bool.or_false, alone, isOpener, Bool.or_assoc]
    rw [afterWords?, alone]
  rw [scan, List.any_eq_true, Opens]
  constructor
  · rintro ⟨keywords, mem, found⟩
    obtain ⟨nonempty, solid⟩ := isSolid_openers keywords mem
    exact ⟨keywords, mem, (isSome_afterWords?_iff nonempty solid).mp found⟩
  · rintro ⟨keywords, mem, begins⟩
    obtain ⟨nonempty, solid⟩ := isSolid_openers keywords mem
    exact ⟨keywords, mem, (isSome_afterWords?_iff nonempty solid).mpr begins⟩

end Proctor.Detection

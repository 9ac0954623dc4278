import Mathlib.Data.List.Forall2
import Proctor.Command.Template
import Proctor.Proofs.Text.Words

/-!
# What a template comes to

`Expansion` says which words a template stands for, given a text for each placeholder: the
template splits into fields at its blanks, a field is passed over once from left to right, and
what comes out empty is left out. Every template has one such list of words, and it is the one
that is found.

Because a text is put in after the splitting and is not looked at again, it decides nothing but
whether a field comes out empty. So two tables of texts that leave the same placeholders empty
keep the same fields, and the words differ in the places of the placeholders only.
-/

namespace Proctor.Command

variable {values values' : Placeholder → String} {given : List (String × Value)}
  {template : String} {cs rest out : List Char} {c : Char}

/-! ## One field -/

theorem Placeholder.ofLetter?_letter (p : Placeholder) : ofLetter? p.letter = some p := by
  cases p <;> rfl

theorem Placeholder.ofLetter?_eq_some {p : Placeholder} :
    ofLetter? c = some p ↔ p.letter = c := by
  constructor
  · intro found
    simpa using List.find?_some found
  · rintro rfl
    exact p.ofLetter?_letter

/-- What comes out of one pass over a field. A per cent sign and the letter of a placeholder
give the text of that placeholder, and any other character gives itself. -/
inductive Scans (values : Placeholder → String) : List Char → List Char → Prop
  | nil : Scans values [] []
  | placeholder (p : Placeholder) {rest out : List Char} (later : Scans values rest out) :
      Scans values ('%' :: p.letter :: rest) ((values p).toList ++ out)
  | copy {c : Char} {rest out : List Char}
      (other : c = '%' → ∀ p : Placeholder, rest.head? ≠ some p.letter)
      (later : Scans values rest out) : Scans values (c :: rest) (c :: out)

theorem fill_cons_char (c : Char) (field : List Piece) :
    fill values (.char c :: field) = c :: fill values field := rfl

theorem fill_cons_placeholder (p : Placeholder) (field : List Piece) :
    fill values (.placeholder p :: field) = (values p).toList ++ fill values field := rfl

theorem pieces_placeholder (p : Placeholder) (rest : List Char) :
    pieces ('%' :: p.letter :: rest) = .placeholder p :: pieces rest := by
  rw [pieces, p.ofLetter?_letter]

theorem pieces_copy (other : c = '%' → ∀ p : Placeholder, rest.head? ≠ some p.letter) :
    pieces (c :: rest) = .char c :: pieces rest := by
  by_cases percent : c = '%'
  · subst percent
    cases rest with
    | nil => rfl
    | cons d rest =>
      have none_ : Placeholder.ofLetter? d = none := by
        rw [Option.eq_none_iff_forall_ne_some]
        intro p found
        exact other rfl p (by rw [Placeholder.ofLetter?_eq_some.mp found, List.head?_cons])
      rw [pieces, none_]
  · rw [pieces]
    · exact fun same _ => percent same
    · exact fun _ _ same _ => percent same

theorem scans_fill (values : Placeholder → String) (cs : List Char) :
    Scans values cs (fill values (pieces cs)) := by
  fun_induction pieces cs with
  | case1 => exact .nil
  | case2 => exact .copy (by simp) .nil
  | case3 d rest p found ih =>
    obtain rfl := Placeholder.ofLetter?_eq_some.mp found
    exact .placeholder p ih
  | case4 d rest none_ ih =>
    refine .copy (fun _ p same => ?_) ih
    obtain rfl : d = p.letter := by simpa using same
    cases none_.symm.trans p.ofLetter?_letter
  | case5 d rest _ plain ih =>
    refine .copy (fun percent p same => ?_) ih
    obtain ⟨later, rfl⟩ := List.head?_eq_some_iff.mp same
    exact plain _ _ percent rfl

/-- A field is filled by one pass over it. -/
theorem fill_pieces_eq_iff : fill values (pieces cs) = out ↔ Scans values cs out := by
  constructor
  · rintro rfl
    exact scans_fill values cs
  · intro scan
    induction scan with
    | nil => rfl
    | placeholder p _ ih => rw [pieces_placeholder, fill_cons_placeholder, ih]
    | copy other _ ih => rw [pieces_copy other, fill_cons_char, ih]

/-! ## A template -/

/-- The words that a template stands for. -/
def Expansion (values : Placeholder → String) (template : String) (words : List String) : Prop :=
  ∃ fields filled, Text.SplitsInto template.toList fields ∧
    List.Forall₂ (Scans values) fields filled ∧
    words = (filled.filter fun w => !w.isEmpty).map String.ofList

theorem expand_eq_iff {words : List String} :
    expand values template = words ↔ Expansion values template words := by
  have each {fields filled : List (List Char)} :
      List.Forall₂ (Scans values) fields filled ↔
        (fields.map pieces).map (fill values) = filled := by
    rw [List.map_map, ← List.forall₂_eq_eq_eq, List.forall₂_map_left_iff]
    simp only [Function.comp_apply, fill_pieces_eq_iff]
  constructor
  · rintro rfl
    exact ⟨_, _, Text.words_eq_iff.mp rfl, each.mpr rfl, rfl⟩
  · rintro ⟨fields, filled, split, passed, rfl⟩
    obtain rfl := Text.words_eq_iff.mpr split
    obtain rfl := each.mp passed
    rfl

/-! ## Tables of texts -/

/-- The table has a text for every placeholder, under its letter. -/
def Assigns (given : List (String × Value)) (values : Placeholder → String) : Prop :=
  ∀ p : Placeholder, given.lookup (String.singleton p.letter) = some (.text (values p))

/-- The table with the texts of all placeholders. -/
def tableOf (values : Placeholder → String) : List (String × Value) :=
  Placeholder.all.map fun p => (String.singleton p.letter, .text (values p))

theorem assigns_tableOf (values : Placeholder → String) : Assigns (tableOf values) values := by
  intro p
  cases p <;> rfl

theorem checkField_of_assigns (assigned : Assigns given values) (field : List Piece) :
    checkField given field = .ok () := by
  have found : (placeholdersOf field).map (fun p => given.lookup (String.singleton p.letter)) =
      (placeholdersOf field).map fun p => some (.text (values p)) :=
    List.map_congr_left fun p _ => assigned p
  unfold checkField
  simp [found]

/-- Every field passes the check when every placeholder has a text. -/
theorem forIn_checkField (assigned : Assigns given values) (fields : List (List Piece)) :
    (forIn fields PUnit.unit fun field _ => do
      checkField given field
      pure (ForInStep.yield PUnit.unit)) = (.ok PUnit.unit : Except Error PUnit) := by
  induction fields with
  | nil => rfl
  | cons field fields ih =>
    rw [List.forIn_cons, checkField_of_assigns assigned]
    exact ih

theorem expandWith_of_assigns (assigned : Assigns given values) :
    expandWith given template = .ok (expand values template) := by
  have texts : (fun p : Placeholder =>
      ((given.lookup (String.singleton p.letter)).bind Value.asText?).getD "") = values := by
    funext p
    rw [assigned p]
    rfl
  rw [expandWith, texts, forIn_checkField assigned]
  rfl

/-! ## What the texts decide -/

/-- A field comes out empty if there is nothing in it but placeholders of empty texts. -/
theorem fill_eq_nil_iff {field : List Piece} :
    fill values field = [] ↔ ∀ piece ∈ field, ∃ p, piece = .placeholder p ∧ values p = "" := by
  induction field with
  | nil => simp [fill]
  | cons piece field ih =>
    cases piece with
    | char c => simp [fill_cons_char]
    | placeholder p => simp [fill_cons_placeholder, ih]

/-- The fields that do not come out empty. -/
def kept (values : Placeholder → String) (template : String) : List (List Piece) :=
  (fields template).filter fun field => !(fill values field).isEmpty

theorem kept_congr (alike : ∀ p, values p = "" ↔ values' p = "") (template : String) :
    kept values' template = kept values template := by
  refine List.filter_congr fun field _ => ?_
  have same : fill values' field = [] ↔ fill values field = [] := by
    simp only [fill_eq_nil_iff, alike]
  rw [Bool.not_inj_iff, Bool.eq_iff_iff, List.isEmpty_iff, List.isEmpty_iff, same]

/-- Every word is one of the fields, with texts in the places of its placeholders. -/
theorem expand_eq_map_kept (values : Placeholder → String) (template : String) :
    expand values template =
      (kept values template).map fun field => String.ofList (fill values field) := by
  rw [expand, kept, List.filter_map, List.map_map]
  rfl

/-- Whatever the template and whatever the texts of the placeholders: there are words for them,
and these are the words that the template stands for. With any other texts of which the same
ones are empty, the same fields are kept, each as one word, and in a field the same characters
stand around the texts: what is in a text, blanks and per cent signs included, neither divides
a word nor is looked at again. -/
theorem expandWith_single_pass (template : String) (assigned : Assigns given values) :
    (∃ words, expandWith given template = .ok words ∧
      ∀ other, Expansion values template other ↔ other = words) ∧
    ∀ given' values', Assigns given' values' → (∀ p, values p = "" ↔ values' p = "") →
      ∃ kept : List (List Piece), kept.Sublist (fields template) ∧
        expandWith given template =
          .ok (kept.map fun field => String.ofList (fill values field)) ∧
        expandWith given' template =
          .ok (kept.map fun field => String.ofList (fill values' field)) := by
  constructor
  · refine ⟨expand values template, expandWith_of_assigns assigned, fun other => ?_⟩
    rw [← expand_eq_iff, eq_comm]
  · intro given' values' assigned' alike
    refine ⟨kept values template, List.filter_sublist, ?_, ?_⟩
    · rw [expandWith_of_assigns assigned, expand_eq_map_kept]
    · rw [expandWith_of_assigns assigned', expand_eq_map_kept, kept_congr alike]

/-! A test whose name and file are written like templates themselves. -/

def hostile : Placeholder → String
  | .name => "adds %f, 100%"
  | .file => "%s \t%%n"
  | .ending => ""
  | _ => "%d"

def plain : Placeholder → String
  | .ending => ""
  | p => String.singleton p.letter

/-- The name and the file stay in the word that asks for them, and a per cent sign before
another one stands for itself. With plain texts there are as many words. -/
theorem expandWith_single_pass_hostile :
    Assigns (tableOf hostile) hostile ∧ Assigns (tableOf plain) plain ∧
      (∀ p, hostile p = "" ↔ plain p = "") ∧
      expandWith (tableOf hostile) "run\u2003%f::%%s %e %x% " =
        .ok ["run", "%s \t%%n::%adds %f, 100%", "%x%"] ∧
      ∃ words, expandWith (tableOf plain) "run\u2003%f::%%s %e %x% " = .ok words ∧
        words.length = 3 := by
  have alike : ∀ p, hostile p = "" ↔ plain p = "" := by
    intro p
    cases p <;> decide
  have written : expandWith (tableOf hostile) "run\u2003%f::%%s %e %x% " =
      .ok ["run", "%s \t%%n::%adds %f, 100%", "%x%"] := by
    rw [expandWith_of_assigns (assigns_tableOf hostile)]
    exact congrArg Except.ok (by decide +kernel)
  refine ⟨assigns_tableOf hostile, assigns_tableOf plain, alike, written, ?_⟩
  obtain ⟨kept, -, here, there⟩ := (expandWith_single_pass "run\u2003%f::%%s %e %x% "
    (assigns_tableOf hostile)).2 _ _ (assigns_tableOf plain) alike
  have three := congrArg List.length (Except.ok.inj (written.symm.trans here))
  exact ⟨_, there, by simpa using three.symm⟩

end Proctor.Command

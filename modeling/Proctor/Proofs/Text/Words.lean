import Proctor.Text.Blank

/-!
# The words of a text

The words of a text are what its blanks leave between them. `SplitsInto` says which words these
are without saying how they are found: passing over blanks, and taking a run that is free of
blanks and as long as it can be. There is one such list for every text, and it is that of
`words`.
-/

namespace Proctor.Text

/-- The words that a text splits into at its blanks. -/
inductive SplitsInto : List Char → List (List Char) → Prop
  | nil : SplitsInto [] []
  | blank {c : Char} {rest : List Char} {ws : List (List Char)} (isBlank_ : isBlank c)
      (later : SplitsInto rest ws) : SplitsInto (c :: rest) ws
  /-- A word is not empty, and it ends where the text ends or a blank follows. -/
  | word {w rest : List Char} {ws : List (List Char)} (some_ : w ≠ [])
      (solid : ∀ c ∈ w, isBlank c = false) (ends : ∀ c ∈ rest.head?, isBlank c)
      (later : SplitsInto rest ws) : SplitsInto (w ++ rest) (w :: ws)

variable {cs rest w current : List Char} {ws : List (List Char)}

/-- A word is gathered up to its end. -/
theorem wordsFrom_append (solid : ∀ c ∈ w, isBlank c = false) (current rest : List Char) :
    wordsFrom current (w ++ rest) = wordsFrom (w.reverse ++ current) rest := by
  induction w generalizing current with
  | nil => rfl
  | cons c w ih =>
    obtain ⟨here, later⟩ := List.forall_mem_cons.mp solid
    rw [List.cons_append, wordsFrom]
    simp [here, ih later]

/-- A word that has been gathered is given out where a blank follows it or nothing does. -/
theorem wordsFrom_of_ends (some_ : current ≠ []) (ends : ∀ c ∈ rest.head?, isBlank c) :
    wordsFrom current rest = current.reverse :: words rest := by
  cases rest with
  | nil => simp [wordsFrom, some_]
  | cons c rest =>
    have blank : isBlank c := ends c (by simp)
    simp [words, wordsFrom, blank, some_]

/-- The text with the word that is being gathered before it splits into the words that are
found. The induction is on the text that is still to be read. -/
theorem splitsInto_wordsFrom (solid : ∀ c ∈ current, isBlank c = false) :
    SplitsInto (current.reverse ++ cs) (wordsFrom current cs) := by
  induction cs generalizing current with
  | nil =>
    cases current with
    | nil => exact .nil
    | cons c current =>
      exact .word (by simp) (fun d mem => solid d (List.mem_reverse.mp mem)) (by simp) .nil
  | cons c rest ih =>
    rw [wordsFrom]
    cases blank : isBlank c with
    | true =>
      have later : SplitsInto (c :: rest) (wordsFrom [] rest) :=
        .blank blank (ih (List.forall_mem_nil _))
      cases current with
      | nil => exact later
      | cons d current =>
        exact .word (by simp) (fun d mem => solid d (List.mem_reverse.mp mem)) (by simp [blank])
          later
    | false => simpa using ih (List.forall_mem_cons.mpr ⟨blank, solid⟩)

/-- The words of a text are those it splits into. -/
theorem words_eq_iff : words cs = ws ↔ SplitsInto cs ws := by
  constructor
  · rintro rfl
    exact splitsInto_wordsFrom (List.forall_mem_nil _)
  · intro split
    induction split with
    | nil => rfl
    | blank isBlank_ _ ih => simpa [words, wordsFrom, isBlank_] using ih
    | @word w rest ws some_ solid ends _ ih =>
      rw [words, wordsFrom_append solid, List.append_nil,
        wordsFrom_of_ends (by simpa using some_) ends, ih, List.reverse_reverse]

end Proctor.Text

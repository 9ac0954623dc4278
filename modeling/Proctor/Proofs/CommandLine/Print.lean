import Proctor.CommandLine.Desk
import Proctor.Proofs.Command.Words

/-!
# What is left of a line that is printed

A line is printed without the control sequences of terminals, and otherwise as it is. No such
sequence goes on over a blank or a quote, so a line of quoted words has one exactly if one of
the words has.
-/

namespace Proctor.CommandLine.Desk

/-- Is there a control sequence of a terminal in the text? -/
def hasSequence : List Char → Bool
  | [] => false
  | c :: rest => (sequenceLength? (c :: rest)).isSome || hasSequence rest

variable {c : Char} {cs ds : List Char}

theorem length_plainFrom_le (n : Nat) (cs : List Char) : (plainFrom n cs).length ≤ cs.length := by
  induction cs generalizing n with
  | nil => cases n <;> exact Nat.le_refl 0
  | cons c rest ih =>
    cases n with
    | succ n => exact Nat.le_succ_of_le (ih n)
    | zero =>
      rw [plainFrom]
      split
      · exact Nat.le_succ_of_le (ih _)
      · exact Nat.succ_le_succ (ih 0)

/-- A text stays as it is exactly if there is no control sequence in it. -/
theorem plainFrom_eq_self_iff : plainFrom 0 cs = cs ↔ hasSequence cs = false := by
  induction cs with
  | nil => simp [plainFrom, hasSequence]
  | cons c rest ih =>
    rw [plainFrom, hasSequence]
    cases sequence : sequenceLength? (c :: rest) with
    | none => simp [ih]
    | some n =>
      refine iff_of_false (fun same => ?_) (by simp)
      have shorter : (c :: rest).length ≤ rest.length := same ▸ length_plainFrom_le n rest
      exact absurd shorter (Nat.not_succ_le_self _)

theorem lineOf_eq_iff {s : String} : lineOf s = s ++ "\n" ↔ hasSequence s.toList = false := by
  rw [← plainFrom_eq_self_iff, lineOf, String.append_left_inj]
  constructor
  · intro same
    rw [← String.toList_ofList (l := plainFrom 0 s.toList), same]
  · intro same
    rw [same, String.ofList_toList]

/-! ## Lines of words -/

/-- No control sequence goes on over the character. -/
def breaksSequence (c : Char) : Bool :=
  c != '\x1b' && c != '[' && !c.isAlpha && !c.isDigit && c != ';' && c != '?'

theorem isSome_controlLength?_append (breaks : breaksSequence c) (cs ds : List Char) :
    (controlLength? (cs ++ c :: ds)).isSome = (controlLength? cs).isSome := by
  induction cs with
  | nil => simp_all [breaksSequence, controlLength?]
  | cons k rest ih =>
    rw [List.cons_append, controlLength?, controlLength?]
    split
    · rfl
    · split
      · rw [Option.isSome_map, Option.isSome_map, ih]
      · rfl

theorem isSome_sequenceLength?_append (breaks : breaksSequence c) (cs ds : List Char) :
    (sequenceLength? (cs ++ c :: ds)).isSome = (sequenceLength? cs).isSome := by
  have notEscape : c ≠ '\x1b' := by rintro rfl; cases breaks
  have notBracket : c ≠ '[' := by rintro rfl; cases breaks
  match cs with
  | [] => simp [sequenceLength?, notEscape]
  | [k] => simp [sequenceLength?, notBracket]
  | k :: k' :: rest =>
    by_cases begins : k = '\x1b' ∧ k' = '['
    · obtain ⟨rfl, rfl⟩ := begins
      have goesOn := isSome_controlLength?_append breaks rest ds
      simpa [sequenceLength?] using goesOn
    · have other (later : List Char) : sequenceLength? (k :: k' :: later) = none := by
        unfold sequenceLength?
        split
        · simp_all
        · rfl
      simp [other]

theorem hasSequence_cons (breaks : breaksSequence c) (ds : List Char) :
    hasSequence (c :: ds) = hasSequence ds := by
  have here : (sequenceLength? (c :: ds)).isSome = false :=
    isSome_sequenceLength?_append breaks [] ds
  simp only [hasSequence, here, Bool.false_or]

theorem hasSequence_append (breaks : breaksSequence c) (cs ds : List Char) :
    hasSequence (cs ++ c :: ds) = (hasSequence cs || hasSequence ds) := by
  induction cs with
  | nil => exact hasSequence_cons breaks ds
  | cons k rest ih =>
    have here := isSome_sequenceLength?_append breaks (k :: rest) ds
    rw [List.cons_append] at here
    simp only [List.cons_append, hasSequence, here, ih, Bool.or_assoc]

theorem breaksSequence_quote : breaksSequence '\x27' := by decide

/-- The quotes inside a quoted word neither make nor break a control sequence. -/
theorem hasSequence_escapeQuotes (cs : List Char) :
    hasSequence (Command.escapeQuotes cs) = hasSequence cs := by
  induction size : cs.length using Nat.strongRecOn generalizing cs with
  | ind size_ ih =>
  by_cases quoted : '\x27' ∈ cs
  · obtain ⟨first, later, rfl, plain⟩ := List.eq_append_cons_of_mem quoted
    have shorter : later.length < size_ := by
      rw [← size, List.length_append, List.length_cons]
      omega
    rw [Command.escapeQuotes_append_quote plain, hasSequence_append breaksSequence_quote,
      Command.quoteInside]
    simp only [List.cons_append, List.nil_append, hasSequence_append breaksSequence_quote,
      hasSequence_cons breaksSequence_quote, hasSequence_cons (show breaksSequence '"' by decide),
      ih later.length shorter later rfl]
  · rw [Command.escapeQuotes_of_not_mem quoted]

theorem hasSequence_quoteWord (cs : List Char) :
    hasSequence (Command.quoteWord cs) = hasSequence cs := by
  unfold Command.quoteWord
  split
  · rfl
  · rw [hasSequence_cons breaksSequence_quote, hasSequence_append breaksSequence_quote,
      hasSequence_escapeQuotes, hasSequence, Bool.or_false]

/-- A line of words has a control sequence exactly if one of the words has. -/
theorem hasSequence_line (words : List String) :
    hasSequence (Command.line words).toList = words.any fun w => hasSequence w.toList := by
  induction words with
  | nil => rfl
  | cons w words ih =>
    cases words with
    | nil => rw [Command.toList_line_singleton, List.append_nil, hasSequence_quoteWord]; simp
    | cons v words =>
      rw [Command.toList_line_cons_cons, hasSequence_append (by decide), hasSequence_quoteWord, ih]
      rfl

end Proctor.CommandLine.Desk

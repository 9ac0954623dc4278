import Proctor.Text.Case

/-!
# Characters and their numbers

A character is known by its number, and a number that is no character makes the null character.
Of all characters only the dot has the dot for its small letter: the capitals above 127 and
their small letters lie in runs, and no run comes down that far.
-/

namespace Proctor.Text

/-- The number of a character is no surrogate. -/
theorem toNat_valid (c : Char) : c.toNat < 0xd800 ∨ 0xdfff < c.toNat ∧ c.toNat < 0x110000 :=
  c.valid

/-- A number that is no surrogate is that of the character it makes. -/
theorem toNat_ofNat_of_valid {n : Nat} (valid : n < 0xd800 ∨ 0xdfff < n ∧ n < 0x110000) :
    (Char.ofNat n).val.toNat = n := by
  have isValid : n.isValidChar := valid
  rw [Char.ofNat, dif_pos isValid]
  rfl

/-- A character is made of its own number, and the null character of all that are none. -/
theorem eq_toNat_of_ofNat {n : Nat} {c : Char} (same : Char.ofNat n = c) (some_ : c.toNat ≠ 0) :
    n = c.toNat := by
  have number : (Char.ofNat n).toNat = c.toNat := congrArg Char.toNat same
  by_cases valid : n.isValidChar
  · exact (toNat_ofNat_of_valid valid).symm.trans number
  · have null : Char.ofNat n = '\x00' := dif_neg valid
    rw [null] at number
    exact absurd number.symm some_

/-! ## Small letters -/

/-- No run of capitals is lowered as far as to the dot. -/
theorem dot_lt_of_mem_lowerRuns : ∀ r ∈ lowerRuns, 46 < (r.first : Int) + r.shift := by
  decide +kernel

theorem lowerChar_ne_dot {c : Char} (other : c ≠ '.') : lowerChar c ≠ '.' := by
  unfold lowerChar
  split
  case isTrue plain =>
    have table : ∀ n < 128, (Char.ofNat n).toLower = '.' → Char.ofNat n = '.' := by
      decide +kernel
    have lowered := table c.toNat plain
    rw [Char.ofNat_toNat] at lowered
    exact mt lowered other
  case isFalse =>
    split
    case h_2 => exact other
    case h_1 r found =>
      intro same
      have value : _ = 46 := eq_toNat_of_ofNat same (by decide)
      have covered : r.covers c.toNat := by simpa using List.find?_some found
      have far := dot_lt_of_mem_lowerRuns r (List.mem_of_find?_eq_some found)
      simp only [LowerRun.covers, Bool.and_eq_true, decide_eq_true_eq] at covered
      omega

/-- The small letters of a character that is no dot begin with something else than a dot. -/
theorem exists_lowerFrom_cons {c : Char} (other : c ≠ '.') (before rest : List Char) :
    ∃ d small, lowerFrom before (c :: rest) = d :: small ∧ d ≠ '.' := by
  rw [lowerFrom]
  split
  · split
    · exact ⟨'ς', _, rfl, by decide⟩
    · exact ⟨'σ', _, rfl, by decide⟩
  · split
    · exact ⟨'i', _, rfl, by decide⟩
    · exact ⟨lowerChar c, _, rfl, lowerChar_ne_dot other⟩

end Proctor.Text

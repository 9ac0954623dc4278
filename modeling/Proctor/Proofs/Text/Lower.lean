import Proctor.Proofs.Text.Character

/-!
# Texts in lower case

Nothing in a text in lower case has another small letter: the small letters of each run of
capitals lie outside all runs, and the characters of their own that the dotted capital I and the
capital sigma become are small. So no part of such a text changes when it is lowered again.
-/

namespace Proctor.Text

/-! ## Runs of capitals -/

/-- The small letter of the first capital of a run. -/
def LowerRun.least (r : LowerRun) : Nat := ((r.first : Int) + r.shift).toNat

/-- Do the small letters of one run lie before the capitals of another, behind them, or between
them? -/
def LowerRun.misses (r q : LowerRun) : Bool :=
  (r.least + (r.last - r.first)).blt q.first || q.last.blt r.least ||
    ((r.step % q.step == 0 || r.first == r.last) && r.least % q.step != q.first % q.step)

theorem misses_of_mem_lowerRuns : ∀ r ∈ lowerRuns, ∀ q ∈ lowerRuns, r.misses q := by
  have all : lowerRuns.all fun r => lowerRuns.all fun q => r.misses q := by decide +kernel
  simpa using all

variable {r q : LowerRun} {n : Nat} {c d : Char} {before cs : List Char}

theorem LowerRun.covers_iff : r.covers n ↔
    r.first ≤ n ∧ n ≤ r.last ∧ (n - r.first) % r.step = 0 := by
  simp [covers, and_assoc]

/-- The small letter of a capital lies as far behind that of the first as the capital behind the
first. -/
theorem LowerRun.toNat_add_shift (mem : r ∈ lowerRuns) (above : r.first ≤ n) :
    ((n : Int) + r.shift).toNat = r.least + (n - r.first) := by
  have far := dot_lt_of_mem_lowerRuns r mem
  rw [least]
  omega

/-- A run covers no small letter of another that misses it. -/
theorem LowerRun.not_covers (missed : r.misses q) (covered : r.covers n) :
    ¬ q.covers (r.least + (n - r.first)) := by
  obtain ⟨above, below, inStep⟩ := covers_iff.mp covered
  rw [covers_iff]
  rintro ⟨above', below', inStep'⟩
  simp only [misses, Bool.or_eq_true, Bool.and_eq_true, Nat.blt_eq, beq_iff_eq, bne_iff_ne]
    at missed
  obtain (before | behind) | ⟨steps, apart⟩ := missed
  · omega
  · omega
  · have same : (n - r.first) % q.step = 0 := by
      obtain divides | single := steps
      · exact Nat.mod_eq_zero_of_dvd (Nat.dvd_trans (Nat.dvd_of_mod_eq_zero divides)
          (Nat.dvd_of_mod_eq_zero inStep))
      · have first : n - r.first = 0 := by omega
        rw [first, Nat.zero_mod]
    apply apart
    calc r.least % q.step
        = (r.least + (n - r.first)) % q.step := by
          rw [Nat.add_mod, same, Nat.add_zero, Nat.mod_mod]
      _ = (q.first + (r.least + (n - r.first) - q.first)) % q.step := by
          rw [Nat.add_sub_cancel' above']
      _ = q.first % q.step := by rw [Nat.add_mod, inStep', Nat.add_zero, Nat.mod_mod]

/-! ## Characters -/

theorem lowerChar_of_not_covers (large : 128 ≤ c.toNat)
    (missed : ∀ q ∈ lowerRuns, ¬ q.covers c.toNat) : lowerChar c = c := by
  have none_ : lowerRuns.find? (·.covers c.toNat) = none :=
    List.find?_eq_none.mpr fun q mem => by simpa using missed q mem
  rw [lowerChar, if_neg (Nat.not_lt.mpr large), none_]

/-- A character is lowered to itself, or it is a plain one, or it lies in a run of capitals. -/
theorem lowerChar_cases (c : Char) :
    lowerChar c = c ∨ (c.toNat < 128 ∧ lowerChar c = c.toLower) ∨
      ∃ r ∈ lowerRuns, r.covers c.toNat ∧
        lowerChar c = Char.ofNat (r.least + (c.toNat - r.first)) := by
  by_cases plain : c.toNat < 128
  · exact .inr (.inl ⟨plain, if_pos plain⟩)
  cases found : lowerRuns.find? (·.covers c.toNat) with
  | none =>
    refine .inl (lowerChar_of_not_covers (Nat.not_lt.mp plain) fun q mem => ?_)
    exact List.find?_eq_none.mp found q mem
  | some r =>
    have mem := List.mem_of_find?_eq_some found
    have covered : r.covers c.toNat := by simpa using List.find?_some found
    refine .inr (.inr ⟨r, mem, covered, ?_⟩)
    rw [lowerChar, if_neg plain, found]
    exact congrArg Char.ofNat (LowerRun.toNat_add_shift mem (LowerRun.covers_iff.mp covered).1)

/-- What is lowered to a plain character is lowered to a small one. -/
theorem plain_of_mem_lowerRuns : ∀ r ∈ lowerRuns, r.least < 128 →
    r.first = r.last ∧ lowerChar (Char.ofNat r.least) = Char.ofNat r.least := by
  decide +kernel

/-- A small letter has no other small letter. -/
theorem lowerChar_lowerChar (c : Char) : lowerChar (lowerChar c) = lowerChar c := by
  obtain same | ⟨plain, lowered⟩ | ⟨r, mem, covered, lowered⟩ := lowerChar_cases c
  · rw [same, same]
  · have table : ∀ n < 128, lowerChar (Char.ofNat n).toLower = (Char.ofNat n).toLower := by
      decide +kernel
    have small := table c.toNat plain
    rwa [Char.ofNat_toNat, ← lowered] at small
  · generalize number : r.least + (c.toNat - r.first) = n at lowered
    have zero : lowerChar '\x00' = '\x00' := by decide +kernel
    by_cases null : (Char.ofNat n).toNat = 0
    · have same : Char.ofNat n = '\x00' := Char.toNat_inj.mp null
      rw [lowered, same, zero]
    have known : n = (Char.ofNat n).toNat := eq_toNat_of_ofNat rfl null
    by_cases small : r.least < 128
    · obtain ⟨single, plain⟩ := plain_of_mem_lowerRuns r mem small
      obtain ⟨above, below, -⟩ := LowerRun.covers_iff.mp covered
      obtain rfl : r.least = n := by omega
      rw [lowered, plain]
    · rw [lowered]
      apply lowerChar_of_not_covers
      · omega
      · intro q found
        rw [← known, ← number]
        exact LowerRun.not_covers (misses_of_mem_lowerRuns r mem q found) covered

/-! ## Texts -/

theorem lowerFrom_of_small (small : ∀ c ∈ cs, lowerChar c = c) (before : List Char) :
    lowerFrom before cs = cs := by
  induction cs generalizing before with
  | nil => rfl
  | cons c rest ih =>
    obtain ⟨here, later⟩ := List.forall_mem_cons.mp small
    have noSigma : c ≠ 'Σ' := by
      rintro rfl
      revert here
      decide +kernel
    have noDotted : c ≠ 'İ' := by
      rintro rfl
      revert here
      decide +kernel
    rw [lowerFrom, if_neg noSigma, if_neg noDotted, here, ih later]
    rfl

theorem small_of_mem_lowerFrom (mem : c ∈ lowerFrom before cs) : lowerChar c = c := by
  induction cs generalizing before with
  | nil => cases mem
  | cons d rest ih =>
    rw [lowerFrom] at mem
    obtain here | later := List.mem_append.mp mem
    · have table : lowerChar 'ς' = 'ς' ∧ lowerChar 'σ' = 'σ' ∧ lowerChar 'i' = 'i' ∧
          lowerChar '\u0307' = '\u0307' := by
        decide +kernel
      obtain ⟨final, sigma, i, dot⟩ := table
      split at here
      · split at here
        · obtain rfl := List.mem_singleton.mp here
          exact final
        · obtain rfl := List.mem_singleton.mp here
          exact sigma
      · split at here
        · obtain rfl | here := List.mem_cons.mp here
          · exact i
          · obtain rfl := List.mem_singleton.mp here
            exact dot
        · obtain rfl := List.mem_singleton.mp here
          exact lowerChar_lowerChar d
    · exact ih later

theorem lower_ofList_of_small (small : ∀ c ∈ cs, lowerChar c = c) :
    lower (String.ofList cs) = String.ofList cs := by
  rw [lower, String.toList_ofList, lowerFrom_of_small small]

end Proctor.Text

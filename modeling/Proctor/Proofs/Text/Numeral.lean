import Mathlib.Data.List.Induction
import Proctor.Text.Digit

/-!
# Numerals

A numeral is a text of decimal digits, of whatever script, and spells the number that it has
in the decimal system. It is read as that number unless it is too long, and a text without
separators that is no numeral is not read.
-/

namespace Proctor.Text

variable {cs : List Char} {n : Nat}

/-! ## Reading -/

theorem dropSeparators_of_not_mem (clean : '_' ∉ cs) : dropSeparators cs = some cs := by
  induction cs with
  | nil => rfl
  | cons c cs ih =>
    obtain ⟨here, later⟩ := not_or.mp (List.mem_cons.not.mp clean)
    rw [dropSeparators.eq_def]
    simp only [if_neg (Ne.symm here), ih later, Option.map_some]

theorem isSome_decimalFrom_iff {acc : Nat} :
    (decimalFrom acc cs).isSome ↔ ∀ c ∈ cs, isDecimal c := by
  induction cs generalizing acc with
  | nil => simp [decimalFrom]
  | cons c cs ih => cases value : decimalValue? c <;> simp [decimalFrom, isDecimal, value, ih]

/-- A text without separators is read as it stands, unless it is too long. -/
theorem parseNat?_of_not_mem (clean : '_' ∉ cs) (some_ : cs ≠ []) :
    parseNat? cs = if cs.length > maxDigits then none else decimal? cs := by
  cases cs with
  | nil => exact absurd rfl some_
  | cons c rest =>
    have unfolded : parseNat? (c :: rest) = (dropSeparators (c :: rest)).bind fun digits =>
        if digits.length > maxDigits then none else decimal? digits := by
      unfold parseNat?
      split
      · contradiction
      · rename_i same
        exact absurd (same ▸ List.mem_cons_self) clean
      · rfl
    rw [unfolded, dropSeparators_of_not_mem clean, Option.bind_some]

theorem parseNat?_eq_none_iff (clean : '_' ∉ cs) (some_ : cs ≠ []) :
    parseNat? cs = none ↔ maxDigits < cs.length ∨ ∃ c ∈ cs, ¬ isDecimal c := by
  have value : decimal? cs = none ↔ ∃ c ∈ cs, ¬ isDecimal c := by
    cases cs with
    | nil => exact absurd rfl some_
    | cons c rest =>
      change decimalFrom 0 (c :: rest) = none ↔ _
      rw [← Option.not_isSome_iff_eq_none, isSome_decimalFrom_iff]
      simp only [not_forall, exists_prop]
  rw [parseNat?_of_not_mem clean some_, ← value]
  split
  · rename_i long
    simpa using .inl long
  · rename_i short
    rw [or_iff_right short]

theorem not_mem_of_decimals (decimals : ∀ c ∈ cs, isDecimal c) : '_' ∉ cs := by
  intro mem
  exact absurd (decimals _ mem) (by decide)

/-- A run of digits is a number unless it is too long. -/
theorem parseNat?_eq_none_iff_of_decimals (decimals : ∀ c ∈ cs, isDecimal c) (some_ : cs ≠ []) :
    parseNat? cs = none ↔ maxDigits < cs.length := by
  rw [parseNat?_eq_none_iff (not_mem_of_decimals decimals) some_, or_iff_left]
  rintro ⟨c, mem, other⟩
  exact other (decimals c mem)

/-! ## Spelling -/

/-- A text of digits and the number that it spells. -/
inductive Spells : List Char → Nat → Prop
  | digit {c : Char} {d : Nat} (value : decimalValue? c = some d) : Spells [c] d
  | more {cs : List Char} {c : Char} {n d : Nat} (before : Spells cs n)
      (value : decimalValue? c = some d) : Spells (cs ++ [c]) (10 * n + d)

theorem Spells.ne_nil (spells : Spells cs n) : cs ≠ [] := by
  cases spells <;> simp

theorem Spells.decimals (spells : Spells cs n) : ∀ c ∈ cs, isDecimal c := by
  induction spells with
  | digit value => simp [isDecimal, value]
  | more before value ih =>
    intro c mem
    obtain mem | mem := List.mem_append.mp mem
    · exact ih c mem
    · obtain rfl := List.mem_singleton.mp mem
      simp [isDecimal, value]

theorem decimalFrom_concat (acc : Nat) (cs : List Char) (c : Char) :
    decimalFrom acc (cs ++ [c]) =
      (decimalFrom acc cs).bind fun n => (decimalValue? c).map (10 * n + ·) := by
  induction cs generalizing acc with
  | nil => cases value : decimalValue? c <;> simp [decimalFrom, value]
  | cons b cs ih => cases value : decimalValue? b <;> simp [decimalFrom, value, ih]

theorem Spells.decimal? (spells : Spells cs n) : decimal? cs = some n := by
  have value : decimalFrom 0 cs = some n := by
    induction spells with
    | digit value => simp [decimalFrom, value]
    | more before value ih => simp [decimalFrom_concat, ih, value]
  cases cs with
  | nil => exact absurd rfl spells.ne_nil
  | cons c rest => exact value

/-- A numeral that is not too long is read as the number it spells. -/
theorem Spells.parseNat? (spells : Spells cs n) (short : cs.length ≤ maxDigits) :
    parseNat? cs = some n := by
  rw [parseNat?_of_not_mem (not_mem_of_decimals spells.decimals) spells.ne_nil,
    if_neg (Nat.not_lt.mpr short), spells.decimal?]

/-- Decimal digits always spell a number. -/
theorem exists_spells (decimals : ∀ c ∈ cs, isDecimal c) (some_ : cs ≠ []) : ∃ n, Spells cs n := by
  induction cs using List.reverseRecOn with
  | nil => exact absurd rfl some_
  | append_singleton cs c ih =>
    have last : isDecimal c := decimals c List.mem_concat_self
    obtain ⟨d, value⟩ := Option.isSome_iff_exists.mp last
    by_cases only : cs = []
    · subst only
      exact ⟨d, .digit value⟩
    · obtain ⟨n, before⟩ := ih (fun b mem => decimals b (List.mem_append_left _ mem)) only
      exact ⟨10 * n + d, .more before value⟩

/-- No bound of the set of digits lies within a run of ten decimal digits. -/
theorem mem_digitBounds_of_mem_decimalZeros : decimalZeros.all fun z =>
    CodeSet.mem digitBounds z && digitBounds.all fun b => b ≤ z || z + 10 ≤ b := by
  decide +kernel

/-- A decimal digit is a digit in the wider sense. -/
theorem isDigitLike_of_isDecimal {c : Char} (decimal : isDecimal c) : isDigitLike c := by
  unfold isDecimal decimalValue? at decimal
  unfold isDigitLike
  split at decimal
  case isTrue plain =>
    rw [if_pos plain]
    split at decimal
    · assumption
    · cases decimal
  case isFalse far =>
    rw [if_neg far]
    obtain ⟨z, found⟩ := Option.isSome_iff_exists.mp (Option.isSome_map.symm.trans decimal)
    have run := List.find?_some found
    simp only [Bool.and_eq_true, decide_eq_true_eq] at run
    have first := List.all_eq_true.mp mem_digitBounds_of_mem_decimalZeros z
      (List.mem_of_find?_eq_some found)
    simp only [Bool.and_eq_true, List.all_eq_true, Bool.or_eq_true, decide_eq_true_eq] at first
    rw [CodeSet.mem, CodeSet.memFrom_congr (m := z)]
    · exact first.1
    · intro b mem
      have apart := first.2 b mem
      omega

theorem Spells.digits (spells : Spells cs n) : ∀ c ∈ cs, isDigitLike c :=
  fun c mem => isDigitLike_of_isDecimal (spells.decimals c mem)

theorem decimalValue?_digitChar : ∀ d < 10, decimalValue? d.digitChar = some d := by
  decide

/-- The usual digits of a number spell it. -/
theorem spells_toString (n : Nat) : Spells (toString n).toList n := by
  rw [Nat.toString_eq_repr, Nat.toList_repr]
  induction n using Nat.strongRecOn with
  | ind n ih =>
    by_cases small : n < 10
    · rw [Nat.toDigits_of_lt_base small]
      exact .digit (decimalValue?_digitChar n small)
    · have last : n % 10 < 10 := Nat.mod_lt n (by omega)
      have spells := (ih (n / 10) (by omega)).more (decimalValue?_digitChar (n % 10) last)
      rw [Nat.div_add_mod] at spells
      rwa [Nat.toDigits_of_base_le (by omega) (by omega)]

end Proctor.Text

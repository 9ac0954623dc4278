import Mathlib.Data.List.Basic
import Proctor.Glob

/-!
# What patterns match

One equation for each kind of element: a character takes itself, and a star takes any text. So a
pattern without special characters matches itself alone, and one with a single star every text
that begins with what stands before the star and goes on, later, with what stands behind it.
-/

namespace Proctor.Glob

variable {pattern name : String} {rest : List Piece} {before after cs : List Char}

/-! ## Elements -/

theorem anySuffix_iff {p : List Char → Bool} :
    anySuffix p cs ↔ ∃ skipped tail, cs = skipped ++ tail ∧ p tail := by
  induction cs with
  | nil =>
    constructor
    · intro here
      exact ⟨[], [], rfl, here⟩
    · rintro ⟨skipped, tail, split, here⟩
      obtain ⟨rfl, rfl⟩ := List.append_eq_nil_iff.mp split.symm
      exact here
  | cons c cs ih =>
    rw [anySuffix, Bool.or_eq_true, ih]
    constructor
    · rintro (here | ⟨skipped, tail, rfl, later⟩)
      · exact ⟨[], c :: cs, rfl, here⟩
      · exact ⟨c :: skipped, tail, rfl, later⟩
    · rintro ⟨skipped, tail, split, later⟩
      cases skipped with
      | nil =>
        obtain rfl : c :: cs = tail := split
        exact .inl later
      | cons _ skipped =>
        obtain ⟨rfl, rfl⟩ := List.cons.inj split
        exact .inr ⟨skipped, tail, rfl, later⟩

theorem matchPieces_star :
    matchPieces (.star :: rest) cs ↔
      ∃ skipped tail, cs = skipped ++ tail ∧ matchPieces rest tail := by
  rw [matchPieces, anySuffix_iff]

theorem matchPieces_chars :
    matchPieces (before.map .char ++ rest) cs ↔
      ∃ tail, cs = before ++ tail ∧ matchPieces rest tail := by
  induction before generalizing cs with
  | nil => simp
  | cons b before ih =>
    cases cs with
    | nil => simp [matchPieces]
    | cons c cs =>
      simp only [List.map_cons, List.cons_append, matchPieces, Piece.holds, Bool.and_eq_true,
        beq_iff_eq, ih, List.cons.injEq]
      constructor
      · rintro ⟨rfl, tail, rfl, later⟩
        exact ⟨tail, ⟨rfl, rfl⟩, later⟩
      · rintro ⟨tail, ⟨rfl, rfl⟩, later⟩
        exact ⟨rfl, tail, rfl, later⟩

theorem matchPieces_only_chars : matchPieces (after.map .char) cs ↔ cs = after := by
  have whole : matchPieces (after.map .char ++ []) cs ↔
      ∃ tail, cs = after ++ tail ∧ matchPieces [] tail := matchPieces_chars
  simpa [matchPieces] using whole

/-! ## Patterns -/

/-- The characters that stand for themselves. -/
def isPlain (c : Char) : Bool := c != '*' && c != '?' && c != '['

theorem piecesFrom_of_plain {n : Nat} (room : cs.length ≤ n) (plain : cs.all isPlain) :
    piecesFrom n cs = cs.map .char := by
  induction cs generalizing n with
  | nil => cases n <;> rfl
  | cons c cs ih =>
    obtain ⟨here, later⟩ := by simpa using plain
    cases n with
    | zero => simp at room
    | succ n =>
      have goesOn : piecesFrom n cs = cs.map .char :=
        ih (by simpa using room) (by simpa using later)
      unfold piecesFrom
      split <;> simp_all [isPlain]

/-- A pattern without special characters matches itself alone. -/
theorem holds_of_plain (plain : pattern.toList.all isPlain) :
    holds pattern name = (pattern == name) := by
  rw [Bool.eq_iff_iff, holds, pieces, piecesFrom_of_plain (Nat.le_of_eq String.length_toList) plain,
    matchPieces_only_chars, beq_iff_eq, String.toList_inj, eq_comm]

/-- A pattern with one star matches what has its two parts at its two ends. -/
theorem holds_iff_of_star (shape : pieces pattern = before.map .char ++ .star :: after.map .char) :
    holds pattern name ↔ ∃ middle, name.toList = before ++ (middle ++ after) := by
  rw [holds, shape, matchPieces_chars]
  simp only [matchPieces_star, matchPieces_only_chars]
  constructor
  · rintro ⟨tail, whole, middle, last, rfl, rfl⟩
    exact ⟨middle, whole⟩
  · rintro ⟨middle, whole⟩
    exact ⟨_, whole, middle, _, rfl, rfl⟩

/-- Two stars match everything. -/
theorem holds_doubleStar (name : String) : holds "**" name := by
  have shape : pieces "**" = [.star, .star] := by decide
  rw [holds, shape, matchPieces_star]
  refine ⟨name.toList, [], by simp, matchPieces_star.mpr ⟨[], [], rfl, rfl⟩⟩

end Proctor.Glob

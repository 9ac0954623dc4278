import Proctor.Number.Shortest

/-!
# Fixed places

A fraction written with a fixed number of places after the point. The last digit is
the nearest one; of two at the same distance the even one.
-/

namespace Proctor.Number

/-- The quotient rounded to the nearest whole number, a half to the even one. -/
def roundDiv (numerator denominator : Nat) : Nat :=
  let whole := numerator / denominator
  let twice := 2 * (numerator % denominator)
  if twice < denominator then whole
  else if denominator < twice then whole + 1
  else whole + whole % 2

/-- A fraction with two places after the point. -/
def Ratio.twoPlaces (x : Ratio) : String :=
  let n := roundDiv (100 * x.numerator) x.denominator
  let low := toString (n % 100)
  toString (n / 100) ++ "." ++ (if n % 100 < 10 then "0" ++ low else low)

/-- Half a unit away on either side is as far as rounding goes. -/
theorem roundDiv_near (n d : Nat) (hd : 0 < d) :
    2 * n ≤ (2 * roundDiv n d + 1) * d ∧ 2 * roundDiv n d * d ≤ 2 * n + d := by
  have h : d * (n / d) + n % d = n := Nat.div_add_mod n d
  have hm : n % d < d := Nat.mod_lt n hd
  have e : d * (n / d) = n / d * d := Nat.mul_comm _ _
  have key : ∀ q r : Nat, q * d + r = n → r < d →
      (2 * r < d → 2 * n ≤ (2 * q + 1) * d ∧ 2 * q * d ≤ 2 * n + d) ∧
      (d ≤ 2 * r → 2 * n ≤ (2 * (q + 1) + 1) * d ∧ 2 * (q + 1) * d ≤ 2 * n + d) ∧
      (2 * r = d → 2 * n ≤ (2 * q + 1) * d ∧ 2 * q * d ≤ 2 * n + d) := by
    intro q r hq hr
    have a1 : (2 * q + 1) * d = 2 * (q * d) + d := by
      rw [Nat.add_mul, Nat.mul_assoc, Nat.one_mul]
    have a2 : 2 * q * d = 2 * (q * d) := Nat.mul_assoc _ _ _
    have a3 : (2 * (q + 1) + 1) * d = 2 * (q * d) + 3 * d := by
      rw [Nat.add_mul, Nat.mul_assoc, Nat.add_mul, Nat.one_mul]; omega
    have a4 : 2 * (q + 1) * d = 2 * (q * d) + 2 * d := by
      rw [Nat.mul_assoc, Nat.add_mul, Nat.one_mul]; omega
    refine ⟨fun _ => ?_, fun _ => ?_, fun _ => ?_⟩ <;> constructor <;> omega
  obtain ⟨k1, k2, k3⟩ := key (n / d) (n % d) (by omega) hm
  unfold roundDiv
  simp only
  split
  · rename_i h1; exact k1 h1
  · split
    · rename_i h1 h2; exact k2 (by omega)
    · rename_i h1 h2
      have hr : 2 * (n % d) = d := by omega
      rcases Nat.mod_two_eq_zero_or_one (n / d) with h0 | h0
      · rw [h0]; exact k3 hr
      · rw [h0]; exact k2 (by omega)

end Proctor.Number

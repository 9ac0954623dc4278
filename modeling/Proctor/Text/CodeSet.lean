/-!
# Sets of code points

A set of code points is kept as the ascending list of the points where
membership flips: the first is the first member, the second the first non-member
after it, and so on. Whether a code point belongs is then the parity of the
number of flips at or below it.
-/

namespace Proctor.Text.CodeSet

/-- Membership at `n`, given membership `inside` before the first of the flips. -/
def memFrom (inside : Bool) : List Nat → Nat → Bool
  | [], _ => inside
  | b :: rest, n => if n < b then inside else memFrom (!inside) rest n

/-- Is the code point in the set with these flips? -/
def mem (bounds : List Nat) (n : Nat) : Bool :=
  memFrom false bounds n

@[simp] theorem mem_nil (n : Nat) : mem [] n = false := rfl

/-- Two points with no flip between them are both members or both none. -/
theorem memFrom_congr {inside : Bool} {bounds : List Nat} {n m : Nat}
    (same : ∀ b ∈ bounds, n < b ↔ m < b) : memFrom inside bounds n = memFrom inside bounds m := by
  induction bounds generalizing inside with
  | nil => rfl
  | cons b rest ih =>
    obtain ⟨here, later⟩ := List.forall_mem_cons.mp same
    simp only [memFrom, here, ih later]

end Proctor.Text.CodeSet

import Mathlib.Data.List.TakeWhile

/-!
# What follows the last separator

The end of a name and the number of a line stand behind the last separator of their kind, so
they are read from the end of a text. In a text that holds the separator there is one last one.
-/

namespace Proctor.Text

variable {α : Type} {x : α} {xs a b e e' : List α}

theorem exists_last (mem : x ∈ xs) : ∃ b e, xs = b ++ x :: e ∧ x ∉ e := by
  obtain ⟨e, b, turned, clean⟩ := List.eq_append_cons_of_mem (List.mem_reverse.mpr mem)
  refine ⟨b.reverse, e.reverse, ?_, mt List.mem_reverse.mp clean⟩
  rw [← List.reverse_inj, turned]
  simp

variable [BEq α] [LawfulBEq α]

theorem takeWhile_reverse_append (clean : x ∉ e) :
    (b ++ x :: e).reverse.takeWhile (· != x) = e.reverse := by
  have turned : (b ++ x :: e).reverse = e.reverse ++ x :: b.reverse := by simp
  have kept : ∀ y ∈ e.reverse, (y != x) = true := by
    intro y mem
    rw [bne_iff_ne]
    rintro rfl
    exact clean (List.mem_reverse.mp mem)
  rw [turned, List.takeWhile_append_of_pos kept, List.takeWhile_cons_of_neg (by simp),
    List.append_nil]

theorem takeWhile_reverse_of_not_mem (clean : x ∉ xs) :
    xs.reverse.takeWhile (· != x) = xs.reverse := by
  rw [List.takeWhile_eq_self_iff]
  intro y mem
  rw [bne_iff_ne]
  rintro rfl
  exact clean (List.mem_reverse.mp mem)

/-- A text is cut at its last separator in one way. -/
theorem append_cons_inj_of_last (clean : x ∉ e) (clean' : x ∉ e') :
    a ++ x :: e = b ++ x :: e' ↔ a = b ∧ e = e' := by
  constructor
  · intro same
    have ends : e.reverse = e'.reverse := by
      rw [← takeWhile_reverse_append clean, same, takeWhile_reverse_append clean']
    obtain rfl := List.reverse_inj.mp ends
    exact ⟨List.append_cancel_right same, rfl⟩
  · rintro ⟨rfl, rfl⟩
    rfl

end Proctor.Text

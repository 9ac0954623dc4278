import Proctor.Layout.Markup

/-!
# Texts that are refused as markup

However markup is read, a text whose first bracket is that of a tag that closes is refused, and
one without a slash right behind a bracket is not.
-/

namespace Proctor.Layout

variable {s : String} {e : Error}

/-- The text cannot be read as markup. -/
def IsRefused [Markup] (s : String) : Prop := Markup.read? s.toList = none

/-- The first bracket of the text is that of a tag that closes. -/
def ClosesFirst (s : String) : Prop :=
  ∃ before name after, s.toList = before ++ '[' :: '/' :: (name ++ ']' :: after) ∧
    '[' ∉ before ∧ before.getLast? ≠ some '\\' ∧ '[' ∉ name ∧ ']' ∉ name

theorem markupText_eq_error_iff [EmojiTable] [Markup] :
    markupText s = .error e ↔ e = .noMarkup ∧ IsRefused s := by
  unfold markupText IsRefused
  cases Markup.read? s.toList with
  | none => simp [eq_comm]
  | some pieces => simp

theorem ClosesFirst.isRefused [Markup] (closes : ClosesFirst s) : IsRefused s := by
  obtain ⟨before, name, after, same, unopened, unescaped, unopened', unclosed⟩ := closes
  rw [IsRefused, same]
  exact Markup.refuses before name after unopened unescaped unopened' unclosed

theorem IsRefused.infix [Markup] (refused : IsRefused s) : ['[', '/'] <:+: s.toList := by
  refine Decidable.byContradiction fun closeless => ?_
  have accepted := Markup.accepts s.toList closeless
  rw [refused] at accepted
  cases accepted

end Proctor.Layout

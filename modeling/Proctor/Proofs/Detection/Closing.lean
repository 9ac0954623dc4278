import Proctor.Proofs.Detection.Nameless

/-!
# Lone braces

One buffer, read with and without an eye for lone braces. A brace closes a scope for the one
reader and means nothing to the other, so from then on their stacks differ, and the next opener
takes a different number of scopes off each. Still the stack of the first is always part of the
stack of the second: both are ordered by indentation, so an opener leaves of each of them exactly
the scopes that are indented less than itself.

The buffer may be indented in any way, and its braces need not match.
-/

namespace Proctor.Detection

/-- Each open scope is indented more than the one around it. -/
def Falling (stack : List Scope) : Prop := stack.Pairwise (·.indent > ·.indent)

/-- The openers are lines above the given one, in their order and each indented more than the one
before it, and the stack holds their scopes, the last of them innermost. -/
structure Stacked (patterns : List Pattern) (lines : List String) (line : Int)
    (openers : List Opener) (stack : List Scope) : Prop where
  scopes : openers.map (·.scope) = stack.reverse
  above : openers.Sublist (openersAbove patterns lines line)
  later : openers.Pairwise (·.line < ·.line)
  deeper : openers.Pairwise (·.scope.indent < ·.scope.indent)

variable {patterns : List Pattern} {stack fewer more : List Scope}

/-! ## One more line -/

theorem openScope_eq_filter (falling : Falling stack) (s : Scope) :
    openScope s stack = s :: stack.filter fun t => t.indent < s.indent := by
  rw [openScope, dropWhile_eq_filter falling]

theorem Falling.openScope (falling : Falling stack) (s : Scope) :
    Falling (openScope s stack) := by
  rw [openScope_eq_filter falling]
  refine .cons ?_ (falling.filter _)
  intro t stays
  simpa using (List.mem_filter.mp stays).2

theorem Falling.afterLine (falling : Falling stack) (braces : Bool) (text : String) :
    Falling (afterLine braces patterns stack text) := by
  rw [Detection.afterLine]
  cases openedBy patterns text with
  | some s => exact falling.openScope s
  | none =>
    cases braces with
    | true => exact falling.sublist (closeScope_sublist text stack)
    | false => exact falling

/-- One more line keeps the stack of the reader who minds the braces within that of the reader
who does not. -/
theorem afterLine_sublist (part : fewer.Sublist more) (falling : Falling more) (text : String) :
    (afterLine true patterns fewer text).Sublist (afterLine false patterns more text) := by
  rw [afterLine, afterLine]
  cases openedBy patterns text with
  | some s =>
    show (openScope s fewer).Sublist (openScope s more)
    rw [openScope_eq_filter falling, openScope_eq_filter (falling.sublist part)]
    exact (part.filter _).cons_cons s
  | none =>
    show (closeScope text fewer).Sublist more
    exact (closeScope_sublist text fewer).trans part

theorem closeScope_of_no_brace {text : String} (noBrace : isLoneBrace text = false)
    (stack : List Scope) : closeScope text stack = stack := by
  cases stack with
  | nil => rfl
  | cons s outer => simp [closeScope, noBrace]

theorem afterLine_of_no_brace {text : String} (noBrace : isLoneBrace text = false)
    (stack : List Scope) :
    afterLine true patterns stack text = afterLine false patterns stack text := by
  rw [afterLine, afterLine, closeScope_of_no_brace noBrace]
  rfl

/-! ## Any number of lines -/

section

variable (patterns) (lines : List String)

theorem falling_openAfter (braces : Bool) : Falling (openAfter braces patterns lines) := by
  induction lines using List.reverseRecOn with
  | nil => exact .nil
  | append_singleton above text ih =>
    rw [openAfter_append_singleton]
    exact ih.afterLine braces text

theorem openAfter_sublist :
    (openAfter true patterns lines).Sublist (openAfter false patterns lines) := by
  induction lines using List.reverseRecOn with
  | nil => exact .slnil
  | append_singleton above text ih =>
    rw [openAfter_append_singleton, openAfter_append_singleton]
    exact afterLine_sublist ih (falling_openAfter patterns above false) text

theorem openAfter_of_no_brace (noBrace : ∀ text ∈ lines, isLoneBrace text = false) :
    openAfter true patterns lines = openAfter false patterns lines := by
  induction lines using List.reverseRecOn with
  | nil => rfl
  | append_singleton above text ih =>
    obtain ⟨earlier, here⟩ := List.forall_mem_append.mp noBrace
    rw [openAfter_append_singleton, openAfter_append_singleton, ih earlier]
    exact afterLine_of_no_brace (here text List.mem_cons_self) _

end

/-! ## The lines that opened them -/

/-- Openers whose scopes are open are stacked. -/
theorem stacked_of_sublist {lines : List String} {line : Int} {openers : List Opener}
    (falling : Falling stack) (above : openers.Sublist (openersAbove patterns lines line))
    (scopes : openers.map (·.scope) = stack.reverse) :
    Stacked patterns lines line openers stack where
  scopes := scopes
  above := above
  later := (pairwise_openersAbove patterns lines line).sublist above
  deeper := by
    have rising : (openers.map (·.scope)).Pairwise (·.indent < ·.indent) := by
      rw [scopes]
      exact List.pairwise_reverse.mpr falling
    rwa [List.pairwise_map] at rising

/-- Whether or not lone braces close scopes, what is open above a line has been opened by lines
above it, in their order, each scope indented more than the one around it. With the braces it is
part of what is open without them, line for line, and all of it if no line above is a lone
brace. -/
theorem braces_only_close (patterns : List Pattern) (lines : List String) (line : Int) :
    let stack (braces : Bool) := openAfter braces patterns (linesBefore lines line)
    ∃ closing plain : List Opener,
      Stacked patterns lines line closing (stack true) ∧
        Stacked patterns lines line plain (stack false) ∧
        closing.Sublist plain ∧
        ((∀ text ∈ linesBefore lines line, isLoneBrace text = false) → closing = plain) := by
  intro stack
  have falling (braces : Bool) : Falling (stack braces) := falling_openAfter patterns _ braces
  have opened : (stack false).reverse.Sublist
      ((openersAbove patterns lines line).map (·.scope)) := by
    rw [openersAbove_eq, map_scope_openersFrom]
    exact openAfter_reverse_sublist false patterns _
  obtain ⟨plain, above, plainScopes⟩ := List.sublist_map_iff.mp opened
  have part : (stack true).reverse.Sublist (plain.map (·.scope)) := by
    rw [← plainScopes]
    exact (openAfter_sublist patterns _).reverse
  obtain ⟨closing, within, closingScopes⟩ := List.sublist_map_iff.mp part
  refine ⟨closing, plain,
    stacked_of_sublist (falling true) (within.trans above) closingScopes.symm,
    stacked_of_sublist (falling false) above plainScopes.symm, within, ?_⟩
  intro noBrace
  have same : stack true = stack false := openAfter_of_no_brace patterns _ noBrace
  apply within.eq_of_length
  rw [← List.length_map (·.scope), ← closingScopes, same, plainScopes, List.length_map]

/-! Modules that are indented badly, one of them closed early. -/

def unevenPatterns : List Pattern := (Pattern.compile "mod ([a-z]+)").toOption.toList

def unevenLines : List String :=
  ["mod a", "    mod b", "  \x7d", "      mod c", "   mod d"]

/-- Above the brace, one stack of openers holds either way. The brace takes `b` away, and `d` then
takes off one scope with the braces and two without them. -/
theorem braces_only_close_uneven :
    let stack (braces : Bool) (line : Int) :=
      openAfter braces unevenPatterns (linesBefore unevenLines line)
    (∃ openers, Stacked unevenPatterns unevenLines 3 openers (stack true 3) ∧
        Stacked unevenPatterns unevenLines 3 openers (stack false 3)) ∧
      (∃ closing plain, Stacked unevenPatterns unevenLines 5 closing [⟨"c", 6⟩, ⟨"a", 0⟩] ∧
        Stacked unevenPatterns unevenLines 5 plain [⟨"c", 6⟩, ⟨"b", 4⟩, ⟨"a", 0⟩] ∧
        closing.Sublist plain) ∧
      stack true 6 = [⟨"d", 3⟩, ⟨"a", 0⟩] ∧ stack false 6 = [⟨"d", 3⟩, ⟨"a", 0⟩] := by
  intro stack
  have five : stack true 5 = [⟨"c", 6⟩, ⟨"a", 0⟩] ∧
      stack false 5 = [⟨"c", 6⟩, ⟨"b", 4⟩, ⟨"a", 0⟩] := by
    decide +kernel
  refine ⟨?_, ?_, by decide +kernel⟩
  · obtain ⟨closing, plain, ofClosing, ofPlain, -, same⟩ :=
      braces_only_close unevenPatterns unevenLines 3
    obtain rfl : closing = plain := same (by decide +kernel)
    exact ⟨closing, ofClosing, ofPlain⟩
  · obtain ⟨closing, plain, ofClosing, ofPlain, part, -⟩ :=
      braces_only_close unevenPatterns unevenLines 5
    exact ⟨closing, plain, five.1 ▸ ofClosing, five.2 ▸ ofPlain, part⟩

end Proctor.Detection

import Mathlib.Data.List.TakeWhile
import Proctor.Pattern.Match

/-!
# Matching without a choice

A run that takes as many characters as it can may give some of them back. It never does when
what follows it cannot begin inside the run, or follows whatever was taken; then the run ends
where the characters of its class end. With words that are spelled out, such runs make up
expressions that match in at most one way, and the matcher is a scanner of the text after a
place.
-/

namespace Proctor.Pattern

namespace Place

/-- `n` characters further. -/
def forward (n : Nat) (p : Place) : Place :=
  ⟨(p.after.take n).reverse ++ p.before, p.index + n, p.after.drop n⟩

@[simp] theorem forward_after (n : Nat) (p : Place) : (p.forward n).after = p.after.drop n := rfl

@[simp] theorem forward_index (n : Nat) (p : Place) : (p.forward n).index = p.index + n := rfl

theorem forward_forward (n m : Nat) (p : Place) :
    (p.forward n).forward m = p.forward (n + m) := by
  simp [forward, List.take_add, Nat.add_assoc]

theorem next_eq_forward {p : Place} {c : Char} {rest : List Char} (after : p.after = c :: rest) :
    p.next = p.forward 1 := by
  simp [next, forward, after]

theorem prev_forward {p : Place} {n : Nat} (bound : n < p.after.length) :
    (p.forward (n + 1)).prev = p.forward n := by
  have taken : (p.after.take (n + 1)).reverse = p.after[n] :: (p.after.take n).reverse := by
    rw [List.take_succ_eq_append_getElem bound, List.reverse_append]
    rfl
  simp [prev, forward, taken, ← List.drop_eq_getElem_cons bound]

theorem nextIn_iff {s : CharClass} {p : Place} :
    p.nextIn s ↔ ∃ c rest, p.after = c :: rest ∧ s.holds c := by
  unfold nextIn
  cases p.after <;> simp

theorem advance_eq (s : CharClass) (n : Nat) (before : List Char) (index : Nat)
    (after : List Char) :
    advance s none n before index after =
      (forward (after.takeWhile s.holds).length ⟨before, index, after⟩,
        n + (after.takeWhile s.holds).length) := by
  induction after generalizing n before index with
  | nil => rfl
  | cons c rest ih =>
    rw [advance]
    cases held : s.holds c with
    | false => simp [held, forward]
    | true => simp [held, ih, forward, Nat.add_comm 1, Nat.add_assoc]

/-- How far the characters of a class reach. -/
def reach (s : CharClass) (p : Place) : Nat := (p.after.takeWhile s.holds).length

theorem reach_le (s : CharClass) (p : Place) : p.reach s ≤ p.after.length :=
  (p.after.takeWhile_prefix s.holds).length_le

theorem nextIn_forward {s : CharClass} {p : Place} {n : Nat} (inside : n < p.reach s) :
    (p.forward n).nextIn s := by
  have bound : n < p.after.length := Nat.lt_of_lt_of_le inside (p.reach_le s)
  have held : s.holds p.after[n] := by
    have mem : (p.after.takeWhile s.holds)[n] ∈ p.after.takeWhile s.holds := List.getElem_mem _
    have same := (p.after.takeWhile_prefix s.holds).getElem inside
    exact same ▸ List.mem_takeWhile_imp mem
  exact nextIn_iff.mpr ⟨_, _, List.drop_eq_getElem_cons bound, held⟩

end Place

/-! ## Runs -/

/-- What fails at every earlier place keeps what the run has taken. -/
theorem giveBack_forward {rest : Rest} {p : Progress} {n top : Nat} (enough : n ≤ top)
    (bound : top ≤ p.place.after.length)
    (stands : rest { p with place := p.place.forward top } = none →
      ∀ k < top, rest { p with place := p.place.forward k } = none) :
    giveBack rest n { p with place := p.place.forward top } =
      rest { p with place := p.place.forward top } := by
  induction n generalizing top with
  | zero => rfl
  | succ n ih =>
    obtain ⟨top, rfl⟩ : ∃ k, top = k + 1 := ⟨top - 1, by omega⟩
    rw [giveBack]
    cases here : rest { p with place := p.place.forward (top + 1) } with
    | some r => rfl
    | none =>
      have below := stands here
      have back : giveBack rest n { p with place := p.place.forward top } = _ :=
        ih (by omega) (by omega) fun _ k inside => below k (by omega)
      simp only [Place.prev_forward (Nat.lt_of_succ_le bound)]
      exact back.trans (below top (by omega))

/-- A greedy run ends where its class ends, unless something could follow earlier only. -/
theorem tryAt_run {s : CharClass} {min : Nat} {p : Progress} {rest : Rest}
    (stands : rest { p with place := p.place.forward (p.place.reach s) } = none →
      ∀ k < p.place.reach s, rest { p with place := p.place.forward k } = none) :
    (Syntax.run .greedy min none s).tryAt p rest =
      if min ≤ p.place.reach s then rest { p with place := p.place.forward (p.place.reach s) }
      else none := by
  rw [Syntax.tryAt, runChars]
  simp only [Place.advance_eq, Nat.zero_add]
  change (if p.place.reach s < min then none
    else giveBack rest (p.place.reach s - min)
      { p with place := p.place.forward (p.place.reach s) }) = _
  rw [giveBack_forward (Nat.sub_le _ _) (p.place.reach_le s) stands]
  split <;> split <;> first | rfl | omega

/-- What comes next cannot begin with a character of the class. -/
def Rest.Shuns (s : CharClass) (rest : Rest) : Prop :=
  ∀ p : Progress, p.place.nextIn s → rest p = none

theorem tryAt_run_of_shuns {s : CharClass} {min : Nat} {p : Progress} {rest : Rest}
    (shuns : Rest.Shuns s rest) :
    (Syntax.run .greedy min none s).tryAt p rest =
      if min ≤ p.place.reach s then rest { p with place := p.place.forward (p.place.reach s) }
      else none :=
  tryAt_run fun _ _ inside => shuns _ (Place.nextIn_forward inside)

/-- What follows anything leaves to a run all that it can take. -/
theorem tryAt_run_of_total {s : CharClass} {min : Nat} {p : Progress} {rest : Rest}
    (total : ∀ q, rest q ≠ none) :
    (Syntax.run .greedy min none s).tryAt p rest =
      if min ≤ p.place.reach s then rest { p with place := p.place.forward (p.place.reach s) }
      else none :=
  tryAt_run fun failed => absurd failed (total _)

/-! ## Words -/

/-- The class of one character. -/
def CharClass.only (c : Char) : CharClass := ⟨false, [.char c], false, false⟩

/-- The class of blanks. -/
def CharClass.blank : CharClass := ⟨false, [.kind .space true], false, false⟩

/-- The class of word characters. -/
def CharClass.word : CharClass := ⟨false, [.kind .word true], false, false⟩

@[simp] theorem CharClass.only_holds (c d : Char) : (CharClass.only c).holds d = (c == d) := by
  simp [only, holds, Member.holds, sameChar]

@[simp] theorem CharClass.blank_holds : CharClass.blank.holds = Text.isBlank := by
  funext c
  simp [blank, holds, Member.holds, Kind.holds]

@[simp] theorem CharClass.word_holds : CharClass.word.holds = Text.isWordChar := by
  funext c
  simp [word, holds, Member.holds, Kind.holds]

/-- A word that is spelled out, and something after it. -/
def Syntax.spell (word : List Char) (e : Syntax) : Syntax :=
  word.foldr (fun c e => .seq (.one (.only c)) e) e

theorem tryAt_spell {word : List Char} {e : Syntax} {p : Progress} {rest : Rest} :
    (Syntax.spell word e).tryAt p rest =
      if word.isPrefixOf p.place.after then
        e.tryAt { p with place := p.place.forward word.length } rest
      else none := by
  induction word generalizing p with
  | nil => rfl
  | cons c word ih =>
    change (if p.place.nextIn (.only c) then
      (Syntax.spell word e).tryAt { p with place := p.place.next } rest else none) = _
    cases after : p.place.after with
    | nil => simp [Place.nextIn, after]
    | cons d cs =>
      have next := Place.next_eq_forward after
      simp only [Place.nextIn, after, CharClass.only_holds, ih, next, Place.forward_after,
        Place.forward_forward, List.drop_succ_cons, List.drop_zero, List.isPrefixOf,
        List.length_cons, Nat.add_comm 1, Bool.and_eq_true, ite_and]

/-! ## Searches -/

theorem searchFrom?_textStart {e : Syntax} {before : List Char} (inside : before ≠ [])
    (index : Nat) (cs : List Char) :
    (Syntax.seq (.anchor .textStart) e).searchFrom? before index cs = none := by
  have missed (after : List Char) :
      (Syntax.seq (.anchor .textStart) e).matchAt? ⟨before, index, after⟩ = none := by
    simp [Syntax.matchAt?, Syntax.tryAt, Place.isAt, inside]
  induction cs generalizing before index with
  | nil => exact missed []
  | cons c rest ih =>
    rw [Syntax.searchFrom?, missed]
    refine ih (List.cons_ne_nil c before) (index + 1) fun after => ?_
    simp [Syntax.matchAt?, Syntax.tryAt, Place.isAt]

/-- An expression that asks for the beginning of the text is found there or nowhere. -/
theorem search?_textStart (e : Syntax) (cs : List Char) :
    (Syntax.seq (.anchor .textStart) e).search? cs =
      (e.tryAt ⟨.start cs, []⟩ some).map fun p => ⟨0, p.kept⟩ := by
  have first : (Syntax.seq (.anchor .textStart) e).matchAt? (.start cs) =
      (e.tryAt ⟨.start cs, []⟩ some).map fun p => ⟨0, p.kept⟩ := rfl
  rw [← first, Syntax.search?]
  cases cs with
  | nil => rfl
  | cons c rest =>
    rw [Syntax.searchFrom?, searchFrom?_textStart (List.cons_ne_nil c [])]
    generalize here : (Syntax.seq (.anchor .textStart) e).matchAt? (.start (c :: rest)) = found
    change (Syntax.seq (.anchor .textStart) e).matchAt? ⟨[], 0, c :: rest⟩ = found at here
    rw [here]
    cases found <;> rfl

end Proctor.Pattern

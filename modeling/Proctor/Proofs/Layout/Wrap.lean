import Mathlib.Algebra.Order.BigOperators.Group.List
import Mathlib.Algebra.Order.Ring.Nat
import Proctor.Layout.Block

/-!
# What wrapping does to a line

A line whose characters take one cell each, and which is not longer than the width, is printed
as it is; in a box it is filled up with blanks and stands between two bars. Any other line may
be broken and cut, but nothing is put into it except blanks.
-/

namespace Proctor.Layout

variable {cs : List Char} {width : Nat} {x : Char}

/-- Does each character take one cell? None of them is a control character then. -/
def IsNarrow (cs : List Char) : Prop := ∀ c ∈ cs, Text.charCells c = 1

instance : Decidable (IsNarrow cs) := List.decidableBAll _ cs

/-! ## Cells -/

theorem cells_eq_sum (cs : List Char) : Text.cells cs = (cs.map Text.charCells).sum := by
  rw [Text.cells, List.sum_eq_foldl, List.foldl_map]

theorem cells_le_of_sublist {part : List Char} (sub : part.Sublist cs) :
    Text.cells part ≤ Text.cells cs := by
  rw [cells_eq_sum, cells_eq_sum]
  exact (sub.map _).sum_le_sum fun _ _ => Nat.zero_le _

theorem cells_append (a b : List Char) : Text.cells (a ++ b) = Text.cells a + Text.cells b := by
  simp [cells_eq_sum]

theorem bareCells_le (word : List Char) : bareCells word ≤ Text.cells word := by
  refine cells_le_of_sublist ?_
  rw [Text.stripEndWhile, ← List.reverse_sublist, List.reverse_reverse]
  exact List.dropWhile_sublist _

namespace IsNarrow

theorem cells_eq (narrow : IsNarrow cs) : Text.cells cs = cs.length := by
  rw [cells_eq_sum, List.map_congr_left narrow]
  simp

theorem toNat_ge (narrow : IsNarrow cs) : ∀ c ∈ cs, 32 ≤ c.toNat := by
  intro c mem
  by_contra low
  have none_ : Text.charCells c = 0 := by
    rw [Text.charCells, if_pos (by omega), if_pos (by omega)]
  cases (narrow c mem).symm.trans none_

theorem not_mem {c : Char} (narrow : IsNarrow cs) (control : c.toNat < 32) : c ∉ cs :=
  fun mem => absurd (narrow.toNat_ge c mem) (Nat.not_le.mpr control)

theorem printed_eq {s : String} (narrow : IsNarrow s.toList) : printed s = s.toList := by
  refine List.filter_eq_self.mpr fun c mem => ?_
  have visible := narrow.toNat_ge c mem
  simp [isSilent]
  omega

theorem expandTabs_eq (narrow : IsNarrow cs) : expandTabs cs = cs := by
  have every (column : Nat) (tabless : '\t' ∉ cs) : expandTabsFrom column cs = cs := by
    clear narrow
    induction cs generalizing column with
    | nil => rfl
    | cons c rest ih =>
      obtain ⟨other, tabless⟩ := not_or.mp (mt List.mem_cons.mpr tabless)
      rw [expandTabsFrom, if_neg (by simpa using Ne.symm other), ih _ tabless]
  exact every 0 (narrow.not_mem (by decide))

end IsNarrow

/-! ## Lines that fit -/

theorem flatten_chunksFrom_isPrefix (n : Nat) (cs : List Char) :
    (chunksFrom n cs).flatten <+: cs := by
  induction n generalizing cs with
  | zero => exact List.nil_prefix
  | succ n ih =>
    have cut (p : Char → Bool) (cs : List Char) :
        cs.takeWhile p ++ cs.drop (cs.takeWhile p).length = cs :=
      List.prefix_iff_eq_append.mp (List.takeWhile_prefix p)
    rw [chunksFrom]
    split
    · exact List.nil_prefix
    · -- blanks, a word, blanks, and what the next words are taken from
      conv_rhs => rw [← cut Text.isBlank cs, ← cut (!Text.isBlank ·) (cs.drop _),
        ← cut Text.isBlank ((cs.drop _).drop _)]
      rw [List.flatten_cons, List.append_assoc, List.append_assoc]
      exact (List.prefix_append_right_inj _).mpr (
        (List.prefix_append_right_inj _).mpr ((List.prefix_append_right_inj _).mpr (ih _)))

/-- Words that fit into the line together are not broken. -/
theorem breaksFrom_eq_nil {overflow : Overflow} {used place : Nat} {words : List (List Char)}
    (fits : used + Text.cells words.flatten ≤ width) :
    breaksFrom overflow width used place words = [] := by
  induction words generalizing used place with
  | nil => rfl
  | cons word rest ih =>
    rw [List.flatten_cons, cells_append] at fits
    have bare := bareCells_le word
    rw [breaksFrom.eq_def]
    dsimp only
    rw [if_pos (by omega)]
    exact ih (by omega)

theorem trimEnd_eq_self (short : cs.length ≤ width) : trimEnd width cs = cs :=
  if_neg (Nat.not_lt.mpr short)

theorem crop_eq_self (fits : Text.cells cs ≤ width) : crop width cs = cs :=
  if_neg (Nat.not_lt.mpr fits)

theorem wrap_eq_self (narrow : IsNarrow cs) (short : cs.length ≤ width) :
    wrap .fold width cs = [cs] := by
  have fits : Text.cells cs ≤ width := narrow.cells_eq.trans_le short
  have unbroken : '\n' ∉ cs := narrow.not_mem (by decide)
  have whole : breaksFrom .fold width 0 0 (chunks cs) = [] := by
    refine breaksFrom_eq_nil ?_
    have part := cells_le_of_sublist (flatten_chunksFrom_isPrefix (cs.length + 1) cs).sublist
    rw [Nat.zero_add]
    exact Nat.le_trans part fits
  rw [wrap, Text.splitOn_eq, List.splitOn_eq_singleton unbroken, List.flatMap_singleton, wrapLine,
    narrow.expandTabs_eq, whole, cutAt, List.map_singleton, trimEnd_eq_self short]
  exact congrArg (fun line => [line]) (crop_eq_self fits)

/-! ## Lines in a box -/

/-- The width of a box inside its frame. -/
def boxInside (page wished : Nat) (title : List Char) : Nat :=
  min (page - 2) (max (min page wished - 2) (Text.cells (paddedTitle title) + 2))

/-- The room in a box for the lines of its body. -/
def boxRoom (page wished : Nat) (title : List Char) : Nat := boxInside page wished title - 2

/-- A line as it stands in a box. -/
def boxLine (room : Nat) (line : List Char) : Line :=
  '│' :: ' ' :: (line ++ blanks (room - line.length) ++ [' ', '│'])

theorem fit_eq_append (positive : width ≠ 0) (fits : Text.cells cs ≤ width) :
    fit width cs = cs ++ blanks (width - Text.cells cs) := by
  rw [fit, if_neg (by simpa using positive)]
  dsimp only
  split
  · rename_i same
    rw [beq_iff_eq.mp same, Nat.sub_self]
    exact (List.append_nil cs).symm
  · rename_i other
    rw [if_pos (Nat.lt_of_le_of_ne fits (by simpa using other))]

theorem isNarrow_blanks (n : Nat) : IsNarrow (blanks n) := by
  intro c mem
  obtain rfl := List.eq_of_mem_replicate mem
  rfl

theorem fit_eq_boxLine {inner : Nat} (narrow : IsNarrow cs) (nonempty : cs ≠ [])
    (short : cs.length ≤ inner - 2) :
    '│' :: (fit inner (' ' :: (fit (inner - 2) cs ++ [' '])) ++ ['│']) =
      boxLine (inner - 2) cs := by
  have positive := List.length_pos_iff.mpr nonempty
  have filled : fit (inner - 2) cs = cs ++ blanks (inner - 2 - cs.length) := by
    rw [fit_eq_append (by omega) (narrow.cells_eq.trans_le short), narrow.cells_eq]
  have line : IsNarrow (' ' :: (cs ++ blanks (inner - 2 - cs.length) ++ [' '])) := by
    have blank : IsNarrow [' '] := isNarrow_blanks 1
    exact List.forall_mem_append.mpr ⟨blank, List.forall_mem_append.mpr
      ⟨List.forall_mem_append.mpr ⟨narrow, isNarrow_blanks _⟩, blank⟩⟩
  have whole : Text.cells (' ' :: (cs ++ blanks (inner - 2 - cs.length) ++ [' '])) = inner := by
    rw [line.cells_eq]
    simp only [List.length_cons, List.length_append, blanks, List.length_replicate,
      List.length_nil]
    omega
  rw [filled, fit_eq_append (by omega) whole.le, whole, Nat.sub_self]
  simp [boxLine, blanks]

/-- Lines at the beginning of a body that fit into the box stand in it one after the other. -/
theorem boxed_infix_panel {page wished : Nat} {title subtitle : List Char}
    {part body : List (List Char)} (within : part <+: body)
    (fits : ∀ line ∈ part, IsNarrow line ∧ line ≠ [] ∧ line.length ≤ boxRoom page wished title) :
    part.map (boxLine (boxRoom page wished title)) <:+:
      panel page wished title subtitle body := by
  obtain ⟨rest, rfl⟩ := within
  have unwrapped : part.flatMap (wrap .fold (boxRoom page wished title)) = part := by
    rw [List.flatMap_congr fun line mem => wrap_eq_self (fits line mem).1 (fits line mem).2.2]
    exact List.flatMap_singleton' part
  have framed : part.map (boxLine (boxRoom page wished title)) = part.map fun line =>
      '│' :: (fit (boxInside page wished title)
        (' ' :: (fit (boxRoom page wished title) line ++ [' '])) ++ ['│']) :=
    List.map_congr_left fun line mem =>
      (fit_eq_boxLine (fits line mem).1 (fits line mem).2.1 (fits line mem).2.2).symm
  change _ <:+:
    [_] ++ ((part ++ rest).flatMap (wrap .fold (boxRoom page wished title))).map _ ++ [_]
  rw [framed, List.flatMap_append, unwrapped, List.map_append, ← List.append_assoc,
    List.append_assoc]
  exact List.infix_append _ _ _

/-! ## What is added -/

theorem count_expandTabs_le (other : x ≠ ' ') (cs : List Char) :
    (expandTabs cs).count x ≤ cs.count x := by
  have every (column : Nat) : (expandTabsFrom column cs).count x ≤ cs.count x := by
    induction cs generalizing column with
    | nil => exact Nat.le_refl _
    | cons c rest ih =>
      rw [expandTabsFrom, List.count_cons]
      split
      · have blank : (blanks (8 - column % 8)).count x = 0 :=
          List.count_eq_zero.mpr fun mem => other (List.eq_of_mem_replicate mem)
        have later := ih (column + (8 - column % 8))
        dsimp only
        rw [List.count_append]
        omega
      · have later := ih (column + Text.charCells c)
        rw [List.count_cons]
        omega
  exact every 0

theorem count_cutBetween_le (other : x ≠ ' ') (n low high : Nat) (cs : List Char) :
    (cutBetween cs width n low high).count x ≤ cs.count x := by
  induction n generalizing low high with
  | zero => exact (List.take_sublist _ _).count_le x
  | succ n ih =>
    rw [cutBetween]
    split
    · rw [List.count_append, List.count_eq_zero.mpr (by simpa using other : x ∉ [' '])]
      exact ((List.dropLast_sublist _).trans (List.take_sublist _ _)).count_le x
    · split
      · exact (List.take_sublist _ _).count_le x
      · split
        · exact ih _ _
        · exact ih _ _

theorem count_fit_le (other : x ≠ ' ') (cs : List Char) : (fit width cs).count x ≤ cs.count x := by
  unfold fit
  split
  · exact Nat.zero_le _
  · dsimp only
    split
    · exact Nat.le_refl _
    · split
      · have blank (n : Nat) : (blanks n).count x = 0 :=
          List.count_eq_zero.mpr fun mem => other (List.eq_of_mem_replicate mem)
        rw [List.count_append, blank]
        exact Nat.le_refl _
      · exact count_cutBetween_le other _ _ _ _

theorem count_crop_le (other : x ≠ ' ') (cs : List Char) :
    (crop width cs).count x ≤ cs.count x := by
  unfold crop
  split
  · exact count_fit_le other cs
  · exact Nat.le_refl _

theorem count_trimEnd_le (cs : List Char) : (trimEnd width cs).count x ≤ cs.count x := by
  unfold trimEnd
  split
  · exact (List.take_sublist _ _).count_le x
  · exact Nat.le_refl _

theorem flatten_cutAt (start : Nat) (cs : List Char) (places : List Nat) :
    (cutAt start cs places).flatten = cs := by
  induction places generalizing start cs with
  | nil => simp [cutAt]
  | cons place rest ih => rw [cutAt, List.flatten_cons, ih, List.take_append_drop]

/-- What is added to no piece is not added at all. -/
theorem count_flatten_map_le {pieces : List (List Char)} {f : List Char → List Char}
    (each : ∀ piece, (f piece).count x ≤ piece.count x) :
    (pieces.map f).flatten.count x ≤ pieces.flatten.count x := by
  rw [List.count_flatten, List.count_flatten, List.map_map]
  exact List.sum_le_sum fun piece _ => each piece

theorem flatten_sublist_intercalate (sep : List Char) (pieces : List (List Char)) :
    pieces.flatten.Sublist (sep.intercalate pieces) := by
  induction pieces with
  | nil => exact List.Sublist.refl _
  | cons piece rest ih =>
    cases rest with
    | nil => simp
    | cons next rest =>
      rw [List.intercalate_cons_cons, List.flatten_cons, List.append_assoc]
      exact List.Sublist.append (List.Sublist.refl _) (ih.trans (List.sublist_append_right _ _))

theorem count_wrapLine_le (other : x ≠ ' ') (line : List Char) :
    (wrapLine .fold width line).flatten.count x ≤ line.count x := by
  rw [wrapLine]
  refine (count_flatten_map_le fun piece =>
    (count_crop_le other _).trans (count_trimEnd_le piece)).trans ?_
  rw [flatten_cutAt]
  exact count_expandTabs_le other line

/-- Wrapping adds nothing to a text but blanks. -/
theorem count_wrap_le (other : x ≠ ' ') (cs : List Char) :
    (wrap .fold width cs).flatten.count x ≤ cs.count x := by
  have lines : (wrap .fold width cs).flatten.count x ≤
      (Text.splitOn '\n' cs).flatten.count x := by
    rw [wrap, ← List.flatMap_id, List.flatMap_assoc, List.count_flatMap, List.count_flatten]
    exact List.sum_le_sum fun line _ => by
      simpa using count_wrapLine_le other line
  have whole := flatten_sublist_intercalate ['\n'] (Text.splitOn '\n' cs)
  rw [Text.splitOn_eq, List.intercalate_splitOn] at whole
  exact lines.trans (Text.splitOn_eq '\n' cs ▸ whole.count_le x)

end Proctor.Layout

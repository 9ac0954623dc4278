import Proctor.Layout.Markup.Reader
import Proctor.Proofs.Layout.Emoji
import Proctor.Proofs.Layout.Wrap
import Proctor.Proofs.Report

/-!
# Captured lines as they were

A captured line that fits is printed as a line of its own. Those of the errors are printed as
they are, and so are all of them in a box; those of the output are read for emoji codes first,
and a line with a code does not come out as it was.
-/

namespace Proctor.Report

open Layout (EmojiTable Markup HasCode IsNarrow boxLine boxRoom)

variable {mode : OutputMode} {width : Nat} {j : Job} {line : String}

/-- The room there is for a captured line. -/
def room (mode : OutputMode) (width : Nat) (j : Job) : Nat :=
  match mode with
  | .floating => boxRoom width (max (width * 4 / 5) 20)
      (Layout.printed (j.state.emoji ++ " " ++ j.test.displayName))
  | .quickfix | .terminal => width

/-- A line of characters of one cell that is neither empty nor too long. -/
structure Fits (room : Nat) (line : String) : Prop where
  narrow : IsNarrow line.toList
  nonempty : line.toList ≠ []
  short : line.toList.length ≤ room

/-! ## Lines as they are -/

theorem plain_eq (fits : Fits width line) : plain width line = [line.toList] := by
  rw [plain, fits.narrow.printed_eq]
  exact Layout.wrap_eq_self fits.narrow fits.short

theorem flatMap_plain {lines : List String} (fits : ∀ line ∈ lines, Fits width line) :
    lines.flatMap (plain width) = lines.map String.toList := by
  rw [List.flatMap_congr fun line mem => plain_eq (fits line mem), ← List.map_eq_flatMap]

theorem captured_prefix_boxed (some_ : captured j ≠ []) : captured j <+: boxed j := by
  unfold boxed
  dsimp only
  split
  · rename_i none_
    exact absurd (List.append_eq_nil_iff.mp none_).1 some_
  · exact List.prefix_append _ _

theorem captured_infix_floating (fits : ∀ line ∈ captured j, Fits (room .floating width j) line) :
    ((captured j).map fun line => boxLine (room .floating width j) line.toList) <:+:
      (floating width j).lines := by
  by_cases none_ : captured j = []
  · rw [none_]
    exact List.nil_infix
  · have printed : (captured j).map Layout.printed = (captured j).map String.toList :=
      List.map_congr_left fun line mem => (fits line mem).narrow.printed_eq
    have within := (captured_prefix_boxed none_).map Layout.printed
    rw [printed] at within
    have each : ∀ line ∈ (captured j).map String.toList, IsNarrow line ∧ line ≠ [] ∧
        line.length ≤ room .floating width j :=
      List.forall_mem_map.mpr fun line mem =>
        ⟨(fits line mem).narrow, (fits line mem).nonempty, (fits line mem).short⟩
    have shown : ((captured j).map String.toList).map (boxLine (room .floating width j)) <:+:
        (floating width j).lines := Layout.boxed_infix_panel within each
    rwa [List.map_map] at shown

/-! ## Lines read for codes -/

section Codes

variable [EmojiTable]

theorem withCodes_eq (fits : Fits width line) (codeless : ¬ HasCode line.toList) :
    withCodes width line = [line.toList] := by
  rw [withCodes, Layout.withEmoji_eq_self codeless]
  exact plain_eq fits

/-- However a line of the output is printed, it has no more colons than it has with its codes
read. -/
theorem count_withCodes_le (line : String) :
    (withCodes width line).flatten.count ':' ≤ (Layout.withEmoji line.toList).count ':' :=
  (Layout.count_wrap_le (by decide) _).trans (List.filter_sublist.count_le ':')

/-- The lines of the output are printed as they were exactly if none has a code. -/
theorem flatMap_withCodes_eq_iff {lines : List String} (fits : ∀ line ∈ lines, Fits width line) :
    lines.flatMap (withCodes width) = lines.map String.toList ↔
      ∀ line ∈ lines, ¬ HasCode line.toList := by
  constructor
  · -- a code takes colons away, which no other line brings back
    intro same line mem code
    have fewer : (lines.map fun line => (withCodes width line).flatten.count ':').sum <
        (lines.map fun line => line.toList.count ':').sum :=
      List.sum_lt_sum _ _
        (fun line _ => (count_withCodes_le line).trans (Layout.count_withEmoji_le _))
        ⟨line, mem, (count_withCodes_le line).trans_lt (Layout.count_withEmoji_lt code)⟩
    have counts := congrArg (fun printed : List Layout.Line => printed.flatten.count ':') same
    simp only [List.flatten_eq_flatMap, List.flatMap_assoc, List.flatMap_map,
      List.count_flatMap] at counts
    exact fewer.ne (by simpa only [List.flatten_eq_flatMap, Function.comp_def, id] using counts)
  · intro codeless
    rw [List.flatMap_congr fun line mem => withCodes_eq (fits line mem) (codeless line mem),
      ← List.map_eq_flatMap]

theorem transcript_eq_iff (fits : ∀ line ∈ captured j, Fits width line) :
    transcript width j = (captured j).map String.toList ↔
      ∀ line ∈ j.stdout, ¬ HasCode line.toList := by
  obtain ⟨output, errors⟩ := List.forall_mem_append.mp fits
  rw [transcript, flatMap_plain errors, captured, List.map_append, List.append_left_inj]
  exact flatMap_withCodes_eq_iff output

/-! ## Reports -/

/-- A report that does not break off shows the captured lines in their order: in a box as they
are, and outside of a box as they are if no line of the output has an emoji code, and not
otherwise. -/
theorem verbatim_iff [Markup] (complete : (ofJob mode width j).failure = none)
    (fits : ∀ line ∈ captured j, Fits (room mode width j) line) :
    (mode = .floating → ((captured j).map fun line => boxLine (room mode width j) line.toList) <:+:
      (ofJob mode width j).lines) ∧
    (mode ≠ .floating → transcript width j <:+: (ofJob mode width j).lines ∧
      (transcript width j = (captured j).map String.toList ↔
        ∀ line ∈ j.stdout, ¬ HasCode line.toList)) := by
  constructor
  · rintro rfl
    exact captured_infix_floating fits
  · intro unboxed
    have same : room mode width j = width := by
      cases mode with
      | floating => exact absurd rfl unboxed
      | quickfix => rfl
      | terminal => rfl
    rw [same] at fits
    exact ⟨transcript_of_complete complete unboxed, transcript_eq_iff fits⟩

end Codes

/-! A test that prints a place. -/

def printing (line : String) : Job where
  command := ["go"]
  test := { name := none, file := ⟨.relative, ["a_test.go"]⟩, line := 1 }
  state := .completed
  stdout := [line]
  stderr := ["exit status 1"]
  exitCode := .int 1

theorem fits_printing (line : String) (fits : Fits 80 line) :
    ∀ line' ∈ captured (printing line), Fits 80 line' := by
  have other : Fits 80 "exit status 1" := ⟨by decide, by decide, by decide⟩
  exact List.forall_mem_cons.mpr ⟨fits, List.forall_mem_singleton.mpr other⟩

/-- The number of a line is not the name of an emoji. -/
theorem verbatim_iff_twelve :
    (ofJob .terminal 80 (printing "a.go:12: x")).failure = none ∧
    (∀ line ∈ captured (printing "a.go:12: x"), Fits 80 line) ∧
    transcript 80 (printing "a.go:12: x") <:+: (ofJob .terminal 80 (printing "a.go:12: x")).lines ∧
    ¬ HasCode "a.go:12: x".toList := by
  have complete : (ofJob .terminal 80 (printing "a.go:12: x")).failure = none := by decide +kernel
  have fits := fits_printing "a.go:12: x" ⟨by decide, by decide, by decide⟩
  obtain ⟨shown, same⟩ := (verbatim_iff complete fits).2 nofun
  exact ⟨complete, fits, shown, same.mp (by decide +kernel) _ List.mem_cons_self⟩

/-- The number of a line is the name of an emoji, and the line is not shown as it was. -/
theorem not_verbatim_hundred :
    (∀ line ∈ captured (printing "a.go:100: x"), Fits 80 line) ∧
    ∀ mode ∈ [OutputMode.terminal, .quickfix],
      (ofJob mode 80 (printing "a.go:100: x")).failure = none ∧
      "a.go💯 x".toList ∈ (ofJob mode 80 (printing "a.go:100: x")).lines ∧
      "a.go:100: x".toList ∉ (ofJob mode 80 (printing "a.go:100: x")).lines :=
  ⟨fits_printing "a.go:100: x" ⟨by decide, by decide, by decide⟩, by decide +kernel⟩

end Proctor.Report

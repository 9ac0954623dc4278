import Proctor.Proofs.Layout.Markup
import Proctor.Proofs.Location
import Proctor.Report

/-!
# Reports that break off

Some of the texts of a report are read as markup, and numbers in the captured lines are read
as numbers. `Flaw` lists the jobs for which this goes wrong, and a report breaks off for these
and for no others, however markup is read. What a report that breaks off has printed is a
heading at most; any other shows all captured lines.
-/

namespace Proctor.Report

open Layout (ClosesFirst EmojiTable IsRefused Markup)
open Location (HasLongNumber)

variable {mode : OutputMode} {width : Nat} {j : Job} {e : Error} {l : Location}
  {found : List Location}

/-! ## Texts that are read -/

/-- The captured lines, of the output and of the errors. -/
def captured (j : Job) : List String := j.stdout ++ j.stderr

/-- A place to look at when the test has not passed: one that a captured line names, or, when
none does, the place of the test. -/
inductive Entry (j : Job) : Location → Prop
  | named {line : String} {l : Location} (mem : line ∈ captured j)
      (names : Location.ofLine? j.directory line = .ok (some l)) : Entry j l
  | fallback (silent : ∀ line ∈ captured j, ∀ l, Location.ofLine? j.directory line ≠ .ok (some l)) :
      Entry j (fallback j)

/-- A place in the table of places. -/
def placeText (l : Location) : String :=
  l.file ++ ":" ++ toString l.line ++ ":" ++ toString l.column

/-- The texts that a report reads as markup. -/
inductive Marked (j : Job) : OutputMode → String → Prop
  | command : Marked j .terminal ("$ " ++ " ".intercalate j.command)
  | place {l : Location} (failed : ¬ (Verdict.ofJob j).isPass) (entry : Entry j l) :
      Marked j .quickfix (placeText l)
  | message {l : Location} (failed : ¬ (Verdict.ofJob j).isPass) (entry : Entry j l) :
      Marked j .quickfix l.text

/-- A number in the captured lines is too long for a report that lists places. -/
def LongNumber (j : Job) (mode : OutputMode) : Prop :=
  mode = .quickfix ∧ ¬ (Verdict.ofJob j).isPass ∧ ∃ line ∈ captured j, HasLongNumber line

/-- What makes a report break off, and with which error. The numbers are read first. -/
inductive Flaw [Markup] (j : Job) (mode : OutputMode) : Error → Prop
  | number (long : LongNumber j mode) : Flaw j mode .noNumber
  | markup {s : String} (readable : ¬ LongNumber j mode) (marked : Marked j mode s)
      (refused : IsRefused s) : Flaw j mode .noMarkup

/-! ## Reports in parts -/

theorem failure_ofTry {x : Except Error (List Layout.Line)} :
    (ofTry x).failure = some e ↔ x = .error e := by
  cases x <;> simp [ofTry, ofLines]

theorem failure_andThen_ofLines {r : Report} {lines : List Layout.Line} :
    (r.andThen (ofLines lines)).failure = r.failure := by
  cases failed : r.failure <;> simp [andThen, failed, ofLines]

theorem failure_ofLines_andThen {r : Report} {lines : List Layout.Line} :
    ((ofLines lines).andThen r).failure = r.failure := rfl

theorem lines_andThen {a b : Report} (complete : (a.andThen b).failure = none) :
    (a.andThen b).lines = a.lines ++ b.lines := by
  cases failed : a.failure with
  | some e => simp [andThen, failed] at complete
  | none => simp [andThen, failed]

/-! ## The places to look at -/

theorem entries_eq_error_iff : entries j = .error e ↔ e = .noNumber ∧ LongNumber j .quickfix := by
  unfold entries LongNumber
  split
  · rename_i passed
    simp [passed]
  · rename_i failed
    have places : Location.ofLines j.directory (captured j) = .error e ↔
        e = .noNumber ∧ ∃ line ∈ captured j, HasLongNumber line :=
      Location.ofLines_eq_error_iff
    rw [Except.bind_eq_error]
    constructor
    · rintro (unread | ⟨found, -, chosen⟩)
      · obtain ⟨same, long⟩ := places.mp unread
        exact ⟨same, rfl, failed, long⟩
      · split at chosen <;> cases chosen
    · rintro ⟨same, -, -, long⟩
      exact .inl (places.mpr ⟨same, long⟩)

theorem mem_entries (read : entries j = .ok found) :
    l ∈ found ↔ ¬ (Verdict.ofJob j).isPass ∧ Entry j l := by
  unfold entries at read
  split at read
  · rename_i passed
    obtain rfl := Except.ok.inj read
    simp [passed]
  · rename_i failed
    obtain ⟨places, named, chosen⟩ := Except.bind_eq_ok.mp read
    have names (l : Location) : l ∈ places ↔
        ∃ line ∈ captured j, Location.ofLine? j.directory line = .ok (some l) :=
      Location.mem_ofLines named
    rw [and_iff_right failed]
    split at chosen
    · obtain rfl := Except.ok.inj chosen
      have silent : ∀ line ∈ captured j, ∀ l, Location.ofLine? j.directory line ≠ .ok (some l) :=
        fun line mem l names' => List.not_mem_nil ((names l).mpr ⟨line, mem, names'⟩)
      constructor
      · intro mem
        exact List.mem_singleton.mp mem ▸ .fallback silent
      · rintro (⟨mem, names'⟩ | -)
        · exact absurd names' (silent _ mem _)
        · exact List.mem_singleton_self _
    · rename_i some_
      obtain rfl := Except.ok.inj chosen
      rw [names]
      constructor
      · rintro ⟨line, mem, names'⟩
        exact .named mem names'
      · rintro (⟨mem, names'⟩ | silent)
        · exact ⟨_, mem, names'⟩
        · obtain ⟨k, mem⟩ := List.exists_mem_of_ne_nil places some_
          obtain ⟨line, mem', names'⟩ := (names k).mp mem
          exact absurd names' (silent line mem' k)

variable [EmojiTable] [Markup]

theorem row_eq_error_iff :
    row l = .error e ↔ e = .noMarkup ∧ (IsRefused (placeText l) ∨ IsRefused l.text) := by
  have message : Layout.markupText l.text = .error e ↔ e = .noMarkup ∧ IsRefused l.text :=
    Layout.markupText_eq_error_iff
  change (Layout.markupText (placeText l) >>= fun place =>
    Layout.markupText l.text >>= fun message => pure (place, message)) = .error e ↔ _
  cases read : Layout.markupText (placeText l) with
  | error e' =>
    obtain ⟨rfl, refused⟩ := Layout.markupText_eq_error_iff.mp read
    simp [Except.error_bind, refused, eq_comm]
  | ok text =>
    have accepted : ¬ IsRefused (placeText l) := by
      intro refused
      cases read.symm.trans (Layout.markupText_eq_error_iff.mpr ⟨rfl, refused⟩)
    simp only [accepted, false_or]
    exact Except.bind_pure_eq_error.trans message

theorem entryTable_eq_error_iff : entryTable width found = .error e ↔
    e = .noMarkup ∧ ∃ l ∈ found, IsRefused (placeText l) ∨ IsRefused l.text := by
  unfold entryTable
  split
  · rename_i none_
    simp [List.isEmpty_iff.mp none_]
  · exact Except.bind_pure_eq_error.trans (Except.mapM_eq_error_iff fun _ _ => row_eq_error_iff)

/-! ## Whole reports -/

theorem failure_terminal : (terminal width j).failure = some e ↔ Flaw j .terminal e := by
  have title : (terminal width j).failure = some e ↔
      e = .noMarkup ∧ IsRefused ("$ " ++ " ".intercalate j.command) := by
    unfold terminal
    rw [failure_andThen_ofLines, failure_ofTry, Except.map_eq_error, Layout.markupText_eq_error_iff]
  rw [title]
  constructor
  · rintro ⟨rfl, refused⟩
    exact .markup (by simp [LongNumber]) .command refused
  · rintro (⟨⟨impossible, -⟩⟩ | ⟨-, marked, refused⟩)
    · cases impossible
    · cases marked
      exact ⟨rfl, refused⟩

theorem failure_quickfix : (quickfix width j).failure = some e ↔ Flaw j .quickfix e := by
  unfold quickfix
  cases read : entries j with
  | error e' =>
    obtain ⟨rfl, long⟩ := entries_eq_error_iff.mp read
    constructor
    · intro failed
      obtain rfl := Option.some.inj failed
      exact .number long
    · rintro (_ | ⟨readable, -, -⟩)
      · rfl
      · exact absurd long readable
  | ok found =>
    have readable : ¬ LongNumber j .quickfix := by
      intro long
      cases read.symm.trans (entries_eq_error_iff.mpr ⟨rfl, long⟩)
    rw [failure_andThen_ofLines, failure_ofLines_andThen, failure_ofTry, entryTable_eq_error_iff]
    constructor
    · rintro ⟨rfl, l, mem, refused⟩
      obtain ⟨failed, entry⟩ := (mem_entries read).mp mem
      obtain refused | refused := refused
      · exact .markup readable (.place failed entry) refused
      · exact .markup readable (.message failed entry) refused
    · rintro (long | ⟨-, marked, refused⟩)
      · exact absurd long readable
      · refine ⟨rfl, ?_⟩
        cases marked with
        | place failed entry => exact ⟨_, (mem_entries read).mpr ⟨failed, entry⟩, .inl refused⟩
        | message failed entry => exact ⟨_, (mem_entries read).mpr ⟨failed, entry⟩, .inr refused⟩

/-- A report breaks off exactly for the jobs with a flaw. -/
theorem failure_ofJob : (ofJob mode width j).failure = some e ↔ Flaw j mode e := by
  cases mode with
  | quickfix => exact failure_quickfix
  | terminal => exact failure_terminal
  | floating =>
    constructor
    · intro failed
      cases failed
    · rintro (⟨⟨impossible, -⟩⟩ | ⟨-, marked, -⟩)
      · cases impossible
      · cases marked

/-- Without a slash right behind an opening bracket, and without a number that is too long,
a report does not break off. -/
theorem failure_eq_none (readable : ¬ LongNumber j mode)
    (plain : ∀ s, Marked j mode s → ¬ ['[', '/'] <:+: s.toList) :
    (ofJob mode width j).failure = none := by
  refine Option.eq_none_iff_forall_ne_some.mpr fun e failed => ?_
  cases failure_ofJob.mp failed with
  | number long => exact readable long
  | markup _ marked refused => exact plain _ marked refused.infix

/-- A report that reads a text whose first bracket is that of a tag that closes breaks off, if
it has not done so before. -/
theorem failure_of_closesFirst {s : String} (readable : ¬ LongNumber j mode)
    (marked : Marked j mode s) (closes : ClosesFirst s) :
    (ofJob mode width j).failure = some .noMarkup :=
  failure_ofJob.mpr (.markup readable marked closes.isRefused)

/-! ## What is printed -/

/-- The line above the places. -/
def heading (width : Nat) (j : Job) : List Layout.Line :=
  plain width ((Verdict.ofJob j).label ++ "  " ++ j.test.displayName)

/-- A report that breaks off has not shown a captured line. -/
theorem lines_of_failure (failed : (ofJob mode width j).failure = some e) :
    (ofJob mode width j).lines <+: heading width j := by
  cases mode with
  | floating => cases failed
  | terminal =>
    change (terminal width j).failure = some e at failed
    change (terminal width j).lines <+: _
    unfold terminal at failed ⊢
    rw [failure_andThen_ofLines, failure_ofTry] at failed
    rw [failed]
    exact List.nil_prefix
  | quickfix =>
    change (quickfix width j).failure = some e at failed
    change (quickfix width j).lines <+: _
    unfold quickfix at failed ⊢
    split
    · exact List.nil_prefix
    · rename_i found read
      simp only [read, failure_andThen_ofLines, failure_ofLines_andThen, failure_ofTry] at failed
      rw [failed]
      simp [andThen, ofTry, ofLines, heading]

/-- Any other report shows all captured lines. The report in a box cuts them its own way. -/
theorem transcript_of_complete (complete : (ofJob mode width j).failure = none)
    (unboxed : mode ≠ .floating) : transcript width j <:+: (ofJob mode width j).lines := by
  cases mode with
  | floating => exact absurd rfl unboxed
  | terminal =>
    have shown (last : Layout.Line) :
        transcript width j <:+: transcript width j ++ messageLines width j ++ [last] :=
      ((List.prefix_append _ _).trans (List.prefix_append _ _)).isInfix
    change (terminal width j).failure = none at complete
    change _ <:+: (terminal width j).lines
    unfold terminal at complete ⊢
    rw [lines_andThen complete]
    exact (shown _).trans (List.suffix_append _ _).isInfix
  | quickfix =>
    change (quickfix width j).failure = none at complete
    change _ <:+: (quickfix width j).lines
    unfold quickfix at complete ⊢
    cases read : entries j with
    | error e => simp [read] at complete
    | ok found =>
      rw [read] at complete
      rw [lines_andThen complete]
      exact (List.suffix_append _ _).isInfix

end Proctor.Report

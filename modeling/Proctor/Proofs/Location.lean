import Proctor.Location
import Proctor.Proofs.Outcome
import Proctor.Proofs.Text.Numeral

/-!
# Lines that name a place nobody can read

A line of output that names a place is read, unless one of the two numbers has more digits
than are read as a number. Nothing else can go wrong: what stands for a number begins with a
digit and consists of digits.
-/

namespace Proctor

variable {cs digits : List Char} {e : Error}

namespace Location

theorem number_eq_error_iff (decimals : ∀ c ∈ digits, Text.isDecimal c) (some_ : digits ≠ []) :
    number digits = .error e ↔ e = .noNumber ∧ Text.maxDigits < digits.length := by
  rw [← Text.parseNat?_eq_none_iff_of_decimals decimals some_, number]
  cases Text.parseNat? digits <;> simp [eq_comm]

/-- The line names a place, with a number that is too long to be read. -/
def HasLongNumber (line : String) : Prop :=
  ∃ file row column, scanFrom [] line.toList = some (file, row, column) ∧
    (Text.maxDigits < row.length ∨ Text.maxDigits < column.length)

theorem decimals_of_leadingDigits : ∀ c ∈ (leadingDigits cs).1, Text.isDecimal c :=
  List.all_eq_true.mp List.all_takeWhile

/-- What stands after a file name as its numbers consists of digits. -/
theorem decimals_of_numbers? {row column : List Char} (found : numbers? cs = some (row, column)) :
    row ≠ [] ∧ (∀ c ∈ row, Text.isDecimal c) ∧ ∀ c ∈ column, Text.isDecimal c := by
  unfold numbers? at found
  split at found
  · rename_i rest
    dsimp only at found
    split at found
    · cases found
    · rename_i digits
      have row_ : (leadingDigits rest).1 ≠ [] := by simpa using digits
      split at found
      all_goals
        obtain ⟨rfl, rfl⟩ := Prod.mk.inj (Option.some.inj found)
        refine ⟨row_, decimals_of_leadingDigits, ?_⟩
      · exact decimals_of_leadingDigits
      · exact List.forall_mem_nil _
  · cases found

theorem decimals_of_scanFrom {run file row column : List Char}
    (found : scanFrom run cs = some (file, row, column)) :
    row ≠ [] ∧ (∀ c ∈ row, Text.isDecimal c) ∧ ∀ c ∈ column, Text.isDecimal c := by
  induction cs generalizing run with
  | nil => cases found
  | cons c rest ih =>
    rw [scanFrom] at found
    split at found
    · exact ih found
    · split at found
      · split at found
        · rename_i numbered
          obtain ⟨-, rfl, rfl⟩ := by simpa using found
          exact decimals_of_numbers? numbered
        · exact ih found
      · exact ih found

theorem ofLine?_eq_error_iff {directory : Option Path} {line : String} :
    ofLine? directory line = .error e ↔ e = .noNumber ∧ HasLongNumber line := by
  unfold ofLine? HasLongNumber
  split
  · rename_i unnamed
    simp [unnamed]
  · rename_i file row column named
    obtain ⟨some_, rowDecimals, columnDecimals⟩ := decimals_of_scanFrom named
    have column_ (make : Nat → Option Location) :
        (if column.isEmpty then (pure 1 >>= fun n => pure (make n))
          else number column >>= fun n => pure (make n)) = .error e ↔
        e = .noNumber ∧ Text.maxDigits < column.length := by
      cases column with
      | nil => simp [bind, Except.bind, pure, Except.pure]
      | cons c column =>
        exact Except.bind_pure_eq_error.trans
          (number_eq_error_iff columnDecimals (List.cons_ne_nil _ _))
    cases read : number row with
    | error e' =>
      obtain ⟨rfl, long⟩ := (number_eq_error_iff rowDecimals some_).mp read
      simp [named, long, bind, Except.bind, eq_comm]
    | ok n =>
      have short : ¬ Text.maxDigits < row.length := by
        intro long
        have unread := (number_eq_error_iff (e := .noNumber) rowDecimals some_).mpr ⟨rfl, long⟩
        cases read.symm.trans unread
      refine (column_ _).trans ?_
      simp [named, short]

theorem ofLines_eq_error_iff {directory : Option Path} {lines : List String} :
    ofLines directory lines = .error e ↔
      e = .noNumber ∧ ∃ line ∈ lines, HasLongNumber line :=
  Except.bind_pure_eq_error.trans (Except.mapM_eq_error_iff fun _ _ => ofLine?_eq_error_iff)

/-- The places that are found are those of the lines. -/
theorem mem_ofLines {directory : Option Path} {lines : List String} {found : List Location}
    (read : ofLines directory lines = .ok found) {l : Location} :
    l ∈ found ↔ ∃ line ∈ lines, ofLine? directory line = .ok (some l) := by
  obtain ⟨each, done, same⟩ := Except.bind_eq_ok.mp read
  obtain rfl := Except.ok.inj same
  rw [← Except.mem_iff_of_mapM_eq_ok done]
  simp

end Location

end Proctor

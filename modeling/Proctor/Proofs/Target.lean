import Proctor.Proofs.Text.LastPiece
import Proctor.Proofs.Text.Numeral
import Proctor.Target

/-!
# Which texts are targets

A text names a file and a line if what follows its last colon spells a positive number, whatever
precedes the colon. Such a text is read as what it names, and every other one is refused, but
for two kinds: where digits that stand for no place follow the colon, and where more digits
follow it than are read as a number. There the reading fails with another error.
-/

namespace Proctor.Target

open Text (Spells isDecimal isDigitLike maxDigits)

variable {s : String} {t : Target} {cs file digits : List Char} {n : Nat}

/-! ## The last colon -/

theorem cut?_append_colon (clean : ':' ∉ digits) :
    cut? (file ++ ':' :: digits) = some (file, digits) := by
  have length : (file ++ ':' :: digits).length = file.length + (digits.length + 1) := by simp
  have before : file.length + (digits.length + 1) - digits.length - 1 = file.length := by omega
  rw [cut?, Text.takeWhile_reverse_append clean, List.reverse_reverse, length, before,
    List.take_left, if_neg (by omega)]

theorem cut?_of_not_mem (clean : ':' ∉ cs) : cut? cs = none := by
  simp [cut?, Text.takeWhile_reverse_of_not_mem clean]

theorem parse_of_not_mem (clean : ':' ∉ s.toList) : parse s = .error (.badTarget s) := by
  simp only [parse, cut?_of_not_mem clean]

/-- Where there is a colon, what follows the last one is checked and then read as a number. -/
theorem parse_of_last (written : s.toList = file ++ ':' :: digits) (clean : ':' ∉ digits) :
    parse s =
      if digits.isEmpty || !digits.all isDigitLike then .error (.badTarget s)
      else match Text.parseNat? digits with
        | none => .error .noNumber
        | some 0 => .error (.badTarget s)
        | some (n + 1) => .ok ⟨Path.parse (String.ofList file), n + 1⟩ := by
  rw [parse, written]
  split
  case h_1 none_ =>
    rw [cut?_append_colon clean] at none_
    cases none_
  case h_2 cut =>
    rw [cut?_append_colon clean] at cut
    obtain ⟨rfl, rfl⟩ := Prod.mk.inj (Option.some.inj cut)
    rfl

/-! ## What a text names -/

/-- The text names a file and a line: what follows its last colon spells the number of the line,
and lines are counted from one. -/
def Names (s : String) (t : Target) : Prop :=
  ∃ file digits, s.toList = file ++ ':' :: digits ∧ ':' ∉ digits ∧ Spells digits t.line ∧
    1 ≤ t.line ∧ t.file = .parse (String.ofList file)

/-- What follows the last colon of the text looks like a number that is not read as one: it is
made of digits, but some of them stands for no place, or they are too many. -/
def IsMisleading (s : String) : Prop :=
  ∃ file digits, s.toList = file ++ ':' :: digits ∧ digits ≠ [] ∧
    (∀ c ∈ digits, isDigitLike c) ∧ (maxDigits < digits.length ∨ ∃ c ∈ digits, ¬ isDecimal c)

/-- The text is read as what it names, and refused if it names nothing. -/
def IsReadAsNamed (s : String) : Prop :=
  (∀ t, parse s = .ok t ↔ Names s t) ∧ ((∀ t, ¬ Names s t) → parse s = .error (.badTarget s))

theorem not_mem_of_digits {c : Char} (likes : ∀ c ∈ digits, isDigitLike c)
    (other : isDigitLike c = false) : c ∉ digits := by
  intro mem
  rw [likes c mem] at other
  cases other

theorem colon_not_mem (likes : ∀ c ∈ digits, isDigitLike c) : ':' ∉ digits :=
  not_mem_of_digits likes (by decide)

/-- What is made of digits is either misleading or spells a number and is read as that. -/
theorem parse_of_digits (written : s.toList = file ++ ':' :: digits) (some_ : digits ≠ [])
    (likes : ∀ c ∈ digits, isDigitLike c) :
    parse s = match Text.parseNat? digits with
      | none => .error .noNumber
      | some 0 => .error (.badTarget s)
      | some (n + 1) => .ok ⟨Path.parse (String.ofList file), n + 1⟩ := by
  rw [parse_of_last written (colon_not_mem likes), if_neg]
  simpa [some_] using likes

/-- Only what follows the last colon matters. -/
theorem isMisleading_iff (written : s.toList = file ++ ':' :: digits) (clean : ':' ∉ digits) :
    IsMisleading s ↔ digits ≠ [] ∧ (∀ c ∈ digits, isDigitLike c) ∧
      (maxDigits < digits.length ∨ ∃ c ∈ digits, ¬ isDecimal c) := by
  constructor
  · rintro ⟨file', digits', written', some_, likes, unread⟩
    obtain ⟨-, rfl⟩ := (Text.append_cons_inj_of_last clean (colon_not_mem likes)).mp
      (written.symm.trans written')
    exact ⟨some_, likes, unread⟩
  · rintro ⟨some_, likes, unread⟩
    exact ⟨file, digits, written, some_, likes, unread⟩

/-! ## Reading -/

theorem parse_of_misleading (misleading : IsMisleading s) : parse s = .error .noNumber := by
  obtain ⟨file, digits, written, some_, likes, unread⟩ := misleading
  have separator : '_' ∉ digits := not_mem_of_digits likes (by decide)
  rw [parse_of_digits written some_ likes, (Text.parseNat?_eq_none_iff separator some_).mpr unread]

theorem parse_of_names (names : Names s t) (fair : ¬ IsMisleading s) : parse s = .ok t := by
  obtain ⟨path, line⟩ := t
  obtain ⟨file, digits, written, -, spells, positive, rfl⟩ := names
  have likes := spells.digits
  have short : digits.length ≤ maxDigits := by
    refine Nat.not_lt.mp fun long => fair ?_
    exact ⟨file, digits, written, spells.ne_nil, likes, .inl long⟩
  rw [parse_of_digits written spells.ne_nil likes, spells.parseNat? short]
  cases line with
  | zero => cases positive
  | succ n => rfl

theorem parse_of_nameless (nameless : ∀ t, ¬ Names s t) (fair : ¬ IsMisleading s) :
    parse s = .error (.badTarget s) := by
  by_cases colon : ':' ∈ s.toList
  · obtain ⟨file, digits, written, clean⟩ := Text.exists_last colon
    by_cases numbered : digits ≠ [] ∧ ∀ c ∈ digits, isDigitLike c
    · obtain ⟨some_, likes⟩ := numbered
      have fair : digits.length ≤ maxDigits ∧ ∀ c ∈ digits, isDecimal c := by
        have fair := fun unread =>
          fair ((isMisleading_iff written clean).mpr ⟨some_, likes, unread⟩)
        simpa using fair
      obtain ⟨n, spells⟩ := Text.exists_spells fair.2 some_
      rw [parse_of_digits written some_ likes, spells.parseNat? fair.1]
      cases n with
      | zero => rfl
      | succ n =>
        exact absurd ⟨file, digits, written, clean, spells, Nat.succ_pos n, rfl⟩
          (nameless ⟨.parse (String.ofList file), n + 1⟩)
    · rw [parse_of_last written clean, if_pos]
      by_contra plain
      refine numbered ?_
      simpa [and_comm] using plain
  · exact parse_of_not_mem colon

/-- A path and a line that has not too many digits are read back. -/
theorem parse_written {file : String} {line : Nat} (positive : 1 ≤ line)
    (short : (toString line).length ≤ maxDigits) :
    parse (file ++ ":" ++ toString line) = .ok ⟨.parse file, line⟩ := by
  have spells := Text.spells_toString line
  have written : (file ++ ":" ++ toString line).toList =
      file.toList ++ ':' :: (toString line).toList := by simp
  rw [parse_of_digits written spells.ne_nil (spells.digits),
    spells.parseNat? (by rwa [String.length_toList]), String.ofList_toList]
  cases line with
  | zero => cases positive
  | succ n => rfl

/-- A text is read as what it names, and refused if it names nothing, unless it is misleading;
then reading it fails with an error of its own. So a path together with a line that has not too
many digits is read back. -/
theorem isReadAsNamed_iff (s : String) :
    (IsReadAsNamed s ↔ ¬ IsMisleading s) ∧ (IsMisleading s → parse s = .error .noNumber) ∧
      ∀ (file : String) (line : Nat), 1 ≤ line → (toString line).length ≤ maxDigits →
        s = file ++ ":" ++ toString line → parse s = .ok ⟨.parse file, line⟩ := by
  refine ⟨⟨?_, ?_⟩, parse_of_misleading, ?_⟩
  · rintro ⟨read, refused⟩ misleading
    have failed := parse_of_misleading misleading
    have nameless (t : Target) : ¬ Names s t := by
      intro names
      rw [(read t).mpr names] at failed
      cases failed
    rw [refused nameless] at failed
    cases failed
  · intro fair
    refine ⟨fun t => ⟨fun read => ?_, fun names => parse_of_names names fair⟩,
      fun nameless => parse_of_nameless nameless fair⟩
    by_contra other
    by_cases named : ∃ u, Names s u
    · obtain ⟨u, names⟩ := named
      rw [parse_of_names names fair] at read
      exact other (Except.ok.inj read ▸ names)
    · rw [parse_of_nameless (fun u names => named ⟨u, names⟩) fair] at read
      cases read
  · rintro file line positive short rfl
    exact parse_written positive short

/-- A path with a colon in it, and a digit that stands for no place. -/
theorem isReadAsNamed_iff_colons :
    IsReadAsNamed "c:\\t.py:12" ∧ (toString 12).length ≤ maxDigits ∧
      parse "c:\\t.py:12" = .ok ⟨.parse "c:\\t.py", 12⟩ ∧
      IsMisleading "c:\\t.py:1²" ∧ parse "c:\\t.py:1²" = .error .noNumber := by
  have named : ¬ IsMisleading "c:\\t.py:12" := by
    have written : "c:\\t.py:12".toList = "c:\\t.py".toList ++ ':' :: "12".toList := rfl
    have decimals : "12".toList.all isDecimal := by decide
    rw [isMisleading_iff written (by decide)]
    rintro ⟨-, -, long | ⟨c, mem, other⟩⟩
    · exact absurd long (by decide)
    · exact other (List.all_eq_true.mp decimals c mem)
  have misleading : IsMisleading "c:\\t.py:1²" := by
    have written : "c:\\t.py:1²".toList = "c:\\t.py".toList ++ ':' :: "1²".toList := rfl
    have likes : "1²".toList.all isDigitLike := by decide
    rw [isMisleading_iff written (by decide)]
    exact ⟨by decide, List.all_eq_true.mp likes, .inr ⟨'²', by decide, by decide⟩⟩
  have short : (toString 12).length ≤ maxDigits := by decide
  obtain ⟨iff, -, back⟩ := isReadAsNamed_iff "c:\\t.py:12"
  obtain ⟨-, fails, -⟩ := isReadAsNamed_iff "c:\\t.py:1²"
  exact ⟨iff.mpr named, short, back _ 12 (by decide) short rfl, misleading, fails misleading⟩

/-- A target with ones for the number of its line. -/
def onesTarget (ones : Nat) : String := String.ofList ("t.py:".toList ++ List.replicate ones '1')

theorem toList_onesTarget (ones : Nat) :
    (onesTarget ones).toList = "t.py".toList ++ ':' :: List.replicate ones '1' :=
  String.toList_ofList

theorem exists_spells_ones (more : Nat) :
    ∃ n, 1 ≤ n ∧ Spells (List.replicate (more + 1) '1') n := by
  induction more with
  | zero => exact ⟨1, le_rfl, .digit (by decide)⟩
  | succ more ih =>
    obtain ⟨n, positive, spells⟩ := ih
    refine ⟨10 * n + 1, by omega, ?_⟩
    rw [List.replicate_succ']
    exact .more spells (by decide)

theorem exists_names_onesTarget (more : Nat) : ∃ t, Names (onesTarget (more + 1)) t := by
  obtain ⟨n, positive, spells⟩ := exists_spells_ones more
  have clean := colon_not_mem spells.digits
  exact ⟨⟨.parse "t.py", n⟩, _, _, toList_onesTarget _, clean, spells, positive, rfl⟩

theorem isMisleading_onesTarget {more : Nat} (long : maxDigits < more + 1) :
    IsMisleading (onesTarget (more + 1)) := by
  obtain ⟨n, -, spells⟩ := exists_spells_ones more
  exact ⟨_, _, toList_onesTarget _, spells.ne_nil, spells.digits, .inl (by simpa using long)⟩

/-- A text that names nothing and is not refused, and one that names a line and is not read. -/
theorem not_read_as_named :
    (∀ t, ¬ Names "t.py:²" t) ∧ parse "t.py:²" = .error .noNumber ∧
      (∃ t, Names (onesTarget 4301) t) ∧ parse (onesTarget 4301) = .error .noNumber := by
  refine ⟨?_, rfl, exists_names_onesTarget 4300,
    parse_of_misleading (isMisleading_onesTarget (by decide))⟩
  rintro t ⟨file, digits, written, clean, spells, -⟩
  have last : "t.py:²".toList = "t.py".toList ++ ':' :: ['²'] := rfl
  obtain ⟨-, rfl⟩ := (Text.append_cons_inj_of_last clean (by decide)).mp (written.symm.trans last)
  exact absurd (spells.decimals '²' List.mem_cons_self) (by decide)

end Proctor.Target

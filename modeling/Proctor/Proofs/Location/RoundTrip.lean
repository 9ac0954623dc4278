import Mathlib.Data.List.TakeWhile
import Proctor.Proofs.Location
import Proctor.Proofs.Text.Numeral

/-!
# Locations that are found again

A location is written as a file name with an ending, a colon and a line number, and possibly
another colon and a column. The search for it reads a line once, from left to right, and knows
of what it has passed only the run of name characters right before it. That is enough: a run is
a file name as a whole or not at all, so the search finds something exactly when there is
something to be found. And what is written where the search begins anew is found as it was
written, whatever follows it.
-/

namespace Proctor

namespace Text

variable {c : Char}

/-! ## Characters -/

/-- The numbers of all blanks. -/
def blanks : List Nat :=
  List.range' 9 5 ++ List.range' 28 5 ++ [0x85, 0xa0, 0x1680] ++ List.range' 0x2000 11 ++
    [0x2028, 0x2029, 0x202f, 0x205f, 0x3000]

theorem toNat_mem_blanks (blank : isBlank c) : c.toNat ∈ blanks := by
  simp only [isBlank, Bool.or_eq_true, Bool.and_eq_true, decide_eq_true_eq, beq_iff_eq] at blank
  simp only [blanks, List.mem_append, List.mem_range'_1, List.mem_cons, List.not_mem_nil, or_false]
  omega

theorem isWordChar_of_isAlpha (letter : c.isAlpha) : isWordChar c := by
  have plain : c.toNat < 128 := by
    delta Char.isAlpha Char.isUpper Char.isLower at letter
    simp only [Bool.or_eq_true, Bool.and_eq_true, decide_eq_true_eq, UInt32.le_iff_toNat_le,
      ge_iff_le] at letter
    change 65 ≤ c.toNat ∧ c.toNat ≤ 90 ∨ 97 ≤ c.toNat ∧ c.toNat ≤ 122 at letter
    omega
  simp [isWordChar, isAlphanumeric, plain, Char.isAlphanum, letter]

end Text

namespace Location

variable {cs run file row column rest : List Char} {c : Char}

theorem isNameChar_of_isBlank (blank : Text.isBlank c) : isNameChar c = false := by
  have table : ∀ n ∈ Text.blanks, isNameChar (Char.ofNat n) = false := by decide +kernel
  simpa using table c.toNat (Text.toNat_mem_blanks blank)

theorem isNameChar_of_isWordChar (word : Text.isWordChar c) : isNameChar c := by
  simp [isNameChar, word]

/-! ## What a location is -/

/-- A file name with an ending, and possibly with a path before it. -/
def IsFile (cs : List Char) : Prop :=
  ∃ path last letter rest, cs = path ++ last :: '.' :: letter :: rest ∧
    (∀ c ∈ path, isNameChar c) ∧ (Text.isWordChar last ∨ last = '-') ∧ letter.isAlpha ∧
    ∀ c ∈ rest, Text.isWordChar c

/-- Somewhere in the text stand a file name, a colon and a digit. -/
def HasLocation (cs : List Char) : Prop :=
  ∃ before file d rest, cs = before ++ file ++ ':' :: d :: rest ∧ IsFile file ∧ Text.isDecimal d

theorem IsFile.names (isFile : IsFile file) : ∀ c ∈ file, isNameChar c := by
  obtain ⟨path, last, letter, rest, rfl, path_, last_, letter_, rest_⟩ := isFile
  intro c mem
  simp only [List.mem_append, List.mem_cons] at mem
  obtain mem | rfl | rfl | rfl | mem := mem
  · exact path_ c mem
  · obtain word | rfl := last_
    · exact isNameChar_of_isWordChar word
    · decide
  · decide
  · exact isNameChar_of_isWordChar (Text.isWordChar_of_isAlpha letter_)
  · exact isNameChar_of_isWordChar (rest_ c mem)

theorem IsFile.ne_nil (isFile : IsFile file) : file ≠ [] := by
  obtain ⟨_, _, _, _, rfl, -⟩ := isFile
  simp

/-- More of a path before a file name. -/
theorem IsFile.append (isFile : IsFile file) {path : List Char}
    (names : ∀ c ∈ path, isNameChar c) : IsFile (path ++ file) := by
  obtain ⟨path', last, letter, rest, rfl, path_, wellFormed⟩ := isFile
  refine ⟨path ++ path', last, letter, rest, by simp, fun c mem => ?_, wellFormed⟩
  exact (List.mem_append.mp mem).elim (names c) (path_ c)

theorem isFileName_append {ending : List Char} (dotless : ∀ c ∈ ending, c ≠ '.') (last : Char)
    (path : List Char) :
    isFileName (ending ++ '.' :: last :: path) =
      (ending.all Text.isWordChar && (ending.getLast?.map Char.isAlpha).getD false &&
        (Text.isWordChar last || last == '-')) := by
  have cut : (ending ++ '.' :: last :: path).takeWhile (· != '.') = ending := by
    rw [List.takeWhile_append_of_pos fun c mem => bne_iff_ne.mpr (dotless c mem)]
    simp
  rw [isFileName, cut, List.drop_left']
  · rfl
  · rfl

/-- A run of name characters is a file name exactly when it is one in the reading from its
end: the ending goes as far as to the last dot. -/
theorem isFileName_iff (names : ∀ c ∈ run, isNameChar c) :
    isFileName run ↔ IsFile run.reverse := by
  constructor
  · intro isFile
    have cut := List.prefix_iff_eq_append.mp (List.takeWhile_prefix (· != '.') (l := run))
    unfold isFileName at isFile
    dsimp only at isFile
    split at isFile
    case h_2 => cases isFile
    case h_1 last path behind =>
      rw [behind] at cut
      generalize run.takeWhile (· != '.') = ending at isFile cut
      simp only [Bool.and_eq_true, Bool.or_eq_true, beq_iff_eq, List.all_eq_true] at isFile
      obtain ⟨⟨word, letter_⟩, last_⟩ := isFile
      obtain rfl | ⟨init, letter, rfl⟩ := List.eq_nil_or_concat ending
      · simp at letter_
      · rw [List.concat_eq_append] at *
        refine ⟨path.reverse, last, letter, init.reverse, by simp [← cut], fun c mem => ?_, last_,
          by simpa using letter_, fun c mem => word c ?_⟩
        · exact names c (by simp [← cut, List.mem_reverse.mp mem])
        · exact List.mem_append_left _ (List.mem_reverse.mp mem)
  · rintro ⟨path, last, letter, rest, same, path_, last_, letter_, rest_⟩
    have same : run = (letter :: rest).reverse ++ '.' :: last :: path.reverse := by
      rw [← List.reverse_reverse run, same]
      simp
    have word : ∀ c ∈ (letter :: rest).reverse, Text.isWordChar c := by
      intro c mem
      obtain rfl | mem := List.mem_cons.mp (List.mem_reverse.mp mem)
      · exact Text.isWordChar_of_isAlpha letter_
      · exact rest_ c mem
    have dotless : ∀ c ∈ (letter :: rest).reverse, c ≠ '.' := by
      rintro c mem rfl
      exact absurd (word '.' mem) (by decide)
    rw [same, isFileName_append dotless, List.all_eq_true.mpr word]
    simpa [letter_] using last_

/-! ## The search -/

theorem leadingDigits_eq_nil_iff :
    (leadingDigits cs).1 = [] ↔ ∀ d ∈ cs.head?, Text.isDecimal d = false := by
  cases cs with
  | nil => simp [leadingDigits]
  | cons d rest => by_cases decimal : Text.isDecimal d <;> simp [leadingDigits, decimal]

/-- Whether there are numbers shows at once: in a colon and a digit. -/
theorem numbers?_eq_none_iff :
    numbers? (c :: rest) = none ↔ c = ':' → ∀ d ∈ rest.head?, Text.isDecimal d = false := by
  rw [← leadingDigits_eq_nil_iff]
  by_cases colon : c = ':'
  · subst colon
    rw [numbers?]
    dsimp only
    split
    · rename_i empty
      simpa using empty
    · rename_i digits
      have some_ : (leadingDigits rest).1 ≠ [] := by simpa using digits
      split <;> simp [some_]
  · simp [numbers?, colon]

/-- Behind a character that is no name character the search begins anew. -/
theorem scanFrom_of_other (other : isNameChar c = false)
    (passed : isFileName run → numbers? (c :: rest) = none) :
    scanFrom run (c :: rest) = scanFrom [] rest := by
  rw [scanFrom, if_neg (by simp [other])]
  split
  · rename_i isFile
    rw [passed isFile]
  · rfl

theorem scanFrom_cons_eq_none_iff (other : isNameChar c = false) :
    scanFrom run (c :: rest) = none ↔
      (isFileName run → numbers? (c :: rest) = none) ∧ scanFrom [] rest = none := by
  rw [scanFrom, if_neg (by simp [other])]
  split
  · rename_i isFile
    cases numbers? (c :: rest) <;> simp [isFile]
  · rename_i noFile
    simp [noFile]

theorem scanFrom_of_file (isFile : isFileName run)
    (numbered : numbers? (':' :: rest) = some (row, column)) :
    scanFrom run (':' :: rest) = some (run.reverse, row, column) := by
  rw [scanFrom, if_neg (by decide), if_pos isFile, numbered]

/-- A run of name characters is gathered. -/
theorem scanFrom_append (names : ∀ c ∈ cs, isNameChar c) :
    scanFrom run (cs ++ rest) = scanFrom (cs.reverse ++ run) rest := by
  induction cs generalizing run with
  | nil => rfl
  | cons c cs ih =>
    obtain ⟨here, later⟩ := List.forall_mem_cons.mp names
    rw [List.cons_append, scanFrom, if_pos here, ih later]
    simp

theorem takeWhile_names (names : ∀ c ∈ cs, isNameChar c) (other : isNameChar c = false) :
    (cs ++ c :: rest).takeWhile isNameChar = cs := by
  rw [List.takeWhile_append_of_pos names]
  simp [other]

theorem HasLocation.append (located : HasLocation rest) (before : List Char) :
    HasLocation (before ++ rest) := by
  obtain ⟨between, file, d, after, rfl, wellFormed⟩ := located
  exact ⟨before ++ between, file, d, after, by simp, wellFormed⟩

theorem not_hasLocation_of_names (names : ∀ c ∈ cs, isNameChar c) : ¬ HasLocation cs := by
  rintro ⟨before, file, d, after, rfl, -⟩
  exact absurd (names ':' (by simp)) (by decide)

/-- Of a run of name characters and what follows it, either the run as a whole is the file name
of a location, or the location lies behind it. -/
theorem hasLocation_append_cons_iff (names : ∀ c ∈ cs, isNameChar c)
    (other : isNameChar c = false) :
    HasLocation (cs ++ c :: rest) ↔
      IsFile cs ∧ numbers? (c :: rest) ≠ none ∨ HasLocation rest := by
  constructor
  · rintro ⟨before, file, d, after, same, isFile, decimal⟩
    -- Where the file name begins within the run, it ends with it.
    have whole (inner : List Char) (names : ∀ c ∈ inner, isNameChar c)
        (same : inner ++ c :: rest = file ++ ':' :: d :: after) :
        inner = file ∧ c = ':' ∧ rest = d :: after := by
      have inner_ := congrArg (List.takeWhile isNameChar) same
      rw [takeWhile_names names other, takeWhile_names isFile.names (by decide)] at inner_
      subst inner_
      simpa using same
    rw [List.append_assoc, List.append_eq_append_iff] at same
    obtain ⟨more, rfl, same⟩ | ⟨more, rfl, same⟩ := same
    · cases more with
      | nil => exact absurd (whole [] (List.forall_mem_nil _) same).1.symm isFile.ne_nil
      | cons c' more =>
        obtain ⟨rfl, rfl⟩ := List.cons.inj same
        exact .inr ⟨more, file, d, after, by simp, isFile, decimal⟩
    · obtain ⟨rfl, rfl, rfl⟩ :=
        whole _ (fun c mem => names c (List.mem_append_right _ mem)) same.symm
      refine .inl ⟨isFile.append fun c mem => names c (List.mem_append_left _ mem), ?_⟩
      simp [numbers?_eq_none_iff, decimal]
  · rintro (⟨isFile, numbered⟩ | located)
    · obtain ⟨rfl, d, head, decimal⟩ : c = ':' ∧ ∃ d ∈ rest.head?, Text.isDecimal d := by
        simpa [numbers?_eq_none_iff] using numbered
      obtain ⟨after, rfl⟩ := List.head?_eq_some_iff.mp head
      exact ⟨[], cs, d, after, rfl, isFile, decimal⟩
    · simpa using located.append (cs ++ [c])

/-- The search finds something exactly when there is a location. -/
theorem scanFrom_eq_none_iff (names : ∀ c ∈ run, isNameChar c) :
    scanFrom run cs = none ↔ ¬ HasLocation (run.reverse ++ cs) := by
  induction cs generalizing run with
  | nil =>
    have names_ : ∀ c ∈ run.reverse, isNameChar c := by simpa using names
    simpa [scanFrom] using not_hasLocation_of_names names_
  | cons c rest ih =>
    cases name : isNameChar c with
    | true =>
      rw [scanFrom, if_pos name, ih (List.forall_mem_cons.mpr ⟨name, names⟩)]
      simp
    | false =>
      rw [scanFrom_cons_eq_none_iff name, @ih [] (List.forall_mem_nil _), isFileName_iff names,
        hasLocation_append_cons_iff (by simpa using names) name]
      simp [not_or]

/-- What has been passed by without a location does not matter behind a blank. -/
theorem scanFrom_append_of_blank {before : List Char} {b : Char} (blank : Text.isBlank b)
    (nothing : scanFrom run (before ++ [b]) = none) :
    scanFrom run (before ++ b :: rest) = scanFrom [] rest := by
  induction before generalizing run with
  | nil =>
    refine scanFrom_of_other (isNameChar_of_isBlank blank) fun _ => ?_
    rw [numbers?_eq_none_iff]
    rintro rfl
    exact absurd blank (by decide)
  | cons c before ih =>
    cases name : isNameChar c with
    | true =>
      rw [List.cons_append, scanFrom, if_pos name] at nothing ⊢
      exact ih nothing
    | false =>
      obtain ⟨passed, nothing⟩ := (scanFrom_cons_eq_none_iff name).mp nothing
      rw [List.cons_append, scanFrom_of_other name fun isFile => ?_, ih nothing]
      -- Whether there are numbers shows in the next character, which comes before the blank or
      -- is the blank.
      have unnumbered := passed isFile
      rw [numbers?_eq_none_iff] at unnumbered ⊢
      simpa using unnumbered

/-- A text without a location that ends in a blank, or is empty, hides no location behind it. -/
theorem scanFrom_append_of_not_hasLocation {before : List Char}
    (ends : ∀ c ∈ before.getLast?, Text.isBlank c) (unlocated : ¬ HasLocation before) :
    scanFrom [] (before ++ rest) = scanFrom [] rest := by
  obtain rfl | ⟨init, b, rfl⟩ := List.eq_nil_or_concat before
  · rfl
  · rw [List.concat_eq_append] at *
    have nothing := (@scanFrom_eq_none_iff _ [] (List.forall_mem_nil _)).mpr unlocated
    rw [List.append_assoc, List.singleton_append]
    exact scanFrom_append_of_blank (ends b (by simp)) nothing

/-! ## What is written -/

/-- The text of a column, and the column that it stands for. -/
inductive Column : List Char → Nat → Prop
  | absent : Column [] 1
  | given {digits : List Char} {m : Nat} (spells : Text.Spells digits m)
      (short : digits.length ≤ Text.maxDigits) : Column (':' :: digits) m

theorem number_of_spells {digits : List Char} {n : Nat} (spells : Text.Spells digits n)
    (short : digits.length ≤ Text.maxDigits) : number digits = .ok n := by
  rw [number, spells.parseNat? short]

theorem leadingDigits_append {digits : List Char} (decimals : ∀ c ∈ digits, Text.isDecimal c)
    (next : ∀ d ∈ rest.head?, Text.isDecimal d = false) :
    leadingDigits (digits ++ rest) = (digits, rest) := by
  rw [leadingDigits, List.takeWhile_append_of_pos decimals, List.dropWhile_append_of_pos decimals]
  cases rest with
  | nil => simp
  | cons d rest => simp [next d rfl]

/-- Both numbers are read as far as they were written. -/
theorem numbers?_written {tail : List Char} {n m : Nat} (spells : Text.Spells row n)
    (written : Column column m) (ends : ∀ d ∈ tail.head?, Text.isDecimal d = false)
    (alone : column = [] → ∀ d rest, tail = ':' :: d :: rest → Text.isDecimal d = false) :
    numbers? (':' :: (row ++ (column ++ tail))) = some (row, column.drop 1) := by
  have some_ : row.isEmpty = false := by simpa using spells.ne_nil
  cases written with
  | absent =>
    rw [numbers?, List.nil_append, leadingDigits_append spells.decimals ends]
    simp only [some_, Bool.false_eq_true, if_false]
    split
    · rename_i rest
      have uncolumned : (leadingDigits rest).1 = [] := by
        rw [leadingDigits_eq_nil_iff]
        intro d head
        obtain ⟨after, rfl⟩ := List.head?_eq_some_iff.mp head
        exact alone rfl d after rfl
      rw [uncolumned]
      rfl
    · rfl
  | @given digits _ spells' =>
    have colon : ∀ d ∈ (':' :: (digits ++ tail)).head?, Text.isDecimal d = false := by
      simp [show Text.isDecimal ':' = false by decide]
    rw [numbers?, List.cons_append, leadingDigits_append spells.decimals colon]
    simp only [some_, Bool.false_eq_true, if_false, leadingDigits_append spells'.decimals ends]
    rfl

theorem column_read {α : Type} {m : Nat} (written : Column column m)
    (make : Nat → Except Error α) :
    (if (column.drop 1).isEmpty then pure 1 >>= make else number (column.drop 1) >>= make) =
      make m := by
  cases written with
  | absent => rfl
  | given spells short =>
    rw [List.drop_one, List.tail_cons, if_neg (by simpa using spells.ne_nil),
      number_of_spells spells short]
    rfl

theorem isAbsolute_parse {s : String} :
    (Path.parse s).isAbsolute ↔ s.toList.head? = some '/' := by
  unfold Path.parse Path.isAbsolute Path.rootOf
  cases s.toList with
  | nil => simp
  | cons c rest =>
    by_cases slash : c = '/'
    · subst slash
      dsimp only
      split <;> simp_all
    · simp [slash]

/-- A location is found again as it was written: behind a text that is empty or ends in a blank
and has no location of its own, a file name, a line number and possibly a column, of digits that
are not too many, give the only place of the line, unless what follows goes on with digits where
digits could stand. The column is 1 where none is written; and the name is that of the file, as
seen from the directory if there is one and the name does not begin at the root. -/
theorem ofLines_written (directory : Option Path) {before file row column tail : List Char}
    {n m : Nat} (ends : ∀ c ∈ before.getLast?, Text.isBlank c) (unlocated : ¬ HasLocation before)
    (isFile : IsFile file) (spells : Text.Spells row n) (short : row.length ≤ Text.maxDigits)
    (written : Column column m) (behind : ∀ d ∈ tail.head?, Text.isDecimal d = false)
    (alone : column = [] → ∀ d rest, tail = ':' :: d :: rest → Text.isDecimal d = false) :
    let line := before ++ file ++ ':' :: row ++ column ++ tail
    ∃ name,
      ofLines directory [String.ofList line] =
        .ok [⟨name, n, m, String.ofList (Text.strip line)⟩] ∧
      (directory = none ∨ file.head? = some '/' → name = String.ofList file) ∧
      ∀ d, directory = some d → file.head? ≠ some '/' →
        name = (d.child (String.ofList file)).text := by
  intro line
  have recognised : isFileName file.reverse := by
    rw [isFileName_iff fun c mem => isFile.names c (List.mem_reverse.mp mem),
      List.reverse_reverse]
    exact isFile
  have found : scanFrom [] line = some (file, row, column.drop 1) := by
    calc scanFrom [] line
        = scanFrom [] (before ++ (file ++ ':' :: (row ++ (column ++ tail)))) := by simp [line]
      _ = scanFrom [] (file ++ ':' :: (row ++ (column ++ tail))) :=
          scanFrom_append_of_not_hasLocation ends unlocated
      _ = scanFrom (file.reverse ++ []) (':' :: (row ++ (column ++ tail))) :=
          scanFrom_append isFile.names
      _ = some (file, row, column.drop 1) := by
          rw [List.append_nil, scanFrom_of_file recognised
            (numbers?_written spells written behind alone), List.reverse_reverse]
  have read : ofLine? directory (String.ofList line) =
      .ok (some ⟨resolveIn directory (String.ofList file), n, m,
        String.ofList (Text.strip line)⟩) := by
    rw [ofLine?, String.toList_ofList, found]
    simp only [number_of_spells spells short]
    exact column_read written _
  refine ⟨resolveIn directory (String.ofList file), ?_, ?_, ?_⟩
  · simp only [ofLines, List.mapM_cons, read]
    rfl
  · rintro (rfl | slash)
    · rfl
    · cases directory with
      | none => rfl
      | some d => exact if_pos (isAbsolute_parse.mpr (by simpa using slash))
  · rintro d rfl relative
    exact if_neg (mt isAbsolute_parse.mp (by simpa using relative))

/-! A line of a test runner, with a number before the file name and one behind the column. -/

/-- The place is found between them. -/
theorem ofLines_written_message :
    ofLines (some ⟨.slash, ["work"]⟩) ["  at (v1.2) ./src/a-b.test.ts:10:5: not 3:4 "] =
      .ok [⟨"/work/src/a-b.test.ts", 10, 5, "at (v1.2) ./src/a-b.test.ts:10:5: not 3:4"⟩] := by
  have ends : ∀ c ∈ "  at (v1.2) ".toList.getLast?, Text.isBlank c := by
    rintro c ⟨⟩
    decide
  have unlocated : ¬ HasLocation "  at (v1.2) ".toList :=
    (@scanFrom_eq_none_iff _ [] (List.forall_mem_nil _)).mp (by decide +kernel)
  have isFile : IsFile "./src/a-b.test.ts".toList :=
    ⟨"./src/a-b.tes".toList, 't', 't', ['s'], by decide, List.all_eq_true.mp (by decide),
      .inl (by decide), by decide, List.all_eq_true.mp (by decide)⟩
  have written : Column (':' :: (toString 5).toList) 5 :=
    .given (Text.spells_toString 5) (by decide +kernel)
  have behind : ∀ d ∈ ": not 3:4 ".toList.head?, Text.isDecimal d = false := by
    rintro d ⟨⟩
    decide
  obtain ⟨name, found, -, relative⟩ := ofLines_written (some ⟨.slash, ["work"]⟩) ends unlocated
    isFile (Text.spells_toString 10) (by decide +kernel) written behind nofun
  obtain rfl : name = "/work/src/a-b.test.ts" := (relative _ rfl (by decide)).trans (by decide)
  have line : "  at (v1.2) ".toList ++ "./src/a-b.test.ts".toList ++ ':' :: (toString 10).toList ++
      ':' :: (toString 5).toList ++ ": not 3:4 ".toList =
        "  at (v1.2) ./src/a-b.test.ts:10:5: not 3:4 ".toList := by decide
  have stripped : Text.strip "  at (v1.2) ./src/a-b.test.ts:10:5: not 3:4 ".toList =
      "at (v1.2) ./src/a-b.test.ts:10:5: not 3:4".toList := by decide
  rwa [line, stripped, String.ofList_toList, String.ofList_toList] at found

end Location

end Proctor

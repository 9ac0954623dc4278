import Mathlib.Data.List.Induction
import Proctor.Detection.Locate

/-!
# The listing of a buffer

The tests of a buffer stand in the order of their lines, one for each line that some pattern
matches. The search for the test that governs a cursor goes the other way and stops early; it
ends at the last test of the listing that is not below the cursor, wherever the cursor is.
-/

namespace Proctor.Detection

variable {patterns : List Pattern} {file : Path} {language : String}

/-- The match of the first pattern of a list that matches a line. -/
def FirstMatch (patterns : List Pattern) (line : String) (m : Pattern.Match) : Prop :=
  ∃ earlier p later, patterns = earlier ++ p :: later ∧ p.search? line = some m ∧
    ∀ q ∈ earlier, q.search? line = none

theorem inLine_eq_some_iff {line : String} {f : Find} :
    inLine patterns line = some f ↔
      ∃ m, FirstMatch patterns line m ∧ f = ⟨Pattern.nameIn m, m.start + 1⟩ := by
  rw [inLine, List.findSome?_eq_some_iff]
  constructor
  · rintro ⟨earlier, p, later, rfl, found, missed⟩
    obtain ⟨m, matched, rfl⟩ := Option.map_eq_some_iff.mp found
    exact ⟨m, ⟨earlier, p, later, rfl, matched, fun q mem => by simpa using missed q mem⟩, rfl⟩
  · rintro ⟨m, ⟨earlier, p, later, rfl, found, missed⟩, rfl⟩
    exact ⟨earlier, p, later, rfl, by simp [found], fun q mem => by simp [missed q mem]⟩

theorem inLine_eq_none_iff {line : String} :
    inLine patterns line = none ↔ ∀ p ∈ patterns, p.search? line = none := by
  simp [inLine]

theorem allFrom_append (above below : List String) (number : Nat) :
    allFrom patterns file language number (above ++ below) =
      allFrom patterns file language number above ++
        allFrom patterns file language (number + above.length) below := by
  induction above generalizing number with
  | nil => rfl
  | cons line rest ih =>
    have shift : number + (line :: rest).length = number + 1 + rest.length := by
      simp only [List.length_cons]; omega
    rw [shift, List.cons_append, allFrom, allFrom]
    cases inLine patterns line <;> simp [ih]

theorem mem_allFrom {lines : List String} {number : Nat} {t : TestInfo} :
    t ∈ allFrom patterns file language number lines ↔
      ∃ i line f, lines[i]? = some line ∧ inLine patterns line = some f ∧
        t = infoOf file language (number + i) f := by
  induction lines generalizing number with
  | nil => simp [allFrom]
  | cons first rest ih =>
    have split : t ∈ allFrom patterns file language number (first :: rest) ↔
        (∃ f, inLine patterns first = some f ∧ t = infoOf file language number f) ∨
          t ∈ allFrom patterns file language (number + 1) rest := by
      rw [allFrom]
      cases inLine patterns first <;> simp
    rw [split, ih]
    constructor
    · rintro (⟨f, found, rfl⟩ | ⟨i, line, f, there, found, rfl⟩)
      · exact ⟨0, first, f, rfl, found, rfl⟩
      · exact ⟨i + 1, line, f, there, found, by rw [Nat.add_right_comm, Nat.add_assoc]⟩
    · rintro ⟨i, line, f, there, found, rfl⟩
      cases i with
      | zero =>
        obtain rfl : first = line := Option.some.inj there
        exact .inl ⟨f, found, rfl⟩
      | succ i => exact .inr ⟨i, line, f, there, found, by rw [Nat.add_right_comm, Nat.add_assoc]⟩

/-- No test of a listing stands above its first line or beyond its last. -/
theorem line_of_mem_allFrom {lines : List String} {number : Nat} {t : TestInfo}
    (mem : t ∈ allFrom patterns file language number lines) :
    number ≤ t.line ∧ t.line < number + lines.length := by
  obtain ⟨i, line, f, there, -, rfl⟩ := mem_allFrom.mp mem
  have bound : i < lines.length := (List.getElem?_eq_some_iff.mp there).1
  simp only [infoOf]
  omega

theorem pairwise_allFrom (lines : List String) (number : Nat) :
    (allFrom patterns file language number lines).Pairwise (·.line < ·.line) := by
  induction lines generalizing number with
  | nil => exact .nil
  | cons line rest ih =>
    rw [allFrom]
    cases inLine patterns line with
    | none => exact ih (number + 1)
    | some f =>
      refine .cons (fun t mem => ?_) (ih (number + 1))
      have below := (line_of_mem_allFrom mem).1
      simp only [infoOf]
      omega

/-- The way up from the last line ends at the last test. -/
theorem nearestIn_reverse (lines : List String) :
    nearestIn patterns file language lines.length lines.reverse =
      (all lines patterns file language).getLast? := by
  induction lines using List.reverseRecOn with
  | nil => rfl
  | append_singleton above line ih =>
    have last : all (above ++ [line]) patterns file language =
        all above patterns file language ++
          ((inLine patterns line).map (infoOf file language (above.length + 1))).toList := by
      rw [all, allFrom_append, Nat.add_comm 1, allFrom, allFrom]
      cases inLine patterns line <;> rfl
    rw [last, List.reverse_append, List.length_append, List.getLast?_append]
    change nearestIn patterns file language (above.length + 1) (line :: above.reverse) = _
    rw [nearestIn]
    cases inLine patterns line with
    | none => simpa using ih
    | some f => simp

/-- The tests of the lines that a cursor has reached are those of the listing that do not
stand below it. -/
theorem all_take (lines : List String) (cursor : Int) :
    all (lines.take cursor.toNat) patterns file language =
      (all lines patterns file language).filter fun t => t.line ≤ cursor := by
  have parts : all lines patterns file language =
      all (lines.take cursor.toNat) patterns file language ++
        allFrom patterns file language (1 + (lines.take cursor.toNat).length)
          (lines.drop cursor.toNat) := by
    rw [all, all, ← allFrom_append, List.take_append_drop]
  have reached : ∀ t ∈ all (lines.take cursor.toNat) patterns file language, t.line ≤ cursor := by
    intro t mem
    have bounds := line_of_mem_allFrom mem
    have taken := List.length_take_le cursor.toNat lines
    omega
  have beyond : ∀ t ∈ allFrom patterns file language (1 + (lines.take cursor.toNat).length)
      (lines.drop cursor.toNat), ¬ t.line ≤ cursor := by
    intro t mem
    have bounds := line_of_mem_allFrom mem
    rw [List.length_take, List.length_drop] at bounds
    omega
  rw [parts, List.filter_append, List.filter_eq_self.mpr (by simpa using reached),
    List.filter_eq_nil_iff.mpr (by simpa using beyond), List.append_nil]

/-- The test that governs a cursor is the last one of the listing that does not stand below
it. -/
theorem nearest_eq_getLast? (lines : List String) (cursor : Int) :
    nearest lines cursor patterns file language =
      ((all lines patterns file language).filter fun t => t.line ≤ cursor).getLast? := by
  rw [nearest, nearestIn_reverse, all_take]

theorem allFrom_eq_nil {lines : List String} (number : Nat)
    (missed : ∀ line ∈ lines, inLine patterns line = none) :
    allFrom patterns file language number lines = [] := by
  rw [List.eq_nil_iff_forall_not_mem]
  intro t mem
  obtain ⟨i, line, f, there, found, -⟩ := mem_allFrom.mp mem
  rw [missed line (List.mem_of_getElem? there)] at found
  cases found

/-- A test governs its own line and those below it, up to the next test. -/
theorem nearest_of_between {lines : List String} {line : String} {i : Nat} {f : Find}
    {cursor : Int} (there : lines[i]? = some line) (found : inLine patterns line = some f)
    (below : (i + 1 : Nat) ≤ cursor)
    (between : ∀ j other, i < j → (j : Int) < cursor → lines[j]? = some other →
      inLine patterns other = none) :
    nearest lines cursor patterns file language = some (infoOf file language (i + 1) f) := by
  have inside : (lines.take cursor.toNat)[i]? = some line := by
    rw [List.getElem?_take_of_lt (by omega), there]
  obtain ⟨bound, here⟩ := List.getElem?_eq_some_iff.mp inside
  have parts : lines.take cursor.toNat =
      lines.take i ++ line :: (lines.take cursor.toNat).drop (i + 1) := by
    have upper : (lines.take cursor.toNat).take i = lines.take i := by
      rw [List.take_take, Nat.min_eq_left (by omega)]
    rw [← here, ← List.drop_eq_getElem_cons bound, ← upper, List.take_append_drop]
  have rest : ∀ other ∈ (lines.take cursor.toNat).drop (i + 1), inLine patterns other = none := by
    intro other mem
    obtain ⟨k, short, same⟩ := List.getElem_of_mem mem
    have place : (lines.take cursor.toNat)[i + 1 + k]? = some other := by
      rw [← List.getElem?_drop, List.getElem?_eq_getElem short, same]
    have reached : i + 1 + k < cursor.toNat := by
      have := (List.getElem?_eq_some_iff.mp place).1
      rw [List.length_take] at this
      omega
    rw [List.getElem?_take_of_lt reached] at place
    exact between (i + 1 + k) other (by omega) (by omega) place
  have upper : (lines.take i).length = i := by
    rw [List.length_take, Nat.min_eq_left]
    exact Nat.le_of_lt (List.getElem?_eq_some_iff.mp there).1
  rw [nearest, nearestIn_reverse, parts, all, allFrom_append, upper, allFrom, found]
  simp only [allFrom_eq_nil _ rest, List.getLast?_append, List.getLast?_singleton,
    Option.some_or, Nat.add_comm 1]

/-- What a listing of the tests of a buffer has to be. -/
structure IsListing (lines : List String) (patterns : List Pattern) (file : Path)
    (language : String) (tests : List TestInfo) : Prop where
  ascending : tests.Pairwise (·.line < ·.line)
  /-- A test is what the first pattern that matches its line has found there. -/
  mem_iff : ∀ t, t ∈ tests ↔ ∃ i line m, lines[i]? = some line ∧ FirstMatch patterns line m ∧
    t = { name := Pattern.nameIn m, file, line := (i + 1 : Nat), column := (m.start + 1 : Nat),
          language }
  /-- Each line that some pattern matches has one test. -/
  unique : ∀ i line, lines[i]? = some line → (∃ p ∈ patterns, p.search? line ≠ none) →
    ∃! t, t ∈ tests ∧ t.line = (i + 1 : Nat)

theorem isListing_all (lines : List String) (patterns : List Pattern) (file : Path)
    (language : String) :
    IsListing lines patterns file language (all lines patterns file language) where
  ascending := pairwise_allFrom lines 1
  mem_iff t := by
    rw [all, mem_allFrom]
    constructor
    · rintro ⟨i, line, f, there, found, rfl⟩
      obtain ⟨m, first, rfl⟩ := inLine_eq_some_iff.mp found
      exact ⟨i, line, m, there, first, by rw [Nat.add_comm 1]; rfl⟩
    · rintro ⟨i, line, m, there, first, rfl⟩
      exact ⟨i, line, _, there, inLine_eq_some_iff.mpr ⟨m, first, rfl⟩, by
        rw [Nat.add_comm 1]; rfl⟩
  unique i line there := by
    rintro ⟨p, mem, matched⟩
    obtain ⟨f, found⟩ : ∃ f, inLine patterns line = some f := by
      refine Option.ne_none_iff_exists'.mp fun missed => matched ?_
      exact inLine_eq_none_iff.mp missed p mem
    refine ⟨infoOf file language (i + 1) f, ⟨mem_allFrom.mpr ⟨i, line, f, there, found, by
      rw [Nat.add_comm 1]⟩, rfl⟩, ?_⟩
    rintro t ⟨mem, place⟩
    obtain ⟨j, line', f', there', found', rfl⟩ := mem_allFrom.mp mem
    obtain rfl : i = j := by simp only [infoOf] at place; omega
    obtain rfl : line = line' := Option.some.inj (there.symm.trans there')
    obtain rfl : f = f' := Option.some.inj (found.symm.trans found')
    rw [Nat.add_comm 1]

end Proctor.Detection

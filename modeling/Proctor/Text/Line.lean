/-!
# Lines

Two ways of cutting a text into lines live here. `splitOn` cuts at every
occurrence of one separator and keeps the last piece, empty or not; it serves
bytes as well as characters. `lines` cuts at every line boundary of Unicode, with
no empty line after the last boundary, once `unifyBreaks` has turned the three
usual line ends into one.
-/

namespace Proctor.Text

/-- Cut at each separator: `piece` is the current piece and `done` the finished
ones, both in reverse. -/
def splitOnFrom [BEq α] (sep : α) (piece : List α) (done : List (List α)) :
    List α → List (List α)
  | [] => (piece.reverse :: done).reverse
  | x :: rest =>
    if x == sep then splitOnFrom sep [] (piece.reverse :: done) rest
    else splitOnFrom sep (x :: piece) done rest

/-- The pieces between separators, one more than there are separators. -/
def splitOn [BEq α] (sep : α) (xs : List α) : List (List α) :=
  splitOnFrom sep [] [] xs

/-- The pieces joined with a separator between them. -/
def joinWith (sep : List α) : List (List α) → List α
  | [] => []
  | [piece] => piece
  | piece :: rest => piece ++ sep ++ joinWith sep rest

/-- Carriage returns, alone or before a line feed, become line feeds. -/
def unifyBreaksFrom (done : List Char) : List Char → List Char
  | [] => done.reverse
  | '\r' :: '\n' :: rest => unifyBreaksFrom ('\n' :: done) rest
  | '\r' :: rest => unifyBreaksFrom ('\n' :: done) rest
  | c :: rest => unifyBreaksFrom (c :: done) rest

/-- A text whose only line ends are line feeds. -/
def unifyBreaks (cs : List Char) : List Char :=
  unifyBreaksFrom [] cs

/-- A character at which a line ends. -/
def isLineBreak (c : Char) : Bool :=
  let n := c.toNat
  (10 ≤ n && n ≤ 13) || (28 ≤ n && n ≤ 30) || n == 0x85 || n == 0x2028 || n == 0x2029

/-- Cut at each line boundary: `current` is the current line and `done` the
finished ones, both in reverse. -/
def linesFrom (current : List Char) (done : List (List Char)) : List Char → List (List Char)
  | [] => if current.isEmpty then done.reverse else (current.reverse :: done).reverse
  | '\r' :: '\n' :: rest => linesFrom [] (current.reverse :: done) rest
  | c :: rest =>
    if isLineBreak c then linesFrom [] (current.reverse :: done) rest
    else linesFrom (c :: current) done rest

/-- The lines of a text, without their boundaries. -/
def lines (cs : List Char) : List (List Char) :=
  linesFrom [] [] cs

theorem splitOnFrom_done [BEq α] (sep : α) (piece : List α) (done : List (List α)) (xs : List α) :
    splitOnFrom sep piece done xs = done.reverse ++ splitOnFrom sep piece [] xs := by
  induction xs generalizing piece done with
  | nil => simp [splitOnFrom]
  | cons x rest ih =>
    simp only [splitOnFrom]
    split
    · rw [ih, ih [] [piece.reverse]]
      simp
    · exact ih _ _

@[simp] theorem splitOn_nil [BEq α] (sep : α) : splitOn sep ([] : List α) = [[]] := rfl

theorem splitOnFrom_eq [BEq α] (sep : α) (piece xs : List α) :
    splitOnFrom sep piece [] xs = xs.splitOnPPrepend (· == sep) piece := by
  induction xs generalizing piece with
  | nil => rfl
  | cons x rest ih =>
    rw [splitOnFrom, List.splitOnPPrepend_cons_eq_if, splitOnFrom_done, ih, ih]
    simp only [List.splitOnPPrepend_nil_right, List.reverse_singleton, List.singleton_append]

/-- The pieces are those of the library. -/
theorem splitOn_eq [BEq α] (sep : α) (xs : List α) : splitOn sep xs = xs.splitOn sep :=
  splitOnFrom_eq sep [] xs

theorem splitOn_ne_nil [BEq α] (sep : α) (xs : List α) : splitOn sep xs ≠ [] := by
  rw [splitOn_eq]
  exact List.splitOn_ne_nil sep xs

/-- Where a text goes on, what follows its last separator goes on. -/
theorem splitOn_append [BEq α] (sep : α) (xs ys : List α) :
    splitOn sep (xs ++ ys) =
      (splitOn sep xs).dropLast ++ splitOn sep ((splitOn sep xs).getLast?.getD [] ++ ys) := by
  simp only [splitOn_eq]
  induction xs with
  | nil => simp
  | cons x rest ih =>
    obtain ⟨piece, pieces, cut⟩ := List.exists_cons_of_ne_nil (List.splitOn_ne_nil sep rest)
    rw [List.cons_append, List.splitOn_cons_eq_if_modifyHead, List.splitOn_cons_eq_if_modifyHead,
      ih, cut]
    split
    · rfl
    · cases pieces with
      | nil => simp_all [List.splitOn_cons_eq_if_modifyHead]
      | cons => rfl

/-- No piece holds a separator. -/
theorem not_mem_of_mem_splitOn [BEq α] [LawfulBEq α] {sep : α} {xs piece : List α}
    (found : piece ∈ splitOn sep xs) : sep ∉ piece := by
  rw [splitOn_eq] at found
  induction xs generalizing piece with
  | nil =>
    obtain rfl : piece = [] := by simpa using found
    exact List.not_mem_nil
  | cons x rest ih =>
    obtain ⟨first, others, cut⟩ := List.exists_cons_of_ne_nil (List.splitOn_ne_nil sep rest)
    rw [List.splitOn_cons_eq_if_modifyHead] at found
    split at found
    case isTrue =>
      obtain rfl | found := List.mem_cons.mp found
      · exact List.not_mem_nil
      · exact ih found
    case isFalse other =>
      rw [cut] at found ih
      obtain rfl | found := List.mem_cons.mp found
      · have clean := ih List.mem_cons_self
        simpa [clean] using Ne.symm (beq_eq_false_iff_ne.mp (by simpa using other))
      · exact ih (List.mem_cons_of_mem first found)

end Proctor.Text

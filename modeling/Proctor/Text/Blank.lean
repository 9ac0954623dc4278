/-!
# Blanks

The blanks of Unicode: spaces, tabulators, line and paragraph separators and the
four information separators. A text is trimmed, indented and split into words by
this one class.
-/

namespace Proctor.Text

/-- A character that separates words. -/
def isBlank (c : Char) : Bool :=
  let n := c.toNat
  (9 ≤ n && n ≤ 13) || (28 ≤ n && n ≤ 32) || n == 0x85 || n == 0xa0 || n == 0x1680 ||
    (0x2000 ≤ n && n ≤ 0x200a) || n == 0x2028 || n == 0x2029 || n == 0x202f || n == 0x205f ||
    n == 0x3000

/-- A text without its leading blanks. -/
def stripStart (cs : List Char) : List Char :=
  cs.dropWhile isBlank

/-- A text without its final characters of the given class. -/
def stripEndWhile (p : Char → Bool) (cs : List Char) : List Char :=
  (cs.reverse.dropWhile p).reverse

/-- A text without the blanks at its two ends. -/
def strip (cs : List Char) : List Char :=
  stripEndWhile isBlank (stripStart cs)

/-- The number of leading blanks. -/
def indent (cs : List Char) : Nat :=
  (cs.takeWhile isBlank).length

/-- Does the text hold nothing but blanks? -/
def isBlankText (cs : List Char) : Bool :=
  cs.all isBlank

/-- The words of a text, given the letters of the current word in reverse. -/
def wordsFrom (current : List Char) : List Char → List (List Char)
  | [] => if current.isEmpty then [] else [current.reverse]
  | c :: rest =>
    if isBlank c then
      if current.isEmpty then wordsFrom [] rest
      else current.reverse :: wordsFrom [] rest
    else wordsFrom (c :: current) rest

/-- The maximal runs of characters that are no blanks, in order. -/
def words (cs : List Char) : List (List Char) :=
  wordsFrom [] cs

@[simp] theorem words_nil : words [] = [] := rfl

@[simp] theorem indent_nil : indent [] = 0 := rfl

theorem drop_indent (cs : List Char) : cs.drop (indent cs) = stripStart cs := by
  have parts : cs.takeWhile isBlank ++ cs.dropWhile isBlank = cs :=
    List.takeWhile_append_dropWhile
  calc cs.drop (indent cs)
      = (cs.takeWhile isBlank ++ cs.dropWhile isBlank).drop (cs.takeWhile isBlank).length := by
        rw [parts, indent]
    _ = stripStart cs := List.drop_left

theorem indent_stripStart (cs : List Char) : indent (stripStart cs) = 0 := by
  induction cs with
  | nil => rfl
  | cons c rest ih =>
    rw [stripStart, List.dropWhile_cons]
    cases blank : isBlank c with
    | true => exact ih
    | false => simp [indent, blank]

theorem stripStart_of_indent {cs : List Char} (margin : indent cs = 0) : stripStart cs = cs := by
  cases cs with
  | nil => rfl
  | cons c rest =>
    cases blank : isBlank c with
    | true => simp [indent, blank] at margin
    | false => simp [stripStart, blank]

theorem indent_append_of_blank {gap : List Char} (blank : ∀ c ∈ gap, isBlank c)
    (rest : List Char) : indent (gap ++ rest) = gap.length + indent rest := by
  rw [indent, List.takeWhile_append_of_pos blank, List.length_append, indent]

theorem stripStart_append_of_blank {gap : List Char} (blank : ∀ c ∈ gap, isBlank c)
    (rest : List Char) : stripStart (gap ++ rest) = stripStart rest := by
  rw [stripStart, List.dropWhile_append_of_pos blank, stripStart]

end Proctor.Text

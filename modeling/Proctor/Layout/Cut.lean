import Proctor.Text.Blank
import Proctor.Text.Cells

/-!
# Cutting text to a width

Widths are counted in cells. A text is brought to a width by blanks at its end, or
by a cut. Where a wide character would stand half inside, a blank takes its place.
-/

namespace Proctor.Layout

/-- Some blanks. -/
def blanks (n : Nat) : List Char := List.replicate n ' '

/-- The beginning of a text that fills a width. It is looked for by halving: the
place lies between `low` and `high`, and the first argument bounds the steps. Of
characters without a cell at the cut, the search decides which stay. -/
def cutBetween (cs : List Char) (width : Nat) : Nat → Nat → Nat → List Char
  | 0, _, _ => cs.take width
  | n + 1, low, high =>
    let middle := (low + high) / 2
    let head := cs.take (middle + 1)
    let size := Text.cells head
    let last := (head.getLast?.map Text.charCells).getD 0
    if size == width + 1 && last == 2 then head.dropLast ++ [' ']
    else if size == width then head
    else if size > width then cutBetween cs width n low middle
    else cutBetween cs width n middle high

/-- The text brought to a width. -/
def fit (width : Nat) (cs : List Char) : List Char :=
  if width == 0 then []
  else
    let size := Text.cells cs
    if size == width then cs
    else if size < width then cs ++ blanks (width - size)
    else cutBetween cs width (cs.length + 1) 0 cs.length

/-- The text cut where it is wider than a width. -/
def crop (width : Nat) (cs : List Char) : List Char :=
  if Text.cells cs > width then fit width cs else cs

/-- The text cut where it is wider than a width, with dots in the last cell. -/
def shorten (width : Nat) (cs : List Char) : List Char :=
  if Text.cells cs > width then crop width (fit (width - 1) cs ++ ['…']) else cs

/-- Characters that are not printed. -/
def isSilent (c : Char) : Bool :=
  let n := c.toNat
  n == 7 || n == 8 || (11 ≤ n && n ≤ 13)

/-- A text as it is printed. -/
def printed (s : String) : List Char := s.toList.filter (!isSilent ·)

/-- A text in which every line feed is a blank. -/
def onOneLine (cs : List Char) : List Char := cs.map fun c => if c == '\n' then ' ' else c

/-- Tabulators made into blanks, the next stop being at a multiple of eight cells. -/
def expandTabsFrom (column : Nat) : List Char → List Char
  | [] => []
  | c :: rest =>
    if c == '\t' then
      let n := 8 - column % 8
      blanks n ++ expandTabsFrom (column + n) rest
    else c :: expandTabsFrom (column + Text.charCells c) rest

/-- Tabulators of a line made into blanks. -/
def expandTabs (cs : List Char) : List Char := expandTabsFrom 0 cs

end Proctor.Layout

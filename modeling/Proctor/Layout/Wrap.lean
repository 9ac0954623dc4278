import Proctor.Layout.Cut
import Proctor.Text.Line

/-!
# Wrapping lines

A line that is too wide is broken before words. A word that does not fit into a
line of its own is either folded, that is cut into pieces as wide as the line, or
left on a line of its own, to be cut there.
-/

namespace Proctor.Layout

/-- What becomes of a word that is wider than the line. -/
inductive Overflow where
  /-- It is cut into pieces. -/
  | fold
  /-- It is cut off, with dots at the end. -/
  | dots
  deriving DecidableEq, Repr

/-- The words of a line: blanks before the first belong to it, blanks after a word
belong to that word. The first argument bounds their number. -/
def chunksFrom : Nat → List Char → List (List Char)
  | 0, _ => []
  | n + 1, cs =>
    let before := cs.takeWhile Text.isBlank
    let rest := cs.drop before.length
    let word := rest.takeWhile (!Text.isBlank ·)
    let rest := rest.drop word.length
    let after := rest.takeWhile Text.isBlank
    if word.isEmpty then []
    else (before ++ word ++ after) :: chunksFrom n (rest.drop after.length)

/-- The words of a line with the blanks around them. -/
def chunks (cs : List Char) : List (List Char) := chunksFrom (cs.length + 1) cs

/-- The width of a word without the blanks after it. -/
def bareCells (word : List Char) : Nat := Text.cells (Text.stripEndWhile Text.isBlank word)

/-- A word cut into pieces of at most the given width: `piece` is the current one,
`size` its width. -/
def foldFrom (width : Nat) (piece : List Char) (size : Nat) : List Char → List (List Char)
  | [] => [piece.reverse]
  | c :: rest =>
    let w := Text.charCells c
    if size + w > width then piece.reverse :: foldFrom width [c] w rest
    else foldFrom width (c :: piece) (size + w) rest

/-- A word cut into pieces. -/
def folded (width : Nat) (word : List Char) : List (List Char) := foldFrom width [] 0 word

/-- The places of the breaks before all pieces of a word; there is none at the
beginning of the line. -/
def pieceBreaks : Nat → List (List Char) → List Nat
  | _, [] => []
  | place, p :: rest =>
    let breaks := pieceBreaks (place + p.length) rest
    if place == 0 then breaks else place :: breaks

/-- The places before which a line is broken: `used` cells of the current line are
taken, and the words that remain begin at `place`. -/
def breaksFrom (overflow : Overflow) (width used place : Nat) : List (List Char) → List Nat
  | [] => []
  | word :: rest =>
    let size := bareCells word
    let whole := Text.cells word
    let next := place + word.length
    if used + size ≤ width then breaksFrom overflow width (used + whole) next rest
    else if size > width then
      match overflow with
      | .fold =>
        let pieces := folded width word
        pieceBreaks place pieces ++
          breaksFrom overflow width (Text.cells (pieces.getLast?.getD [])) next rest
      | .dots =>
        let more := breaksFrom overflow width whole next rest
        if place == 0 then more else place :: more
    else if used != 0 && place != 0 then
      place :: breaksFrom overflow width whole next rest
    else breaksFrom overflow width used next rest

/-- A line cut at some places, which count from `start`. -/
def cutAt (start : Nat) (cs : List Char) : List Nat → List (List Char)
  | [] => [cs]
  | place :: rest =>
    cs.take (place - start) :: cutAt place (cs.drop (place - start)) rest

/-- A line without the blanks at its end that stand beyond the width, counted in
characters. -/
def trimEnd (width : Nat) (cs : List Char) : List Char :=
  if cs.length > width then
    let trailing := (cs.reverse.takeWhile Text.isBlank).length
    cs.take (cs.length - min trailing (cs.length - width))
  else cs

/-- A line that is too wide, cut. -/
def cutOff (overflow : Overflow) (width : Nat) (cs : List Char) : List Char :=
  match overflow with
  | .fold => crop width cs
  | .dots => shorten width cs

/-- One line as the lines it is printed on. -/
def wrapLine (overflow : Overflow) (width : Nat) (line : List Char) : List (List Char) :=
  let line := expandTabs line
  (cutAt 0 line (breaksFrom overflow width 0 0 (chunks line))).map fun l =>
    cutOff overflow width (trimEnd width l)

/-- A text as the lines it is printed on. -/
def wrap (overflow : Overflow) (width : Nat) (cs : List Char) : List (List Char) :=
  (Text.splitOn '\n' cs).flatMap (wrapLine overflow width)

/-- A text as lines that are cut and not wrapped. -/
def unwrapped (width : Nat) (cs : List Char) : List (List Char) :=
  (Text.splitOn '\n' cs).map fun l => shorten width (trimEnd width (expandTabs l))

end Proctor.Layout

import Proctor.Layout.Wrap

/-!
# Blocks of text

Lines across the page, boxes with a title in their frame, and tables. Everything is
given as lines of characters.
-/

namespace Proctor.Layout

/-- A line of characters. -/
abbrev Line := List Char

/-- A line across the page after a title, which is cut with dots at its end. -/
def rule (width : Nat) (title : List Char) : Line :=
  if width ≤ 2 then List.replicate width '─'
  else
    let title := shorten (width - 2) (expandTabs (onOneLine title)) ++ [' ']
    fit width (title ++ List.replicate (width - Text.cells title) '─')

/-- A title of a box in the middle of a line of the frame. -/
def framed (width : Nat) (title : List Char) : Line :=
  let title := crop width title
  let extra := width - Text.cells title
  List.replicate (extra / 2) '─' ++ title ++ List.replicate (extra - extra / 2) '─'

/-- The title of a box with a blank on either side. -/
def paddedTitle (title : List Char) : List Char :=
  ' ' :: (expandTabs (onOneLine title) ++ [' '])

/-- The upper or lower edge of a box. -/
def edge (left right : Char) (width : Nat) (title : List Char) : Line :=
  if width ≤ 4 then left :: (List.replicate (width - 2) '─' ++ [right])
  else left :: '─' :: (framed (width - 4) title ++ ['─', right])

/-- A box on a page of the given width, as wide as wished if the page allows it. A
title that needs more room than the wish makes the box wider. -/
def panel (page wished : Nat) (title subtitle : List Char) (body : List (List Char)) :
    List Line :=
  let title := paddedTitle title
  let inner := min (page - 2) (max (min page wished - 2) (Text.cells title + 2))
  let width := inner + 2
  let room := inner - 2
  let lines := body.flatMap (wrap .fold room)
  [edge '╭' '╮' width title] ++
    lines.map (fun l => '│' :: (fit inner (' ' :: (fit room l ++ [' '])) ++ ['│'])) ++
    [edge '╰' '╯' width (paddedTitle subtitle)]

/-- The width of the widest line of a text. -/
def textWidth (cs : List Char) : Nat :=
  ((Text.lines cs).map Text.cells).foldl max 0

/-- The width a column asks for, blanks around its cells included, when it can have
at most `room`. -/
def columnWidth (room : Nat) (cells : List (List Char)) : Nat :=
  if room < 1 then 0
  else if room < 3 then room
  else (cells.map fun c => min room (min room (textWidth c) + 2)).foldl max 0

/-- The widths of two columns of which the second gives way first, when both
together can have at most `room`. -/
def columnWidths (room : Nat) (first second : List (List Char)) : Nat × Nat :=
  let a := max 1 (columnWidth room first)
  let b := max 1 (columnWidth room second)
  if a + b ≤ room then (a, b)
  else
    let b' := b - min b (a + b - room)
    let a' := a - min a (a + b' - room)
    (columnWidth a' first, columnWidth b' second)

/-- A cell as lines that fill its width, with a blank on either side. -/
def cellLines (wraps : Bool) (width : Nat) (cs : List Char) : List Line :=
  let room := width - 2
  let lines := if wraps then wrap .dots room cs else unwrapped room cs
  lines.map fun l => fit width (' ' :: (fit room l ++ [' ']))

/-- The lines of a row of two cells, of which only the second wraps. -/
def rowLines (bar : Char) (widths : Nat × Nat) (first second : List Char) : List Line :=
  let a := cellLines false widths.1 first
  let b := cellLines true widths.2 second
  (List.range (max a.length b.length)).map fun i =>
    bar :: (a[i]?.getD (blanks widths.1) ++ bar :: (b[i]?.getD (blanks widths.2) ++ [bar]))

/-- A line between rows. -/
def separator (left fill joint right : Char) (widths : Nat × Nat) : Line :=
  left :: (List.replicate widths.1 fill ++ joint :: (List.replicate widths.2 fill ++ [right]))

/-- A table of two columns with a heading. -/
def table (page : Nat) (heading : List Char × List Char) (rows : List (List Char × List Char)) :
    List Line :=
  let all := heading :: rows
  let widths := columnWidths (page - 3) (all.map (·.1)) (all.map (·.2))
  [separator '┏' '━' '┳' '┓' widths] ++ rowLines '┃' widths heading.1 heading.2 ++
    [separator '┡' '━' '╇' '┩' widths] ++
    rows.flatMap (fun r => rowLines '│' widths r.1 r.2) ++
    [separator '└' '─' '┴' '┘' widths]

end Proctor.Layout

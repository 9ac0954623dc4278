import Proctor.Text.Line

/-!
# Globs

File name patterns: a star stands for any text, a question mark for any one
character, and brackets for one character of a class. There is no way to quote a
special character other than to put it into brackets.

A class is cut at its hyphens: each hyphen with a character on both sides makes a
range, a range that runs backwards is taken out together with its ends, and a
class of which nothing is left matches nothing (or, negated, everything).
-/

namespace Proctor.Glob

/-- One element of a pattern. -/
inductive Piece where
  | star
  | anyOne
  | char (c : Char)
  /-- One character within, or without, some ranges. -/
  | ranges (negated : Bool) (within : List (Char × Char))
  deriving DecidableEq, Repr

namespace Piece

/-- Does the element, which is no star, admit the character? -/
def holds : Piece → Char → Bool
  | star, _ => false
  | anyOne, _ => true
  | char x, c => x == c
  | ranges negated within, c =>
    within.any (fun r => r.1.toNat ≤ c.toNat && c.toNat ≤ r.2.toNat) != negated

end Piece

/-- Does a suffix of the text satisfy the predicate? -/
def anySuffix (p : List Char → Bool) : List Char → Bool
  | [] => p []
  | c :: rest => p (c :: rest) || anySuffix p rest

/-- Do the elements match the whole text? -/
def matchPieces : List Piece → List Char → Bool
  | [], cs => cs.isEmpty
  | .star :: rest, cs => anySuffix (matchPieces rest) cs
  | _ :: _, [] => false
  | p :: rest, c :: cs => p.holds c && matchPieces rest cs

/-- The place of the first hyphen at or after index `n`, counted from `i`. -/
def hyphenFrom (n i : Nat) : List Char → Option Nat
  | [] => none
  | c :: rest => if n ≤ i && c == '-' then some i else hyphenFrom n (i + 1) rest

/-- Cut the inside of a class at its hyphens: the text up to the first hyphen at or
after `from_`, then the same with the rest, in which a hyphen counts from the third
character on. The first argument bounds the number of cuts. -/
def chunks : Nat → Nat → List Char → List (List Char)
  | 0, _, cs => [cs]
  | n + 1, from_, cs =>
    match hyphenFrom from_ 0 cs with
    | none => [cs]
    | some k => cs.take k :: chunks n 2 (cs.drop (k + 1))

/-- A final empty chunk gives its hyphen to the chunk before it. -/
def closeChunks : List (List Char) → List (List Char)
  | [a, []] => [a ++ ['-']]
  | a :: rest => a :: closeChunks rest
  | [] => []

/-- Take out ranges that run backwards, from the last to the first. -/
def dropBackward : List (List Char) → List (List Char)
  | [] => []
  | a :: rest =>
    match dropBackward rest with
    | [] => [a]
    | b :: more =>
      match a.getLast?, b.head? with
      | some x, some y => if y < x then (a.dropLast ++ b.drop 1) :: more else a :: b :: more
      | _, _ => a :: b :: more

/-- A character of a class, or a hyphen that makes a range. -/
inductive Mark where
  | lit (c : Char)
  | hyphen

/-- The character a mark is written with. -/
def Mark.char : Mark → Char
  | lit c => c
  | hyphen => '-'

/-- Chunks with their hyphens between them. -/
def marks : List (List Char) → List Mark
  | [] => []
  | [a] => a.map .lit
  | a :: rest => a.map .lit ++ .hyphen :: marks rest

/-- The ranges that marks describe. -/
def rangesOf : List Mark → List (Char × Char)
  | x :: .hyphen :: y :: rest => (x.char, y.char) :: rangesOf rest
  | x :: rest => (x.char, x.char) :: rangesOf rest
  | [] => []

/-- The class with the given inside. -/
def classOf (inside : List Char) : Piece :=
  let whole :=
    if inside.contains '-' then
      let from_ := if inside.head? == some '!' then 2 else 1
      marks (dropBackward (closeChunks (chunks inside.length from_ inside)))
    else inside.map .lit
  match whole with
  | .lit '!' :: rest => .ranges true (rangesOf rest)
  | rest => .ranges false (rangesOf rest)

/-- The inside of a class and what follows its closing bracket; a bracket that
comes first, or right after the negation, belongs to the inside. -/
def bracket? (cs : List Char) : Option (List Char × List Char) :=
  let lead := match cs with
    | '!' :: ']' :: _ => 2
    | '!' :: _ => 1
    | ']' :: _ => 1
    | _ => 0
  let tail := cs.drop lead
  let inside := tail.takeWhile (· != ']')
  match tail.drop inside.length with
  | [] => none
  | _ :: rest => some (cs.take lead ++ inside, rest)

/-- The elements of a pattern; the first argument bounds their number. -/
def piecesFrom : Nat → List Char → List Piece
  | 0, _ => []
  | _, [] => []
  | n + 1, '*' :: rest => .star :: piecesFrom n rest
  | n + 1, '?' :: rest => .anyOne :: piecesFrom n rest
  | n + 1, '[' :: rest =>
    match bracket? rest with
    | none => .char '[' :: piecesFrom n rest
    | some (inside, rest) => classOf inside :: piecesFrom n rest
  | n + 1, c :: rest => .char c :: piecesFrom n rest

/-- The elements of a pattern. -/
def pieces (pattern : String) : List Piece :=
  piecesFrom pattern.length pattern.toList

/-- Does the pattern match the whole name? -/
def holds (pattern name : String) : Bool :=
  matchPieces (pieces pattern) name.toList

end Proctor.Glob

/-!
# Similar texts

How alike two texts are: the share of their characters that lie in common blocks,
where the longest common block is taken first and the same is done with what lies
before it and what lies behind it. Of equally long blocks the one that starts first
in the first text counts, and then the one that starts first in the second.
-/

namespace Proctor.Text

/-- How many characters two texts have in common at their beginnings. -/
def commonStart : List Char → List Char → Nat
  | a :: as, b :: bs => if a = b then commonStart as bs + 1 else 0
  | _, _ => 0

/-- A common block: where it starts in either text, and its length. -/
structure CommonBlock where
  left : Nat
  right : Nat
  size : Nat
  deriving DecidableEq, Repr

/-- The longest of some blocks, the first one of equals. -/
def longestOf (blocks : List CommonBlock) : CommonBlock :=
  blocks.foldl (fun best b => if best.size < b.size then b else best) ⟨0, 0, 0⟩

/-- The longest common block of two texts. -/
def longestBlock (a b : List Char) : CommonBlock :=
  longestOf ((List.range a.length).flatMap fun i =>
    (List.range b.length).map fun j => ⟨i, j, commonStart (a.drop i) (b.drop j)⟩)

/-- How many characters lie in common blocks; the first argument bounds the number of
blocks that are taken one inside the other. -/
def matchedWithin : Nat → List Char → List Char → Nat
  | 0, _, _ => 0
  | fuel + 1, a, b =>
    let block := longestBlock a b
    if block.size = 0 then 0
    else matchedWithin fuel (a.take block.left) (b.take block.right) + block.size +
      matchedWithin fuel (a.drop (block.left + block.size)) (b.drop (block.right + block.size))

/-- How many characters of two texts lie in common blocks. -/
def matched (a b : List Char) : Nat := matchedWithin a.length a b

/-- A text beside another one: how many of so many characters match. -/
structure Likeness where
  text : String
  matched : Nat
  total : Nat
  deriving DecidableEq, Repr

namespace Likeness

/-- How like a candidate is to a text. -/
def ofText (text candidate : String) : Likeness :=
  ⟨candidate, Text.matched candidate.toList text.toList, candidate.length + text.length⟩

/-- Do at least three fifths of the characters match? -/
def isClose (x : Likeness) : Bool := 3 * x.total ≤ 10 * x.matched

/-- Is the first likeness the greater one? Of equal ones that of the greater text is. -/
def atLeast (x y : Likeness) : Bool :=
  if x.matched * y.total = y.matched * x.total then y.text ≤ x.text
  else y.matched * x.total < x.matched * y.total

end Likeness

/-- The candidates that are close to a text, at most three, in order. -/
def closest (text : String) (candidates : List String) : List String :=
  let close := (candidates.map (Likeness.ofText text)).filter Likeness.isClose
  (((close.mergeSort Likeness.atLeast).take 3).map (·.text)).mergeSort (· ≤ ·)

end Proctor.Text

import Proctor.TestInfo
import Proctor.Pattern

/-!
# Locating tests

Which lines of a buffer declare a test, and which of them governs a cursor: the
last one at or above it. Of several patterns that match a line the first one
counts.
-/

namespace Proctor.Detection

/-- What a pattern found in a line: the name and the column of the match. -/
structure Find where
  name : Option String
  column : Nat
  deriving DecidableEq, Repr

/-- What the first pattern that matches a line finds in it. -/
def inLine (patterns : List Pattern) (line : String) : Option Find :=
  patterns.findSome? fun p => (p.search? line).map fun m => ⟨Pattern.nameIn m, m.start + 1⟩

/-- The test a find stands for. -/
def infoOf (file : Path) (language : String) (line : Nat) (f : Find) : TestInfo :=
  { name := f.name, file, line, column := f.column, language }

/-- All tests of a buffer whose first line has the given number, in order. -/
def allFrom (patterns : List Pattern) (file : Path) (language : String) (number : Nat) :
    List String → List TestInfo
  | [] => []
  | line :: rest =>
    match inLine patterns line with
    | some f => infoOf file language number f :: allFrom patterns file language (number + 1) rest
    | none => allFrom patterns file language (number + 1) rest

/-- All tests of a buffer, in order, at most one a line. -/
def all (lines : List String) (patterns : List Pattern) (file : Path) (language : String) :
    List TestInfo :=
  allFrom patterns file language 1 lines

/-- The first test in lines that are given from the last to the first; the last
one has the given number. -/
def nearestIn (patterns : List Pattern) (file : Path) (language : String) :
    Nat → List String → Option TestInfo
  | number, line :: above =>
    match inLine patterns line with
    | some f => some (infoOf file language number f)
    | none => nearestIn patterns file language (number - 1) above
  | _, [] => none

/-- The test that governs a cursor: the last one at or above its line. -/
def nearest (lines : List String) (cursor : Int) (patterns : List Pattern) (file : Path)
    (language : String) : Option TestInfo :=
  let reached := lines.take cursor.toNat
  nearestIn patterns file language reached.length reached.reverse

end Proctor.Detection

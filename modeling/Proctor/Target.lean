import Proctor.Error
import Proctor.Path
import Proctor.Text.Digit

/-!
# Batch targets

A target names a file and a line in it, with a colon between them. The last colon
counts, so a path may hold others.
-/

namespace Proctor

/-- A line of a file. -/
structure Target where
  file : Path
  line : Nat
  deriving DecidableEq, Repr

namespace Target

/-- A text cut at its last colon, if it has one. -/
def cut? (cs : List Char) : Option (List Char × List Char) :=
  let last := (cs.reverse.takeWhile (· != ':')).reverse
  if last.length = cs.length then none
  else some (cs.take (cs.length - last.length - 1), last)

/-- Read a target. Something that looks like a number and is none is an error of its
own. -/
def parse (s : String) : Except Error Target :=
  let refused := Error.badTarget s
  match cut? s.toList with
  | none => .error refused
  | some (file, digits) =>
    if digits.isEmpty || !digits.all Text.isDigitLike then .error refused
    else match Text.parseNat? digits with
      | none => .error .noNumber
      | some 0 => .error refused
      | some (n + 1) => .ok ⟨Path.parse (String.ofList file), n + 1⟩

end Target

end Proctor

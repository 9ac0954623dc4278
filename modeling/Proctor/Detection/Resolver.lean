import Proctor.Detection.Scope
import Proctor.Registry

/-!
# Resolving contexts

The context of a test in the language of its file. A resolver knows some
strategies; a profile that asks for another one is misconfigured.
-/

namespace Proctor.Detection

/-- What encloses a test of a language. Without a profile, or with one that names
no strategy, there is no context. -/
def resolve (known : List Strategy) (registry : Registry) (lines : List String) (line : Int)
    (language : String) (file : Option Path) : Except Error (Option Context) :=
  match registry.find? language with
  | none => .ok none
  | some p =>
    match p.context with
    | none => .ok none
    | some s =>
      if known.contains s then enclosing s lines line p file
      else .error (.misconfigured (.unknownStrategy s.name language
        ((known.map (·.name)).mergeSort (· ≤ ·))))

end Proctor.Detection

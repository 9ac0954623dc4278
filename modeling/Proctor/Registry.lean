import Proctor.Path
import Proctor.Profile

/-!
# Registries

The profiles that are known, by tag, in the order in which their tags were first
registered. Registering a tag again replaces its profile and keeps its place.
-/

namespace Proctor

/-- Profiles by tag. -/
structure Registry where
  entries : List (String × Profile) := []

namespace Registry

/-- Put a profile under a tag, in the place of the one it had. -/
def put (tag : String) (p : Profile) : List (String × Profile) → List (String × Profile)
  | [] => [(tag, p)]
  | (k, q) :: rest => if k = tag then (k, p) :: rest else (k, q) :: put tag p rest

/-- The registry with a profile under a tag. -/
def register (r : Registry) (tag : String) (p : Profile) : Registry :=
  ⟨put tag p r.entries⟩

/-- What a registry is offered for a tag: a profile, or a value that is none. -/
inductive Offer where
  | profile (p : Profile)
  | other (v : Value)

/-- Register what is offered if it is a profile, and refuse it otherwise. -/
def offer (r : Registry) (tag : String) : Offer → Registry × Except Error Unit
  | .profile p => (r.register tag p, .ok ())
  | .other v => (r, .error (.misconfigured (.notProfile tag v.typeName)))

/-- The registry with some profiles registered one after the other. -/
def registerAll (r : Registry) (ps : List (String × Profile)) : Registry :=
  ps.foldl (fun r p => r.register p.1 p.2) r

/-- The registry of some profiles. -/
def ofList (ps : List (String × Profile)) : Registry :=
  registerAll {} ps

/-- The tags in order. -/
def tags (r : Registry) : List String := r.entries.map (·.1)

/-- The profile of a tag, if it has one. -/
def find? (r : Registry) (tag : String) : Option Profile := r.entries.lookup tag

/-- Is there a profile under the tag? -/
def contains (r : Registry) (tag : String) : Bool := (r.find? tag).isSome

/-- The tags in alphabetical order. -/
def sortedTags (r : Registry) : List String := r.tags.mergeSort (· ≤ ·)

/-- The profile of a tag. -/
def get (r : Registry) (tag : String) : Except Error Profile :=
  match r.find? tag with
  | some p => .ok p
  | none => .error (.misconfigured (.noProfile tag r.sortedTags))

/-- The ending of a path as profiles list it. -/
def extensionOf (path : Path) : String := Profile.normalExtension path.ending

/-- The first language that claims the ending of a path. -/
def languageFor? (r : Registry) (path : Path) : Option String :=
  let ext := extensionOf path
  if ext.isEmpty then none
  else (r.entries.find? fun e => e.2.extensions.contains ext).map (·.1)

end Registry

end Proctor

import Proctor.ProjectRoot
import Proctor.Proofs.Path

/-!
# Where the root of a project lies

The root of a project is looked for on the way up from a file, so a root that is found lies
above the file as the paths are written, and the file as it is seen from there leads back to
it. Only a marker that is no text can make the search fail.
-/

namespace Proctor.ProjectRoot

variable {tree : FileTree} {markers : List Value} {file start directory : Path}

theorem contains_of_mem_upFrom (found : directory ∈ upFrom tree start) :
    directory.Contains start := by
  unfold upFrom at found
  have first : (if tree.isFile start then start.parent else start).Contains start := by
    split
    · exact start.parent_contains
    · exact ⟨rfl, List.prefix_rfl⟩
  obtain rfl | found := List.mem_cons.mp found
  · exact first
  · exact (Path.contains_of_mem_ancestors found).trans first

theorem mem_of_firstHolding {directories : List Path}
    (found : firstHolding tree markers directories = .ok (some directory)) :
    directory ∈ directories := by
  induction directories with
  | nil => cases found
  | cons first rest ih =>
    unfold firstHolding at found
    cases held : holdsMarker tree first markers with
    | error e => simp [held, bind, Except.bind] at found
    | ok holds =>
      cases holds with
      | true =>
        obtain rfl : first = directory := by
          simpa [held, bind, Except.bind, pure, Except.pure] using found
        exact List.mem_cons_self
      | false =>
        refine List.mem_cons_of_mem first (ih ?_)
        simpa [held, bind, Except.bind] using found

/-- The root of the project of a file lies above it. -/
theorem contains_of_ofFile (found : ofFile tree markers file = .ok (some directory)) :
    directory.Contains file := by
  unfold ofFile find at found
  split at found
  · cases found
  · exact (contains_of_mem_upFrom (mem_of_firstHolding found)).trans file.parent_contains

/-- The file as it is named in commands leads to the file from the root of the project, or
from the directory of the file if the project has no root. -/
theorem child_relative {root : Option Path} (found : ofFile tree markers file = .ok root)
    (readable : ∀ part ∈ file.parts, Path.IsPartText part) :
    (root.getD file.parent).child (relative file root) = file := by
  cases root with
  | none => exact Path.parent_child_name readable
  | some directory =>
    obtain ⟨seen, below, back⟩ := (contains_of_ofFile found).child_relativeTo readable
    rw [relative, Option.bind_some, below]
    exact back

/-! ## When the search fails -/

theorem of_holdsMarker_error {e : Error} (failed : holdsMarker tree directory markers = .error e) :
    e = .wrongType ∧ ∃ m ∈ markers, m.asText? = none := by
  induction markers with
  | nil => cases failed
  | cons m rest ih =>
    unfold holdsMarker at failed
    split at failed
    case h_1 => cases failed
    case h_2 marker rest' same =>
      obtain ⟨rfl, rfl⟩ := List.cons.inj same
      split at failed
      · cases failed
      · obtain ⟨type, m, found, odd⟩ := ih failed
        exact ⟨type, m, List.mem_cons_of_mem _ found, odd⟩
    case h_3 m' rest' odd same =>
      obtain ⟨rfl, rfl⟩ := List.cons.inj same
      refine ⟨(Except.error.inj failed).symm, m, List.mem_cons_self, ?_⟩
      cases m with
      | text s => exact absurd rfl (odd s)
      | _ => rfl

theorem of_firstHolding_error {directories : List Path} {e : Error}
    (failed : firstHolding tree markers directories = .error e) :
    e = .wrongType ∧ ∃ m ∈ markers, m.asText? = none := by
  induction directories with
  | nil => cases failed
  | cons first rest ih =>
    unfold firstHolding at failed
    cases held : holdsMarker tree first markers with
    | error why =>
      obtain rfl : why = e := by simpa [held, bind, Except.bind] using failed
      exact of_holdsMarker_error held
    | ok holds =>
      cases holds with
      | true => simp [held, bind, Except.bind, pure, Except.pure] at failed
      | false => exact ih (by simpa [held, bind, Except.bind] using failed)

/-- Looking for the root of a project fails only over a marker that is no text. -/
theorem of_ofFile_error {e : Error} (failed : ofFile tree markers file = .error e) :
    e = .wrongType ∧ ∃ m ∈ markers, m.asText? = none := by
  unfold ofFile find at failed
  split at failed
  · cases failed
  · obtain ⟨type, m, found, odd⟩ := of_firstHolding_error failed
    obtain found | found := List.mem_append.mp found
    · exact ⟨type, m, found, odd⟩
    · obtain ⟨s, -, rfl⟩ := List.mem_map.mp found
      cases odd

theorem exists_of_ofFile {e : Error} (failed : ofFile tree markers file = .error e) :
    ∃ m ∈ markers, m.asText? = none :=
  (of_ofFile_error failed).2

end Proctor.ProjectRoot

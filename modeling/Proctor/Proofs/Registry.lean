import Mathlib.Data.List.Induction
import Proctor.Proofs.Config.Overlay
import Proctor.Registry

/-!
# Looking up what was registered

To register a profile is to set an entry, so a lookup answers with the profile that was
registered last under the tag, and without one with what there was before.
-/

namespace Proctor.Registry

variable {r : Registry} {tag key : String} {p : Profile} {ps : List (String × Profile)}

theorem put_eq_set (tag : String) (p : Profile) (entries : List (String × Profile)) :
    put tag p entries = Config.set tag p entries := by
  induction entries with
  | nil => rfl
  | cons e rest ih =>
    obtain ⟨k, q⟩ := e
    rw [put, Config.set, ih]

theorem get_eq_ok : r.get tag = .ok p ↔ r.find? tag = some p := by
  unfold get
  cases r.find? tag <;> simp

theorem find?_register :
    (r.register tag p).find? key = if key = tag then some p else r.find? key := by
  rw [find?, register, put_eq_set, Config.lookup_set]
  rfl

@[simp] theorem registerAll_nil : r.registerAll [] = r := rfl

theorem registerAll_append (ps qs : List (String × Profile)) :
    r.registerAll (ps ++ qs) = (r.registerAll ps).registerAll qs :=
  List.foldl_append

/-- Of the profiles that are registered one after the other the last one of a tag counts. -/
theorem find?_registerAll :
    (r.registerAll ps).find? tag = (ps.reverse.lookup tag).or (r.find? tag) := by
  induction ps using List.reverseRecOn with
  | nil => rfl
  | append_singleton ps e ih =>
    obtain ⟨k, q⟩ := e
    rw [registerAll_append, List.reverse_append, List.reverse_singleton, List.singleton_append,
      List.lookup_cons]
    change ((r.registerAll ps).register k q).find? tag = _
    rw [find?_register, ih]
    by_cases same : tag = k
    · simp [same]
    · simp [same, beq_false_of_ne same]

theorem lookup_reverse_eq_none_iff : ps.reverse.lookup tag = none ↔ tag ∉ ps.map (·.1) := by
  rw [Config.lookup_eq_none_iff, Config.keys, List.map_reverse, List.mem_reverse]

/-- Profiles registered in two registries alike hide the differences of the two exactly if each
tag about which they differ is among those registered. -/
theorem find?_registerAll_congr {r' : Registry} :
    (∀ tag, (r.registerAll ps).find? tag = (r'.registerAll ps).find? tag) ↔
      ∀ tag, r.find? tag ≠ r'.find? tag → tag ∈ ps.map (·.1) := by
  refine forall_congr' fun tag => ?_
  rw [find?_registerAll, find?_registerAll]
  cases latest : ps.reverse.lookup tag with
  | none =>
    have absent : tag ∉ ps.map (·.1) := lookup_reverse_eq_none_iff.mp latest
    simp only [Option.none_or]
    constructor
    · intro same differ
      exact absurd same differ
    · intro hidden
      by_contra differ
      exact absent (hidden differ)
  | some p =>
    have present : tag ∈ ps.map (·.1) := by
      by_contra absent
      rw [lookup_reverse_eq_none_iff.mpr absent] at latest
      cases latest
    simp [present]

end Proctor.Registry

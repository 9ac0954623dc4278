import Mathlib.Data.Finset.Card
import Mathlib.Data.Finset.Dedup
import Mathlib.Data.List.Induction
import Proctor.Proofs.Path
import Proctor.Proofs.Registry
import Proctor.Proofs.Text.Character

/-!
# What has been offered to a registry

A registry is an ordered map. Whatever has been offered to it, in whatever order and with
whatever refusals in between, it holds the last profile accepted for each tag, in the order in
which the tags were accepted first. So the language of a path depends on that order as well:
of the tags whose profiles claim its ending, the one that was accepted first counts, although
its profile may have been accepted last.

The ending of a path is compared in small letters and without its dot. No other character is
lowered to a dot, so there is one dot to leave out and no more.
-/

namespace Proctor

/-! ## The ending of a path -/

namespace Path

/-- The ending in small letters, without its dot. -/
def smallEnding (p : Path) : String := String.ofList (Text.lower p.ending).toList.tail

/-- An ending is a dot and something after it that is none. -/
theorem ending_eq (p : Path) :
    p.ending = "" ∨ ∃ c rest, c ≠ '.' ∧ p.ending.toList = '.' :: c :: rest := by
  obtain cut | ⟨b, e, -, -, some_, dotless, cut⟩ := cut_cases p.name.toList
  · exact .inl (by rw [ending, cut])
  · obtain ⟨c, rest, rfl⟩ := List.exists_cons_of_ne_nil some_
    have other : c ≠ '.' := fun dot => dotless (dot ▸ List.mem_cons_self)
    exact .inr ⟨c, rest, other, by rw [ending, cut, String.toList_ofList]⟩

/-- In small letters it is still a dot and something after it that is none. -/
theorem lower_ending (p : Path) :
    p.ending = "" ∨ ∃ c rest, c ≠ '.' ∧ (Text.lower p.ending).toList = '.' :: c :: rest := by
  obtain none_ | ⟨c, rest, other, same⟩ := p.ending_eq
  · exact .inl none_
  · obtain ⟨d, small, lowered, noDot⟩ := Text.exists_lowerFrom_cons other ['.'] rest
    refine .inr ⟨d, small, noDot, ?_⟩
    rw [Text.lower, String.toList_ofList, same, Text.lowerFrom, lowered]
    rfl

/-- There is nothing to compare exactly if there is no ending. -/
theorem smallEnding_eq_empty_iff (p : Path) : p.smallEnding = "" ↔ p.ending = "" := by
  obtain none_ | ⟨c, rest, -, same⟩ := p.lower_ending
  · simp [smallEnding, none_, Text.lower, Text.lowerFrom]
  · have some_ : p.ending ≠ "" := by
      intro none_
      rw [none_] at same
      cases same
    simp [smallEnding, same, some_]

end Path

namespace Registry

variable {r : Registry} {tag : String} {p : Profile}

theorem extensionOf_eq (path : Path) : extensionOf path = path.smallEnding := by
  rw [extensionOf, Profile.normalExtension, Path.smallEnding]
  obtain none_ | ⟨c, rest, other, same⟩ := path.lower_ending
  · rw [none_]
    rfl
  · simp [same, other]

/-! ## The order of the tags -/

/-- A tag that is registered again keeps its place, and a new one follows all others. -/
theorem tags_register (r : Registry) (tag : String) (p : Profile) :
    (r.register tag p).tags = if tag ∈ r.tags then r.tags else r.tags ++ [tag] := by
  change Config.keys (put tag p r.entries) = _
  rw [put_eq_set]
  split
  case isTrue mem => exact Config.keys_set_of_mem mem
  case isFalse absent => exact Config.keys_set_of_not_mem absent

theorem nodup_tags_register (unique : r.tags.Nodup) : (r.register tag p).tags.Nodup := by
  rw [tags_register]
  split
  case isTrue => exact unique
  case isFalse absent =>
    rw [List.nodup_append_comm, List.singleton_append]
    exact List.nodup_cons.mpr ⟨absent, unique⟩

theorem ofList_append_singleton (ps : List (String × Profile)) (tag : String) (p : Profile) :
    ofList (ps ++ [(tag, p)]) = (ofList ps).register tag p := by
  rw [ofList, registerAll_append]
  rfl

theorem nodup_tags_ofList (ps : List (String × Profile)) : (ofList ps).tags.Nodup := by
  induction ps using List.reverseRecOn with
  | nil => exact List.nodup_nil
  | append_singleton ps e ih =>
    rw [ofList_append_singleton]
    exact nodup_tags_register ih

/-- The tags are those registered, each where it came first. -/
theorem tags_ofList (ps : List (String × Profile)) :
    (ofList ps).tags = (ps.map (·.1)).eraseDups := by
  induction ps using List.reverseRecOn with
  | nil => rfl
  | append_singleton ps e ih =>
    rw [ofList_append_singleton, tags_register, ih, List.map_append, List.eraseDups_append]
    by_cases mem : e.1 ∈ ps.map (·.1)
    · rw [if_pos (List.mem_eraseDups.mpr mem)]
      simp [List.removeAll, mem]
    · rw [if_neg (mt List.mem_eraseDups.mp mem)]
      simp [List.removeAll, mem, List.eraseDups_cons]

/-! ## Entries -/

theorem find?_of_mem_entries (unique : r.tags.Nodup) {e : String × Profile}
    (mem : e ∈ r.entries) : r.find? e.1 = some e.2 :=
  Config.lookup_of_mem unique mem

theorem mem_tags_iff : tag ∈ r.tags ↔ ∃ p, r.find? tag = some p := by
  rw [← Option.isSome_iff_exists]
  exact Config.isSome_lookup_iff.symm

/-- The entries are the tags in their order, each with the profile that is found under it. -/
theorem entries_eq (unique : r.tags.Nodup) :
    r.entries = r.tags.filterMap fun tag => (r.find? tag).map (tag, ·) := by
  rw [tags, List.filterMap_map]
  have each : ∀ e ∈ r.entries, ((fun tag => (r.find? tag).map (tag, ·)) ∘ (·.1)) e = some e := by
    intro e mem
    simp [find?_of_mem_entries unique mem]
  rw [List.filterMap_congr each, List.filterMap_some]

/-- The first entry with a profile of some kind stands at the first tag with such a profile. -/
theorem find?_entries (unique : r.tags.Nodup) (kind : Profile → Bool) :
    (r.entries.find? fun e => kind e.2).map (·.1) =
      r.tags.find? fun tag => (r.find? tag).any kind := by
  rw [entries_eq unique, List.find?_filterMap]
  have same : (fun tag => ((r.find? tag).map (tag, ·)).any fun e => kind e.2) =
      fun tag => (r.find? tag).any kind := by
    funext tag
    rw [Option.any_map]
  rw [same]
  cases first : r.tags.find? fun tag => (r.find? tag).any kind with
  | none => rfl
  | some tag =>
    obtain ⟨p, known⟩ := mem_tags_iff.mp (List.mem_of_find?_eq_some first)
    simp [known]

/-- The language of a path is the first tag whose profile claims the ending. -/
theorem languageFor?_eq (unique : r.tags.Nodup) (path : Path) :
    r.languageFor? path =
      if path.ending = "" then none
      else r.tags.find? fun tag => (r.find? tag).any (·.extensions.contains path.smallEnding) := by
  rw [languageFor?, extensionOf_eq]
  simp only [find?_entries unique (·.extensions.contains path.smallEnding)]
  by_cases none_ : path.ending = ""
  · have empty := path.smallEnding_eq_empty_iff.mpr none_
    simp [none_, empty]
  · have some_ := mt path.smallEnding_eq_empty_iff.mp none_
    simp [none_, some_]

/-! ## Offers -/

/-- The profile that is offered, if it is one. -/
def Offer.profile? : Offer → Option Profile
  | .profile p => some p
  | .other _ => none

/-- The registry after some offers, one after the other. -/
def offerAll (r : Registry) (offers : List (String × Offer)) : Registry :=
  offers.foldl (fun r o => (r.offer o.1 o.2).1) r

/-- The profiles among some offers, with their tags. -/
def accepted (offers : List (String × Offer)) : List (String × Profile) :=
  offers.filterMap fun o => o.2.profile?.map (o.1, ·)

/-- Refused offers leave no trace. -/
theorem offerAll_eq (r : Registry) (offers : List (String × Offer)) :
    r.offerAll offers = r.registerAll (accepted offers) := by
  induction offers generalizing r with
  | nil => rfl
  | cons o rest ih =>
    obtain ⟨tag, offer⟩ := o
    cases offer with
    | profile p => exact ih (r.register tag p)
    | other v => exact ih r

theorem offerAll_ofList (initial : List (String × Profile)) (offers : List (String × Offer)) :
    (ofList initial).offerAll offers = ofList (initial ++ accepted offers) := by
  rw [offerAll_eq, ofList, ofList, registerAll_append]

theorem find?_ofList (ps : List (String × Profile)) (tag : String) :
    (ofList ps).find? tag = ps.reverse.lookup tag := by
  rw [ofList, find?_registerAll]
  exact Option.or_none

/-- A tag that is not known is refused, with the tags that are. -/
theorem get_eq_error_iff :
    r.get tag = .error (.misconfigured (.noProfile tag r.sortedTags)) ↔ r.find? tag = none := by
  unfold get
  cases r.find? tag with
  | none => exact iff_of_true rfl rfl
  | some p => exact iff_of_false nofun nofun

/-- What a registry answers if some profiles have been accepted, each under a tag. -/
structure IsOrderedMap (r : Registry) (history : List (String × Profile)) : Prop where
  /-- A lookup finds the last profile of the tag, -/
  find? : ∀ tag, r.find? tag = history.reverse.lookup tag
  get_ok : ∀ tag p, r.get tag = .ok p ↔ history.reverse.lookup tag = some p
  /-- and is refused if the tag has none. -/
  get_error : ∀ tag, r.get tag = .error (.misconfigured (.noProfile tag r.sortedTags)) ↔
    tag ∉ history.map (·.1)
  /-- Each tag is listed where it was accepted first, and nowhere else. -/
  tags : r.tags = (history.map (·.1)).eraseDups
  nodup : r.tags.Nodup
  entries : r.entries = r.tags.filterMap fun tag => (history.reverse.lookup tag).map (tag, ·)
  length : r.entries.length = (history.map (·.1)).toFinset.card
  /-- A path is of the first language whose profile claims its ending. -/
  languageFor? : ∀ path, r.languageFor? path =
    if path.ending = "" then none
    else r.tags.find? fun tag =>
      (history.reverse.lookup tag).any (·.extensions.contains path.smallEnding)

theorem isOrderedMap_ofList (history : List (String × Profile)) :
    (ofList history).IsOrderedMap history := by
  have unique := nodup_tags_ofList history
  have order := tags_ofList history
  refine ⟨find?_ofList history, fun tag p => ?_, fun tag => ?_, order, unique, ?_, ?_,
    fun path => ?_⟩
  case refine_1 => rw [get_eq_ok, find?_ofList]
  case refine_2 => rw [get_eq_error_iff, find?_ofList, lookup_reverse_eq_none_iff]
  case refine_3 =>
    simp only [← find?_ofList]
    exact entries_eq unique
  case refine_4 =>
    have same : (history.map (·.1)).toFinset = (ofList history).tags.toFinset := by
      ext tag
      rw [order, List.mem_toFinset, List.mem_toFinset, List.mem_eraseDups]
    rw [same, List.toFinset_card_of_nodup unique, tags, List.length_map]
  case refine_5 =>
    simp only [← find?_ofList]
    exact languageFor?_eq unique path

/-- A registry is an ordered map of the profiles it began with and those it accepted since.
Whatever is offered and no profile is refused, and leaves everything as it was. -/
theorem isOrderedMap_offerAll (initial : List (String × Profile)) (offers : List (String × Offer)) :
    let r := (ofList initial).offerAll offers
    r.IsOrderedMap (initial ++ accepted offers) ∧
      ∀ tag v, r.offer tag (.other v) =
        (r, .error (.misconfigured (.notProfile tag v.typeName))) := by
  intro r
  have same : r = ofList (initial ++ accepted offers) := offerAll_ofList initial offers
  refine ⟨?_, fun tag v => rfl⟩
  rw [same]
  exact isOrderedMap_ofList _

/-- A tag keeps its place, and so it comes before one whose profile claimed the ending earlier. -/
example :
    let zig : Profile := { extensions := ["zig"] }
    let r := (ofList [("first", {}), ("second", zig)]).offerAll
      [("third", .profile zig), ("second", .other (.text "zig")), ("first", .profile zig)]
    r.tags = ["first", "second", "third"] ∧
      r.languageFor? (Path.parse "src/main.ZIG") = some "first" := by
  decide +kernel

end Registry

end Proctor

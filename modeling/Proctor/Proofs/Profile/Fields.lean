import Mathlib.Data.List.DropRight
import Proctor.Proofs.Config.WellFormed
import Proctor.Proofs.Text.Lower

/-!
# Profiles and their fields

A profile is written as fields and can be read from them again. What comes back is the same
profile, since each field is written in a form that is read back as it was: the source of a
pattern is the pattern, an extension in its normal form is its own normal form, and the members of
a set may be put in any order.

Fields are read one by one. So where some of them have been laid over the fields of a profile, the
profile that is read is the old one but in these fields, and there it is what they would give by
themselves.
-/

namespace Proctor

namespace Value

variable {v : Value} {vs ws out : List Value}

/-- Putting a value into its place loses none and adds no other. -/
theorem perm_insertSorted? (done : insertSorted? v ws = some out) : out.Perm (v :: ws) := by
  induction ws generalizing out with
  | nil =>
    obtain rfl := Option.some.inj done
    exact .refl _
  | cons w rest ih =>
    rw [insertSorted?] at done
    split at done
    · cases done
    · obtain rfl := Option.some.inj done
      exact .refl _
    · obtain ⟨out, later, rfl⟩ := Option.map_eq_some_iff.mp done
      exact ((ih later).cons w).trans (.swap v w rest)

theorem perm_sorted? (done : sorted? vs = some ws) : ws.Perm vs := by
  induction vs using List.reverseRecOn generalizing ws with
  | nil =>
    obtain rfl := Option.some.inj done
    exact .refl _
  | append_singleton vs v ih =>
    rw [sorted?, List.foldl_append, ← sorted?] at done
    obtain ⟨before, sorted, inserted⟩ := Option.bind_eq_some_iff.mp done
    have perm := (perm_insertSorted? inserted).trans ((ih sorted).cons v)
    exact perm.trans (List.perm_append_singleton v vs).symm

/-- Texts have an order. -/
theorem exists_insertSorted? {s : String} (texts : ∀ w ∈ ws, w.asText?.isSome) :
    ∃ out, insertSorted? (.text s) ws = some out := by
  induction ws with
  | nil => exact ⟨_, rfl⟩
  | cons w rest ih =>
    obtain ⟨first, later⟩ := List.forall_mem_cons.mp texts
    obtain ⟨t, isText⟩ := Option.isSome_iff_exists.mp first
    obtain rfl := eq_text_of_asText? isText
    obtain ⟨out, inserted⟩ := ih later
    rw [insertSorted?, before?, inserted]
    cases decide (s < t) with
    | true => exact ⟨_, rfl⟩
    | false => exact ⟨_, rfl⟩

theorem exists_sorted? (texts : ∀ v ∈ vs, v.asText?.isSome) : ∃ ws, sorted? vs = some ws := by
  induction vs using List.reverseRecOn with
  | nil => exact ⟨_, rfl⟩
  | append_singleton vs v ih =>
    obtain ⟨earlier, last⟩ := List.forall_mem_append.mp texts
    obtain ⟨ws, sorted⟩ := ih earlier
    obtain ⟨s, isText⟩ := Option.isSome_iff_exists.mp (last v List.mem_cons_self)
    obtain rfl := eq_text_of_asText? isText
    obtain ⟨out, inserted⟩ := exists_insertSorted? (s := s) fun w mem =>
      earlier w ((perm_sorted? sorted).mem_iff.mp mem)
    refine ⟨out, ?_⟩
    rw [sorted?, List.foldl_append, ← sorted?, sorted]
    exact inserted

/-- A value counts as one member with itself. -/
theorem same_self (v : Value) : v.same v = true := by
  unfold same
  split
  next => exact beq_self_eq_true _
  next =>
    split
    next here there =>
      obtain ⟨rfl, rfl⟩ := Prod.mk.inj (Option.some.inj (here.symm.trans there))
      exact beq_self_eq_true _
    next => simp
    next left right =>
      cases kind : v.fraction? with
      | none => exact absurd kind (right kind)
      | some f => exact absurd kind (left f.1 f.2 f.1 f.2 kind)

theorem nodup_distinct (vs : List Value) : (distinct vs).Nodup := by
  induction vs with
  | nil => exact .nil
  | cons v rest ih =>
    rw [distinct, List.nodup_cons]
    refine ⟨fun mem => ?_, ih.filter _⟩
    have other := (List.mem_filter.mp mem).2
    rw [same_self] at other
    cases other

/-- Texts without repetition are a set as they stand. -/
theorem distinct_texts {ss : List String} (once : (ss.map text).Nodup) :
    distinct (ss.map text) = ss.map text := by
  induction ss with
  | nil => rfl
  | cons s ss ih =>
    rw [List.map_cons, List.nodup_cons] at once
    obtain ⟨new, once⟩ := once
    rw [List.map_cons, distinct, ih once, List.filter_eq_self.mpr]
    intro w mem
    obtain ⟨t, there, rfl⟩ := List.mem_map.mp mem
    have other : s ≠ t := by
      rintro rfl
      exact new mem
    simp [same, other]

end Value

/-- What is read from the upper value if there is one, and else from the lower. -/
theorem ReadFrom.or {α : Type} {read : Value → Except Error α} {default x y : α}
    {upper base : Option Value} (reads : ReadFrom read default upper x)
    (reads' : ReadFrom read default base y) :
    ReadFrom read default (upper.or base) (if upper.isSome then x else y) := by
  cases upper with
  | some v => exact reads
  | none => exact reads'

namespace Profile

variable {p q r : Profile} {fields upper : Fields}

/-! ## Field by field -/

/-- Are two profiles the same in a field? The root markers are a set, in any order. -/
def AgreeOn (p q : Profile) : String → Prop
  | "patterns" => p.patterns = q.patterns
  | "commands" => p.commands = q.commands
  | "debug_commands" => p.debugCommands = q.debugCommands
  | "coverage_commands" => p.coverageCommands = q.coverageCommands
  | "root_markers" => p.rootMarkers.Perm q.rootMarkers
  | "test_file_naming" => p.testFileNaming = q.testFileNaming
  | "extensions" => p.extensions = q.extensions
  | "context" => p.context = q.context
  | "scope_patterns" => p.scopePatterns = q.scopePatterns
  | "context_separator" => p.separator = q.separator
  | _ => True

/-- The profile with the given fields of the one and the others of the other. -/
def mixed (given : String → Bool) (upper base : Profile) : Profile where
  patterns := if given "patterns" then upper.patterns else base.patterns
  commands := if given "commands" then upper.commands else base.commands
  debugCommands := if given "debug_commands" then upper.debugCommands else base.debugCommands
  coverageCommands :=
    if given "coverage_commands" then upper.coverageCommands else base.coverageCommands
  rootMarkers := if given "root_markers" then upper.rootMarkers else base.rootMarkers
  testFileNaming := if given "test_file_naming" then upper.testFileNaming else base.testFileNaming
  extensions := if given "extensions" then upper.extensions else base.extensions
  context := if given "context" then upper.context else base.context
  scopePatterns := if given "scope_patterns" then upper.scopePatterns else base.scopePatterns
  separator := if given "context_separator" then upper.separator else base.separator

theorem AgreeOn.trans {field : String} (one : p.AgreeOn q field) (other : q.AgreeOn r field) :
    p.AgreeOn r field := by
  unfold AgreeOn at *
  split at one
  case h_11 => trivial
  all_goals exact one.trans other

/-- The order of the markers makes no difference. -/
theorem agreeOn_of_perm {markers : List Value} (perm : markers.Perm p.rootMarkers)
    (field : String) : AgreeOn { p with rootMarkers := markers } p field := by
  unfold AgreeOn
  split
  case h_5 => exact perm
  case h_11 => trivial
  all_goals rfl

theorem mixed_agreeOn (given : String → Bool) (upper base : Profile) (field : String) :
    (mixed given upper base).AgreeOn (if given field then upper else base) field := by
  cases isGiven : given field <;> unfold AgreeOn <;> split <;> simp [mixed, isGiven]

/-- Fields laid over others are read by themselves. -/
theorem ComesFrom.or {value value' : String → Option Value} {base upper : Profile}
    (reads : upper.ComesFrom value) (reads' : base.ComesFrom value') :
    (mixed (fun field => (value field).isSome) upper base).ComesFrom
      fun field => (value field).or (value' field) where
  patterns := reads.patterns.or reads'.patterns
  commands := reads.commands.or reads'.commands
  debugCommands := reads.debugCommands.or reads'.debugCommands
  coverageCommands := reads.coverageCommands.or reads'.coverageCommands
  rootMarkers := reads.rootMarkers.or reads'.rootMarkers
  testFileNaming := reads.testFileNaming.or reads'.testFileNaming
  extensions := reads.extensions.or reads'.extensions
  context := reads.context.or reads'.context
  scopePatterns := reads.scopePatterns.or reads'.scopePatterns
  separator := reads.separator.or reads'.separator

/-- What fields can be read as is what is read from them. -/
theorem ofFields_of_comesFrom (known : ∀ f ∈ fields, f.1 ∈ fieldNames)
    (reads : p.ComesFrom (fields.lookup ·)) : ofFields fields = .ok p := by
  have unknown : (fields.any fun f => !fieldNames.contains f.1) = false := by
    simpa using known
  obtain ⟨commands, readCommands, textsCommands⟩ :=
    Except.bind_eq_ok.mp (reads.commands.getD (d := .null) rfl)
  obtain ⟨debug, readDebug, textsDebug⟩ :=
    Except.bind_eq_ok.mp (reads.debugCommands.getD (d := .null) rfl)
  obtain ⟨coverage, readCoverage, textsCoverage⟩ :=
    Except.bind_eq_ok.mp (reads.coverageCommands.getD (d := .null) rfl)
  have separator : (fields.lookup "context_separator").getD .null = p.separator :=
    Except.ok.inj (reads.separator.getD rfl)
  have patterns := reads.patterns.getD (d := .null) rfl
  have markers := reads.rootMarkers.getD (d := .list []) rfl
  have naming := reads.testFileNaming.getD (d := .list []) rfl
  have extensions := reads.extensions.getD (d := .null) rfl
  have scopes := reads.scopePatterns.getD (d := .null) rfl
  have context := reads.context.getD (d := .null) rfl
  unfold ofFields
  simp only [unknown, Bool.false_eq_true, if_false, patterns, readCommands, readDebug,
    readCoverage, markers, naming, extensions, scopes, context, Except.ok_bind, textsCommands,
    textsDebug, textsCoverage, separator]
  rfl

theorem known_of_ofFields (made : ofFields fields = .ok p) : ∀ f ∈ fields, f.1 ∈ fieldNames := by
  unfold ofFields at made
  split at made
  next => cases made
  next known => simpa using known

/-! ## What is written is read back -/

section

variable {ss : List String} {v : Value}

theorem readPatterns_textList (ps : List Pattern) :
    readPatterns (textList (ps.map (·.source))) = .ok ps := by
  change ((ps.map (·.source)).map Value.text).mapM
    (fun s => (Pattern.ofValue s).mapError Error.ofPattern) = .ok ps
  rw [Except.mapM_eq_ok, List.forall₂_map_left_iff, List.forall₂_map_left_iff, List.forall₂_same]
  intro q _
  exact Except.mapError_eq_ok.mpr (Pattern.compile_source q)

theorem readTemplates_textList (ss : List String) :
    (readTemplates (textList ss) >>= texts) = .ok ss := texts_eq_ok.mpr rfl

theorem readOptionalTemplates_optionalTextList (listed : Option (List String)) :
    (readOptionalTemplates (optionalTextList listed) >>= (·.mapM texts)) = .ok listed := by
  cases listed with
  | none => rfl
  | some ss => exact Except.map_eq_ok.mpr ⟨ss, texts_eq_ok.mpr rfl, rfl⟩

theorem readMarkers_textList (once : (ss.map Value.text).Nodup) :
    readMarkers (textList ss) = .ok (ss.map .text) := by
  have members : (ss.map Value.text).all (·.isMember) = true := by
    simp [Value.isMember]
  have taken : itemsOf (textList ss) = .ok (ss.map .text) := rfl
  rw [readMarkers, taken, Except.ok_bind, if_pos members, Value.distinct_texts once]
  rfl

/-- An extension in its normal form is its own normal form: what is in lower case stays as it is,
and no dots are left at its front. -/
theorem normalExtension_normalExtension (s : String) :
    normalExtension (normalExtension s) = normalExtension s := by
  have small : ∀ c ∈ (Text.lower s).toList.dropWhile (· == '.'), Text.lowerChar c = c := by
    intro c mem
    have lowered := (List.dropWhile_sublist _).mem mem
    rw [Text.lower, String.toList_ofList] at lowered
    exact Text.small_of_mem_lowerFrom lowered
  rw [normalExtension, normalExtension, Text.lower_ofList_of_small small, String.toList_ofList,
    List.dropWhile_idempotent]

theorem normal_of_readExtensions (read : readExtensions v = .ok ss) :
    ∀ s ∈ ss, normalExtension s = s := by
  intro s mem
  unfold readExtensions at read
  split at read
  next =>
    obtain ⟨items, -, each⟩ := Except.bind_eq_ok.mp read
    obtain ⟨item, -, done⟩ := (Except.mem_iff_of_mapM_eq_ok each).mp mem
    cases item with
    | text t =>
      obtain rfl := Except.ok.inj done
      exact normalExtension_normalExtension t
    | _ => cases done
  next =>
    obtain rfl := Except.ok.inj read
    cases mem

theorem readExtensions_textList (normal : ∀ s ∈ ss, normalExtension s = s) :
    readExtensions (textList ss) = .ok ss := by
  rw [readExtensions_of_items (v := textList ss) rfl, List.map_congr_left normal, List.map_id']

theorem readStrategy_name (context : Option Strategy) :
    readStrategy ((context.map fun s => Value.text s.name).getD .null) = .ok context := by
  cases context with
  | none => rfl
  | some s => simp [readStrategy, Strategy.named?_name]

end

/-- The root markers of a profile that has been made are a set, and its extensions are in their
normal form. -/
theorem normal_of_comesFrom {value : String → Option Value} (reads : p.ComesFrom value) :
    p.rootMarkers.Nodup ∧ ∀ s ∈ p.extensions, normalExtension s = s := by
  refine ⟨?_, normal_of_readExtensions (reads.extensions.getD (d := .null) rfl)⟩
  obtain ⟨items, -, read⟩ :=
    Except.bind_eq_ok.mp (reads.rootMarkers.getD (d := .list []) rfl)
  split at read
  next =>
    rw [← Except.ok.inj read]
    exact Value.nodup_distinct items
  next => cases read

/-- A profile whose markers are texts can be written, and what is written of it is read back as
the profile with its markers in order. -/
theorem comesFrom_toFields (made : ofFields fields = .ok p)
    (named : ∀ m ∈ p.rootMarkers, m.asText?.isSome) :
    ∃ plain markers, p.toFields = .ok plain ∧ Config.keys plain = fieldNames ∧
      markers.Perm p.rootMarkers ∧
      ComesFrom (plain.lookup ·) { p with rootMarkers := markers } := by
  obtain ⟨once, normal⟩ := normal_of_comesFrom (comesFrom_ofFields made)
  obtain ⟨markers, sorted⟩ := Value.exists_sorted? named
  have perm := Value.perm_sorted? sorted
  obtain ⟨ss, rfl⟩ := Value.all_isText_iff.mp
    (List.all_eq_true.mpr fun m mem => named m (perm.mem_iff.mp mem))
  refine ⟨_, ss.map .text, by rw [toFields, sorted], rfl, perm, ?_⟩
  exact {
    patterns := readPatterns_textList _
    commands := readTemplates_textList _
    debugCommands := readOptionalTemplates_optionalTextList _
    coverageCommands := readOptionalTemplates_optionalTextList _
    rootMarkers := readMarkers_textList (perm.nodup_iff.mpr once)
    testFileNaming := rfl
    extensions := readExtensions_textList normal
    context := readStrategy_name _
    scopePatterns := readPatterns_textList _
    separator := rfl }

theorem keys_overlay_subset {base : Fields} (unique : (Config.keys upper).Nodup)
    (lower : ∀ f ∈ base, f.1 ∈ fieldNames) (higher : ∀ f ∈ upper, f.1 ∈ fieldNames) :
    ∀ f ∈ Config.overlay base upper, f.1 ∈ fieldNames := by
  intro f mem
  have held := Config.isSome_lookup_iff.mpr (List.mem_map_of_mem mem)
  rw [Config.lookup_overlay unique, Option.isSome_or, Bool.or_eq_true,
    Config.isSome_lookup_iff, Config.isSome_lookup_iff] at held
  obtain here | here := held
  all_goals
    obtain ⟨g, there, same⟩ := List.mem_map.mp here
    rw [← same]
  · exact higher g there
  · exact lower g there

/-- A profile whose markers are texts survives being written: it is read back as it was, with its
markers in order. With valid fields laid over those that are written it becomes what they give by
themselves in every field of theirs, and stays as it was in every other. -/
theorem ofFields_overlay_toFields (made : ofFields fields = .ok p)
    (named : ∀ m ∈ p.rootMarkers, m.asText?.isSome) :
    ∃ plain markers, p.toFields = .ok plain ∧ markers.Perm p.rootMarkers ∧
      ofFields plain = .ok { p with rootMarkers := markers } ∧
      ∀ upper r, (Config.keys upper).Nodup → ofFields upper = .ok r →
        ∃ q, ofFields (Config.overlay plain upper) = .ok q ∧
          ∀ field ∈ fieldNames,
            q.AgreeOn (if field ∈ Config.keys upper then r else p) field := by
  obtain ⟨plain, markers, written, keys, perm, reads⟩ := comesFrom_toFields made named
  have lower : ∀ f ∈ plain, f.1 ∈ fieldNames := fun f mem => keys ▸ List.mem_map_of_mem mem
  refine ⟨plain, markers, written, perm, ofFields_of_comesFrom lower reads, ?_⟩
  intro upper r unique valid
  have higher := known_of_ofFields valid
  have mixes := (comesFrom_ofFields valid).or reads
  simp only [← Config.lookup_overlay unique] at mixes
  refine ⟨_, ofFields_of_comesFrom (keys_overlay_subset unique lower higher) mixes, ?_⟩
  intro field _
  have agree := mixed_agreeOn (fun field => (upper.lookup field).isSome) r
    { p with rootMarkers := markers } field
  simp only [Config.isSome_lookup_iff] at agree
  split
  next given =>
    rw [if_pos given] at agree
    exact agree
  next free =>
    rw [if_neg free] at agree
    exact agree.trans (agreeOn_of_perm perm field)

/-- Fields with a single pattern, markers out of order and extensions in no normal form. -/
def crateFields : Fields :=
  [("patterns", .text "fn (test_[a-z]+)"),
    ("root_markers", .list [.text "build.rs", .text "Cargo.toml", .text "build.rs"]),
    ("extensions", .list [.text "..Rs", .text "İ"])]

theorem ofFields_overlay_toFields_crate :
    ∃ p plain q, ofFields crateFields = .ok p ∧ p.toFields = .ok plain ∧
      ofFields (Config.overlay plain [("commands", .text "cargo test %n")]) = .ok q ∧
      q.commands = ["cargo test %n"] ∧ q.patterns = p.patterns ∧
      q.extensions = ["rs", "i\u0307"] := by
  have makes : (ofFields crateFields).toOption.any fun p =>
      p.rootMarkers.all (·.asText?.isSome) && p.extensions == ["rs", "i\u0307"] := by
    decide +kernel
  have given : (ofFields [("commands", .text "cargo test %n")]).toOption.any fun r =>
      r.commands == ["cargo test %n"] := by
    decide +kernel
  simp only [Option.any_eq_true, Bool.and_eq_true, beq_iff_eq, List.all_eq_true,
    Except.toOption_eq_some] at makes given
  obtain ⟨p, made, named, extensions⟩ := makes
  obtain ⟨r, valid, commands⟩ := given
  obtain ⟨plain, -, written, -, -, survives⟩ := ofFields_overlay_toFields made named
  obtain ⟨q, made', agree⟩ := survives _ r (by decide) valid
  have changed : q.commands = r.commands := agree "commands" (by decide)
  have kept : q.patterns = p.patterns := agree "patterns" (by decide)
  have same : q.extensions = p.extensions := agree "extensions" (by decide)
  exact ⟨p, plain, q, made, written, made', changed.trans commands, kept, same.trans extensions⟩

end Profile

end Proctor

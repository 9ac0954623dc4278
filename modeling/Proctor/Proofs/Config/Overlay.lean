import Mathlib.Data.List.Nodup
import Proctor.Config.Load
import Proctor.Proofs.Outcome
import Proctor.Proofs.Toml.Unique

/-!
# Entries laid over others

A lookup after entries have been laid over others finds the upper value if there is one, and
else the lower. The lower keys keep their places and the new ones follow in their own order.
Both facts hold of single fields and of whole languages, for a file and for a project; what is
special about a project is that it makes no new languages.
-/

namespace Proctor.Config

open Toml (Entries)

variable {α : Type} {key k : String} {v : α} {es base upper : List (String × α)}

/-- The keys of entries, in order. -/
def keys (es : List (String × α)) : List String := es.map (·.1)

@[simp] theorem keys_nil : keys ([] : List (String × α)) = [] := rfl

@[simp] theorem keys_cons (e : String × α) (rest : List (String × α)) :
    keys (e :: rest) = e.1 :: keys rest := rfl

theorem lookup_eq_none_iff : es.lookup k = none ↔ k ∉ keys es := by
  rw [List.lookup_eq_none_iff, keys, List.mem_map]
  constructor
  · rintro absent ⟨e, mem, rfl⟩
    simpa using absent e mem
  · intro absent e mem
    rw [bne_iff_ne]
    rintro rfl
    exact absent ⟨e, mem, rfl⟩

theorem isSome_lookup_iff : (es.lookup k).isSome ↔ k ∈ keys es := by
  rw [Option.isSome_iff_ne_none, ne_eq, lookup_eq_none_iff, not_not]

theorem lookup_of_mem (unique : (keys es).Nodup) (mem : (k, v) ∈ es) : es.lookup k = some v := by
  obtain ⟨earlier, later, rfl⟩ := List.append_of_mem mem
  rw [keys, List.map_append, List.map_cons, List.nodup_middle, List.nodup_cons] at unique
  rw [List.lookup_eq_some_iff]
  refine ⟨earlier, later, rfl, ?_⟩
  intro e there
  rw [bne_iff_ne]
  rintro rfl
  have twice : e.1 ∈ earlier.map (·.1) := List.mem_map_of_mem there
  exact unique.1 (List.mem_append_left _ twice)

theorem lookup_set : (set key v es).lookup k = if k = key then some v else es.lookup k := by
  induction es with
  | nil =>
    by_cases here : k = key <;> simp [set, here]
  | cons e rest ih =>
    obtain ⟨k', w⟩ := e
    rw [set]
    by_cases same : k' = key
    · rw [if_pos same, List.lookup_cons, List.lookup_cons, same]
      by_cases here : k = key
      · simp [here]
      · simp [here, beq_false_of_ne here]
    · rw [if_neg same, List.lookup_cons, List.lookup_cons, ih]
      by_cases there : k = k'
      · have elsewhere : k ≠ key := there ▸ same
        simp [there, same]
      · simp [beq_false_of_ne there]

theorem keys_set_of_mem (mem : key ∈ keys es) : keys (set key v es) = keys es := by
  induction es with
  | nil => exact absurd mem List.not_mem_nil
  | cons e rest ih =>
    obtain ⟨k', w⟩ := e
    rw [set]
    by_cases same : k' = key
    · rw [if_pos same]
      rfl
    · have later : key ∈ keys rest := by
        obtain here | later := List.mem_cons.mp mem
        · exact absurd here.symm same
        · exact later
      rw [if_neg same, keys_cons, keys_cons, ih later]

theorem keys_set_of_not_mem (absent : key ∉ keys es) :
    keys (set key v es) = keys es ++ [key] := by
  induction es with
  | nil => rfl
  | cons e rest ih =>
    obtain ⟨k', w⟩ := e
    have same : k' ≠ key := by
      rintro rfl
      exact absent List.mem_cons_self
    have later : key ∉ keys rest := fun mem => absent (List.mem_cons_of_mem _ mem)
    rw [set, if_neg same, keys_cons, keys_cons, ih later, List.cons_append]

theorem lookup_overlay (unique : (keys upper).Nodup) :
    (overlay base upper).lookup k = (upper.lookup k).or (base.lookup k) := by
  induction upper generalizing base with
  | nil => rfl
  | cons e rest ih =>
    obtain ⟨key, v⟩ := e
    obtain ⟨absent, unique⟩ := List.nodup_cons.mp unique
    change (overlay (set key v base) rest).lookup k = _
    rw [ih unique, lookup_set, List.lookup_cons]
    by_cases here : k = key
    · subst here
      have new : rest.lookup k = none := lookup_eq_none_iff.mpr absent
      simp [new]
    · simp [here, beq_false_of_ne here]

/-! ## Single fields -/

variable {tag path : String}

theorem mergeFields_eq_ok {base upper merged : Fields}
    (done : mergeFields tag base upper = .ok merged) : merged = overlay base upper := by
  unfold mergeFields at done
  simp only at done
  split at done
  next => exact (Except.ok.inj done).symm
  next => cases done

/-! ## Languages -/

/-- The fields that an entry gives a language, if it is a table. -/
def fieldsAt (es : Entries) (tag : String) : Option Fields := (es.lookup tag).bind Value.asTable?

variable {langs merged : Languages} {entries : Entries}

theorem fieldsAt_cons_self (tag : String) (v : Value) (rest : Entries) :
    fieldsAt ((tag, v) :: rest) tag = v.asTable? := by
  rw [fieldsAt, List.lookup_cons_self]
  rfl

theorem fieldsAt_cons_of_ne (other : k ≠ tag) (v : Value) (rest : Entries) :
    fieldsAt ((tag, v) :: rest) k = fieldsAt rest k := by
  rw [fieldsAt, List.lookup_cons, beq_false_of_ne other]
  rfl

theorem fieldsAt_eq_none (absent : k ∉ keys entries) : fieldsAt entries k = none := by
  rw [fieldsAt, lookup_eq_none_iff.mpr absent]
  rfl

theorem mergeLanguages_cons {v : Value}
    (done : mergeLanguages path langs ((tag, v) :: entries) = .ok merged) :
    ∃ upper, v = .table upper ∧
      mergeLanguages path (set tag (overlay ((langs.lookup tag).getD []) upper) langs) entries =
        .ok merged := by
  cases v with
  | table upper =>
    obtain ⟨fields, laid, done⟩ := Except.bind_eq_ok.mp done
    exact ⟨upper, rfl, mergeFields_eq_ok laid ▸ done⟩
  | _ => cases done

/-- The languages of a file keep the places of those there are; new ones follow in the order of
the file. -/
theorem keys_mergeLanguages (unique : (keys entries).Nodup)
    (done : mergeLanguages path langs entries = .ok merged) :
    keys merged = keys langs ++ (keys entries).filter (· ∉ keys langs) := by
  induction entries generalizing langs with
  | nil =>
    cases done
    simp
  | cons e rest ih =>
    obtain ⟨tag, v⟩ := e
    obtain ⟨absent, unique⟩ := List.nodup_cons.mp unique
    obtain ⟨upper, -, done⟩ := mergeLanguages_cons done
    rw [ih unique done, keys_cons]
    by_cases mem : tag ∈ keys langs
    · rw [keys_set_of_mem mem, List.filter_cons_of_neg (by simpa using mem)]
    · have same : (keys rest).filter (· ∉ keys langs ++ [tag]) =
          (keys rest).filter (· ∉ keys langs) := by
        apply List.filter_congr
        intro k later
        have other : k ≠ tag := by
          rintro rfl
          exact absent later
        simp [other]
      rw [keys_set_of_not_mem mem, same, List.filter_cons_of_pos (by simpa using mem),
        List.append_assoc, List.singleton_append]

theorem lookup_mergeLanguages (unique : (keys entries).Nodup)
    (done : mergeLanguages path langs entries = .ok merged) (k : String) :
    merged.lookup k =
      match fieldsAt entries k with
      | some upper => some (overlay ((langs.lookup k).getD []) upper)
      | none => langs.lookup k := by
  induction entries generalizing langs with
  | nil =>
    cases done
    rfl
  | cons e rest ih =>
    obtain ⟨tag, v⟩ := e
    obtain ⟨upper, same, done'⟩ := mergeLanguages_cons done
    obtain ⟨absent, unique'⟩ := List.nodup_cons.mp unique
    rw [ih unique' done', lookup_set, same]
    by_cases here : k = tag
    · subst here
      rw [fieldsAt_eq_none absent, fieldsAt_cons_self, if_pos rfl]
      rfl
    · rw [fieldsAt_cons_of_ne here, if_neg here]

/-! ## Projects -/

theorem mergeProject_cons {v : Value}
    (done : mergeProject langs ((tag, v) :: entries) = .ok merged) :
    (∃ base upper, langs.lookup tag = some base ∧ v = .table upper ∧
      mergeProject (set tag (overlay base upper) langs) entries = .ok merged) ∨
    ((langs.lookup tag = none ∨ v.asTable? = none) ∧
      mergeProject langs entries = .ok merged) := by
  cases known : langs.lookup tag with
  | none =>
    simp only [mergeProject, known] at done
    exact .inr ⟨.inl rfl, done⟩
  | some base =>
    cases v with
    | table upper =>
      simp only [mergeProject, known] at done
      obtain ⟨fields, laid, done⟩ := Except.bind_eq_ok.mp done
      exact .inl ⟨base, upper, rfl, rfl, mergeFields_eq_ok laid ▸ done⟩
    | _ =>
      simp only [mergeProject, known] at done
      exact .inr ⟨.inr rfl, done⟩

/-- A project makes no new languages. -/
theorem keys_mergeProject (done : mergeProject langs entries = .ok merged) :
    keys merged = keys langs := by
  induction entries generalizing langs with
  | nil =>
    cases done
    rfl
  | cons e rest ih =>
    obtain ⟨base, upper, known, -, done⟩ | ⟨-, done⟩ := mergeProject_cons done
    · have mem : e.1 ∈ keys langs := isSome_lookup_iff.mp (by simp [known])
      rw [ih done, keys_set_of_mem mem]
    · exact ih done

theorem lookup_mergeProject (unique : (keys entries).Nodup)
    (done : mergeProject langs entries = .ok merged) (k : String) :
    merged.lookup k =
      (langs.lookup k).map fun base => overlay base ((fieldsAt entries k).getD []) := by
  induction entries generalizing langs with
  | nil =>
    cases done
    exact (Option.map_id' ..).symm
  | cons e rest ih =>
    obtain ⟨tag, v⟩ := e
    obtain ⟨absent, unique'⟩ := List.nodup_cons.mp unique
    obtain ⟨base, upper, known, same, done'⟩ | ⟨idle, done'⟩ := mergeProject_cons done
    · rw [ih unique' done', lookup_set, same]
      by_cases here : k = tag
      · subst here
        rw [fieldsAt_eq_none absent, fieldsAt_cons_self, if_pos rfl, known]
        rfl
      · rw [fieldsAt_cons_of_ne here, if_neg here]
    · rw [ih unique' done']
      by_cases here : k = tag
      · subst here
        rw [fieldsAt_eq_none absent, fieldsAt_cons_self]
        obtain unknown | noTable := idle
        · rw [unknown]
          rfl
        · rw [noTable]
      · rw [fieldsAt_cons_of_ne here]

end Proctor.Config

import Mathlib.Data.List.Nodup
import Proctor.Proofs.Outcome
import Proctor.Toml.Document

/-!
# Keys of documents

A document that can be read has each key once in each of its tables, at every depth. The
tables grow by new keys at their ends only: a key that is present is refused or has its value
replaced, and a table that is written in line is put together in the same way.
-/

namespace Proctor

open Toml (Entries Key isNest)

/-- Every table in the value has each of its keys once. -/
inductive Value.HasUniqueKeys : Value → Prop
  | plain {v} : isNest v = false → HasUniqueKeys v
  | list {items} : (∀ v ∈ items, HasUniqueKeys v) → HasUniqueKeys (.list items)
  | table {es} :
      (es.map (·.1)).Nodup → (∀ e ∈ es, HasUniqueKeys e.2) → HasUniqueKeys (.table es)

namespace Value

theorem hasUniqueKeys_list {items : List Value} :
    (Value.list items).HasUniqueKeys ↔ ∀ v ∈ items, v.HasUniqueKeys := by
  constructor
  · rintro (plain | all | _)
    · cases plain
    · exact all
  · exact .list

theorem hasUniqueKeys_table {es : Entries} :
    (Value.table es).HasUniqueKeys ↔
      (es.map (·.1)).Nodup ∧ ∀ e ∈ es, e.2.HasUniqueKeys := by
  constructor
  · rintro (plain | _ | ⟨unique, all⟩)
    · cases plain
    · exact ⟨unique, all⟩
  · rintro ⟨unique, all⟩
    exact .table unique all

theorem hasUniqueKeys_nil : (Value.table []).HasUniqueKeys :=
  .table List.nodup_nil (List.forall_mem_nil _)

end Value

namespace Toml

open Value

variable {es : Entries} {k : String} {v : Value}

theorem mem_of_lookup {α : Type} {es : List (String × α)} {v : α} (found : es.lookup k = some v) :
    (k, v) ∈ es := by
  obtain ⟨earlier, later, rfl, -⟩ := List.lookup_eq_some_iff.mp found
  exact List.mem_append_right _ List.mem_cons_self

theorem hasUniqueKeys_of_lookup (unique : (Value.table es).HasUniqueKeys)
    (found : es.lookup k = some v) : v.HasUniqueKeys :=
  (hasUniqueKeys_table.mp unique).2 (k, v) (mem_of_lookup found)

theorem hasUniqueKeys_append (unique : (Value.table es).HasUniqueKeys)
    (new : es.lookup k = none) (inner : v.HasUniqueKeys) :
    (Value.table (es ++ [(k, v)])).HasUniqueKeys := by
  obtain ⟨nodup, all⟩ := hasUniqueKeys_table.mp unique
  refine .table ?_ ?_
  · have absent : k ∉ es.map (·.1) := by
      intro mem
      obtain ⟨e, there, rfl⟩ := List.mem_map.mp mem
      simpa using List.lookup_eq_none_iff.mp new e there
    rw [List.map_append, List.map_singleton, ← List.concat_eq_append]
    exact List.Nodup.concat absent nodup
  · intro e mem
    obtain there | here := List.mem_append.mp mem
    · exact all e there
    · rw [List.mem_singleton.mp here]
      exact inner

theorem hasUniqueKeys_replace (unique : (Value.table es).HasUniqueKeys)
    (inner : v.HasUniqueKeys) : (Value.table (replace k v es)).HasUniqueKeys := by
  obtain ⟨nodup, all⟩ := hasUniqueKeys_table.mp unique
  have keys : (replace k v es).map (·.1) = es.map (·.1) := by
    rw [replace, List.map_map]
    apply List.map_congr_left
    intro e _
    by_cases here : e.1 = k <;> simp [here]
  refine .table (keys ▸ nodup) ?_
  intro e mem
  obtain ⟨e', there, rfl⟩ := List.mem_map.mp mem
  by_cases here : e'.1 = k
  · simpa [here] using inner
  · simpa [here] using all e' there

/-- A change of entries that leaves their keys unique. -/
def KeepsUnique (f : Entries → Option Entries) : Prop :=
  ∀ es es', (Value.table es).HasUniqueKeys → f es = some es' → (Value.table es').HasUniqueKeys

theorem keepsUnique_some : KeepsUnique some := by
  intro es es' unique same
  rwa [← Option.some.inj same]

theorem keepsUnique_addEntry (inner : v.HasUniqueKeys) : KeepsUnique (addEntry k v) := by
  intro es es' unique added
  cases found : es.lookup k with
  | some w => simp [addEntry, found] at added
  | none =>
    simp only [addEntry, found] at added
    rw [← Option.some.inj added]
    exact hasUniqueKeys_append unique found inner

theorem keepsUnique_addTable : KeepsUnique (addTable k) := by
  intro es es' unique added
  cases found : es.lookup k with
  | none =>
    simp only [addTable, found] at added
    rw [← Option.some.inj added]
    refine hasUniqueKeys_append unique found (.list ?_)
    simpa using hasUniqueKeys_nil
  | some w =>
    cases w with
    | list items =>
      simp only [addTable, found] at added
      rw [← Option.some.inj added]
      refine hasUniqueKeys_replace unique (.list ?_)
      have all := hasUniqueKeys_list.mp (hasUniqueKeys_of_lookup unique found)
      intro w mem
      obtain there | here := List.mem_append.mp mem
      · exact all w there
      · rw [List.mem_singleton.mp here]
        exact hasUniqueKeys_nil
    | _ => simp [addTable, found] at added

theorem keepsUnique_changeAt {throughLists : Bool} {f : Entries → Option Entries}
    (keeps : KeepsUnique f) (key : Key) : KeepsUnique (changeAt throughLists f key) := by
  induction key with
  | nil => exact keeps
  | cons k rest ih =>
    intro es es' unique changed
    cases found : es.lookup k with
    | none =>
      simp only [changeAt, found] at changed
      obtain ⟨t, made, rfl⟩ := Option.map_eq_some_iff.mp changed
      exact hasUniqueKeys_append unique found (ih [] t hasUniqueKeys_nil made)
    | some w =>
      have inner := hasUniqueKeys_of_lookup unique found
      cases w with
      | table t =>
        simp only [changeAt, found] at changed
        obtain ⟨t', made, rfl⟩ := Option.map_eq_some_iff.mp changed
        exact hasUniqueKeys_replace unique (ih t t' inner made)
      | list items =>
        simp only [changeAt, found] at changed
        split at changed
        next _ _ t last =>
          obtain ⟨t', made, rfl⟩ := Option.map_eq_some_iff.mp changed
          have all := hasUniqueKeys_list.mp inner
          have below := ih t t' (all _ (List.mem_of_getLast? last)) made
          refine hasUniqueKeys_replace unique (.list ?_)
          intro w mem
          obtain there | here := List.mem_append.mp mem
          · exact all w (List.dropLast_subset items there)
          · rw [List.mem_singleton.mp here]
            exact below
        next => cases changed
      | _ => simp [changeAt, found] at changed

/-! ## Scalars -/

/-- What is read holds no entries or items of its own. -/
def IsPlain (r : Reading Value) : Prop := ∀ v rest, r = .ok (v, rest) → isNest v = false

theorem isPlain_map {α : Type} {f : α × List Char → Value × List Char} (r : Reading α)
    (plain : ∀ p, isNest (f p).1 = false) : IsPlain (r.map f) := by
  intro v rest read
  obtain ⟨p, -, same⟩ := Except.map_eq_ok.mp read
  have := plain p
  rwa [same] at this

theorem isPlain_string? {cs : List Char} {r : Reading Value} (read : string? cs = some r) :
    IsPlain r := by
  unfold string? at read
  split at read
  case h_5 => cases read
  all_goals
    rw [← Option.some.inj read]
    exact isPlain_map _ fun _ => rfl

theorem isPlain_bool? {cs : List Char} {r : Reading Value} (read : bool? cs = some r) :
    IsPlain r := by
  unfold bool? at read
  split at read
  case h_3 => cases read
  all_goals
    rw [← Option.some.inj read]
    rintro v rest ⟨⟩
    rfl

theorem isPlain_ok {v : Value} {rest : List Char} (plain : isNest v = false) :
    IsPlain (.ok (v, rest)) := by
  rintro w more ⟨⟩
  exact plain

theorem isPlain_error (fault : Fault) : IsPlain (.error fault) := by
  rintro v rest ⟨⟩

theorem isPlain_dateOrTime? {cs : List Char} {r : Reading Value}
    (read : dateOrTime? cs = some r) : IsPlain r := by
  unfold dateOrTime? at read
  split at read
  next d rest _ =>
    split at read
    next => exact Option.some.inj read ▸ isPlain_error _
    next =>
      split at read
      next => exact Option.some.inj read ▸ isPlain_ok rfl
      next => exact Option.some.inj read ▸ isPlain_ok rfl
  next =>
    obtain ⟨p, -, rfl⟩ := Option.map_eq_some_iff.mp read
    exact isPlain_ok rfl

theorem isPlain_number? {cs : List Char} {r : Reading Value} (read : number? cs = some r) :
    IsPlain r := by
  unfold number? at read
  split at read
  next => exact Option.some.inj read ▸ isPlain_ok rfl
  next =>
    simp only at read
    split at read
    next => cases read
    next =>
      split at read
      next =>
        split at read
        next => exact Option.some.inj read ▸ isPlain_error _
        next => exact Option.some.inj read ▸ isPlain_ok rfl
      next => exact Option.some.inj read ▸ isPlain_ok rfl

theorem isPlain_special? {cs : List Char} {r : Reading Value} (read : special? cs = some r) :
    IsPlain r := by
  unfold special? at read
  simp only at read
  split at read
  next => exact Option.some.inj read ▸ isPlain_ok rfl
  next => exact Option.some.inj read ▸ isPlain_ok rfl
  next => cases read

theorem isPlain_scalar (cs : List Char) : IsPlain (scalar cs) := by
  unfold scalar
  cases read : (string? cs <|> bool? cs <|> dateOrTime? cs <|> number? cs <|> special? cs) with
  | none => exact isPlain_error _
  | some r =>
    rw [Option.getD_some]
    simp only [Option.orElse_eq_orElse, Option.orElse_eq_or, Option.or_eq_some_iff] at read
    obtain read | ⟨-, read | ⟨-, read | ⟨-, read | ⟨-, read⟩⟩⟩⟩ := read
    · exact isPlain_string? read
    · exact isPlain_bool? read
    · exact isPlain_dateOrTime? read
    · exact isPlain_number? read
    · exact isPlain_special? read

/-! ## Values -/

/-- The readers that have so many steps give values with unique keys only. -/
structure ReadsUnique (n : Nat) : Prop where
  value : ∀ {cs v rest}, value n cs = .ok (v, rest) → v.HasUniqueKeys
  items : ∀ {found cs v rest}, (∀ w ∈ found, w.HasUniqueKeys) →
    items n found cs = .ok (v, rest) → v.HasUniqueKeys
  inlineEntries : ∀ {frozen found cs v rest}, (Value.table found).HasUniqueKeys →
    inlineEntries n frozen found cs = .ok (v, rest) → v.HasUniqueKeys
  keyValue : ∀ {cs k v rest}, keyValue n cs = .ok (k, v, rest) → v.HasUniqueKeys

theorem readsUnique_zero : ReadsUnique 0 where
  value read := by simp [value] at read
  items _ read := by simp [items] at read
  inlineEntries _ read := by simp [inlineEntries] at read
  keyValue read := by simp [keyValue] at read

namespace ReadsUnique

variable {n : Nat} (reads : ReadsUnique n)

include reads

theorem value_succ {cs rest : List Char} (read : Toml.value (n + 1) cs = .ok (v, rest)) :
    v.HasUniqueKeys := by
  unfold Toml.value at read
  split at read
  next =>
    obtain ⟨more, -, read⟩ := Except.bind_eq_ok.mp read
    split at read
    next =>
      cases read
      exact .list (List.forall_mem_nil _)
    next => exact reads.items (List.forall_mem_nil _) read
  next =>
    split at read
    next =>
      cases read
      exact hasUniqueKeys_nil
    next => exact reads.inlineEntries hasUniqueKeys_nil read
  next => exact .plain (isPlain_scalar _ _ _ read)

theorem items_succ {found : List Value} {cs rest : List Char}
    (all : ∀ w ∈ found, w.HasUniqueKeys) (read : Toml.items (n + 1) found cs = .ok (v, rest)) :
    v.HasUniqueKeys := by
  unfold Toml.items at read
  obtain ⟨⟨w, more⟩, one, read⟩ := Except.bind_eq_ok.mp read
  have all : ∀ u ∈ w :: found, u.HasUniqueKeys :=
    List.forall_mem_cons.mpr ⟨reads.value one, all⟩
  have done : (Value.list (w :: found).reverse).HasUniqueKeys :=
    .list fun u mem => all u (List.mem_reverse.mp mem)
  obtain ⟨next, -, read⟩ := Except.bind_eq_ok.mp read
  split at read
  next =>
    cases read
    exact done
  next =>
    obtain ⟨after, -, read⟩ := Except.bind_eq_ok.mp read
    split at read
    next =>
      cases read
      exact done
    next => exact reads.items all read
  next => cases read

theorem keyValue_succ {k : Key} {cs rest : List Char}
    (read : Toml.keyValue (n + 1) cs = .ok (k, v, rest)) : v.HasUniqueKeys := by
  unfold Toml.keyValue at read
  obtain ⟨⟨k', more⟩, -, read⟩ := Except.bind_eq_ok.mp read
  simp only at read
  split at read
  next =>
    obtain ⟨⟨w, after⟩, one, read⟩ := Except.bind_eq_ok.mp read
    cases read
    exact reads.value one
  next => cases read

theorem inlineEntries_succ {frozen : List Key} {found : Entries} {cs rest : List Char}
    (unique : (Value.table found).HasUniqueKeys)
    (read : Toml.inlineEntries (n + 1) frozen found cs = .ok (v, rest)) : v.HasUniqueKeys := by
  unfold Toml.inlineEntries at read
  obtain ⟨⟨k, w, more⟩, one, read⟩ := Except.bind_eq_ok.mp read
  simp only at read
  split at read
  next => cases read
  next =>
    split at read
    next => cases read
    next grown added =>
      have unique := keepsUnique_changeAt (keepsUnique_addEntry (reads.keyValue one)) _ _ _
        unique added
      split at read
      next =>
        cases read
        exact unique
      next => exact reads.inlineEntries unique read
      next => cases read

end ReadsUnique

theorem readsUnique (n : Nat) : ReadsUnique n := by
  induction n with
  | zero => exact readsUnique_zero
  | succ n reads =>
    exact ⟨reads.value_succ, reads.items_succ, reads.inlineEntries_succ, reads.keyValue_succ⟩

/-! ## Documents -/

/-- The tables read so far have unique keys. -/
def Draft.IsUnique (d : Draft) : Prop := (Value.table d.entries).HasUniqueKeys

theorem isUnique_startTable {d d' : Draft} {k : Key} (unique : d.IsUnique)
    (started : d.startTable k = .ok d') : d'.IsUnique := by
  unfold Draft.startTable at started
  split at started
  next => cases started
  next =>
    split at started
    next => cases started
    next grown changed =>
      cases started
      exact keepsUnique_changeAt keepsUnique_some k _ _ unique changed

theorem isUnique_startItem {d d' : Draft} {k : Key} (unique : d.IsUnique)
    (started : d.startItem k = .ok d') : d'.IsUnique := by
  unfold Draft.startItem at started
  split at started
  next => cases started
  next =>
    simp only at started
    split at started
    next => cases started
    next grown changed =>
      cases started
      exact keepsUnique_changeAt keepsUnique_addTable _ _ _ unique changed

theorem isUnique_addValue {d d' : Draft} {k : Key} (unique : d.IsUnique)
    (inner : v.HasUniqueKeys) (added : d.addValue k v = .ok d') : d'.IsUnique := by
  unfold Draft.addValue at added
  simp only at added
  split at added
  next => cases added
  next =>
    split at added
    next => cases added
    next grown changed =>
      cases added
      exact keepsUnique_changeAt (keepsUnique_addEntry inner) _ _ _ unique changed

theorem isUnique_sectionHeader {d d' : Draft} {cs rest : List Char} (unique : d.IsUnique)
    (read : sectionHeader d cs = .ok (d', rest)) : d'.IsUnique := by
  unfold sectionHeader at read
  simp only at read
  have unique : d.endSection.IsUnique := unique
  split at read
  next =>
    obtain ⟨⟨k, more⟩, -, read⟩ := Except.bind_eq_ok.mp read
    obtain ⟨grown, started, read⟩ := Except.bind_eq_ok.mp read
    split at read
    next =>
      cases read
      exact isUnique_startItem unique started
    next => cases read
  next =>
    obtain ⟨⟨k, more⟩, -, read⟩ := Except.bind_eq_ok.mp read
    obtain ⟨grown, started, read⟩ := Except.bind_eq_ok.mp read
    split at read
    next =>
      cases read
      exact isUnique_startTable unique started
    next => cases read

theorem isUnique_statement {d d' : Draft} {cs rest : List Char} (unique : d.IsUnique)
    (read : statement d cs = .ok (d', rest)) : d'.IsUnique := by
  unfold statement at read
  split at read
  next => exact isUnique_sectionHeader unique read
  next =>
    split at read
    next =>
      obtain ⟨⟨k, v, more⟩, one, read⟩ := Except.bind_eq_ok.mp read
      obtain ⟨grown, added, read⟩ := Except.bind_eq_ok.mp read
      cases read
      exact isUnique_addValue unique ((readsUnique _).keyValue one) added
    next =>
      split at read
      next =>
        cases read
        exact unique
      next => cases read
  next =>
    cases read
    exact unique

theorem isUnique_statements {n : Nat} {d d' : Draft} {cs : List Char} (unique : d.IsUnique)
    (read : statements n d cs = .ok d') : d'.IsUnique := by
  induction n generalizing d cs with
  | zero =>
    cases read
    exact unique
  | succ n ih =>
    unfold statements at read
    obtain ⟨⟨grown, more⟩, one, read⟩ := Except.bind_eq_ok.mp read
    have unique := isUnique_statement unique one
    obtain ⟨after, -, read⟩ := Except.bind_eq_ok.mp read
    split at read
    next =>
      cases read
      exact unique
    next => exact ih unique read
    next => cases read

/-- A document has each key once in each of its tables. -/
theorem hasUniqueKeys_parse {cs : List Char} (read : parse cs = .ok es) :
    (Value.table es).HasUniqueKeys := by
  unfold parse at read
  obtain ⟨d, all, read⟩ := Except.bind_eq_ok.mp read
  cases read
  exact isUnique_statements (d := .empty) hasUniqueKeys_nil all

end Toml

end Proctor

import Proctor.CommandLine.Request
import Proctor.Proofs.Outcome

/-!
# What was read is one of the choices

Every value that was read belongs to a parameter of the form. So the value of a parameter that
offers a choice is one of the names offered.
-/

namespace Proctor.CommandLine

namespace Scan

variable {setting : Setting} {s : Scan} {p : Parameter} {ps : List Parameter} {rs : Readings}
  {key : Key} {reading : Reading}

theorem mem_of_mem_order (mem : p ∈ s.order ps) : p ∈ ps := by
  unfold order at mem
  simp only [List.mem_append, List.mem_filterMap, List.mem_filter] at mem
  obtain (⟨k, -, found⟩ | ⟨mem, -⟩) | ⟨mem, -⟩ := mem
  · exact List.mem_of_find?_eq_some found
  · exact mem
  · exact mem

theorem exists_of_readAll (done : readAll setting s ps = .ok rs) (mem : (key, reading) ∈ rs) :
    ∃ p ∈ ps, p.key = key ∧ readParameter setting s p = .ok (some reading) := by
  induction ps generalizing rs with
  | nil =>
    obtain rfl := Except.ok.inj done
    exact absurd mem List.not_mem_nil
  | cons p rest ih =>
    obtain ⟨first, here, done⟩ := Except.bind_eq_ok.mp done
    obtain ⟨others, later, done⟩ := Except.bind_eq_ok.mp done
    obtain rfl := Except.ok.inj done
    obtain mem | mem := List.mem_append.mp mem
    · obtain ⟨value, same, pair⟩ := List.mem_map.mp mem
      obtain ⟨rfl, rfl⟩ := Prod.mk.inj pair
      rw [Option.mem_toList.mp same] at here
      exact ⟨p, List.mem_cons_self, rfl, here⟩
    · obtain ⟨q, mem, same, read⟩ := ih later mem
      exact ⟨q, List.mem_cons_of_mem p mem, same, read⟩

/-- What was read of every parameter. -/
theorem exists_reading_of_readAll (done : readAll setting s ps = .ok rs) (mem : p ∈ ps) :
    ∃ value, readParameter setting s p = .ok value ∧
      ∀ reading, value = some reading → (p.key, reading) ∈ rs := by
  induction ps generalizing rs with
  | nil => cases mem
  | cons q rest ih =>
    obtain ⟨first, here, done⟩ := Except.bind_eq_ok.mp done
    obtain ⟨others, later, done⟩ := Except.bind_eq_ok.mp done
    obtain rfl := Except.ok.inj done
    obtain rfl | mem := List.mem_cons.mp mem
    · refine ⟨first, here, ?_⟩
      rintro reading rfl
      simp
    · obtain ⟨value, read, held⟩ := ih later mem
      exact ⟨value, read, fun reading same => List.mem_append_right _ (held reading same)⟩

/-- If keys tell parameters apart, what was read of one is found under its key. -/
theorem lookup_of_readAll (done : readAll setting s ps = .ok rs) (mem : p ∈ ps)
    (only : ∀ q ∈ ps, q.key = p.key → q = p) :
    readParameter setting s p = .ok (rs.lookup p.key) := by
  obtain ⟨value, read, held⟩ := exists_reading_of_readAll done mem
  rw [read]
  cases found : rs.lookup p.key with
  | some reading =>
    obtain ⟨before, after, same, -⟩ := List.lookup_eq_some_iff.mp found
    have inside : (p.key, reading) ∈ rs := same ▸ List.mem_append_right _ List.mem_cons_self
    obtain ⟨q, inside, same, there⟩ := exists_of_readAll done inside
    rw [only q inside same] at there
    exact read.symm.trans there
  | none =>
    cases value with
    | none => rfl
    | some reading =>
      have absent := List.lookup_eq_none_iff.mp found _ (held reading rfl)
      simp at absent

theorem mem_order (mem : p ∈ ps) : p ∈ s.order ps := by
  simp only [order, List.mem_append, List.mem_filter, mem, true_and]
  by_cases argument : p.isArgument
  · exact .inl (.inr argument)
  · by_cases given : p ∈ (s.options.map (·.key)).eraseDups.filterMap fun k => ps.find? (·.key == k)
    · exact .inl (.inl given)
    · exact .inr (by simpa [argument] using given)

theorem mem_of_choiceOf {names : List String} {text name : String}
    (read : Reading.choiceOf names text = .ok (.text name)) : name ∈ names := by
  unfold Reading.choiceOf at read
  split at read
  · rename_i among
    obtain rfl := Reading.text.inj (Except.ok.inj read)
    exact List.contains_iff_mem.mp among
  · cases read

/-- The value of a parameter that offers a choice is one of the names offered. -/
theorem mem_of_readParameter {names : List String} {name : String} (kind : p.kind = .choice names)
    (read : readParameter setting s p = .ok (some (.text name))) : name ∈ names := by
  have chosen {text : String}
      (got : ((Reading.ofText setting.tree p.kind text).mapError
        (Refusal.invalid p.hint)).map some = .ok (some (.text name))) : name ∈ names := by
    obtain ⟨reading, got, same⟩ := Except.map_eq_ok.mp got
    obtain rfl := Option.some.inj same
    rw [Except.mapError_eq_ok, kind] at got
    exact mem_of_choiceOf got
  unfold readParameter at read
  split at read
  · unfold readArgument at read
    split at read
    · cases read
    · cases read
    · exact chosen read
  · unfold readOption at read
    dsimp only at read
    split at read
    · exact chosen read
    · cases read
    · cases read

end Scan

/-- The values that were read, and what is left over. -/
def Read.values? : Read → Option (Readings × List String)
  | .readings rs spare => some (rs, spare)
  | _ => none

theorem Read.eq_of_values? {read : Read} {rs : Readings} {spare : List String}
    (values : read.values? = some (rs, spare)) : read = .readings rs spare := by
  cases read <;> cases values
  rfl

/-- Values that were read are those of a scan of the words, and so is what is left over. -/
theorem Form.exists_scan_of_read {f : Form} {setting : Setting} {words spare : List String}
    {rs : Readings} (read : f.read setting words = .readings rs spare) :
    ∃ scan, Scan.ofWords f.parameters f.isGroup false words = .ok scan ∧
      scan.readAll setting (scan.order f.parameters) = .ok rs ∧
      spare = scan.spare f.parameters := by
  unfold Form.read at read
  split at read
  · cases read
  · rename_i scan scanned
    split at read
    · cases read
    · split at read
      · cases read
      · rename_i values done
        dsimp only at read
        split at read
        · obtain ⟨rfl, rfl⟩ := Read.readings.inj read
          exact ⟨scan, scanned, done, rfl⟩
        · cases read

theorem Form.exists_of_read {f : Form} {setting : Setting} {words spare : List String}
    {rs : Readings} {key : Key} {reading : Reading}
    (read : f.read setting words = .readings rs spare) (mem : (key, reading) ∈ rs) :
    ∃ scan : Scan, ∃ p ∈ f.parameters, p.key = key ∧
      scan.readParameter setting p = .ok (some reading) := by
  obtain ⟨scan, -, done, -⟩ := Form.exists_scan_of_read read
  obtain ⟨p, mem, same, value⟩ := Scan.exists_of_readAll done mem
  exact ⟨scan, p, Scan.mem_of_mem_order mem, same, value⟩

theorem Readings.mem_of_text? {rs : Readings} {key : Key} {text : String}
    (given : rs.text? key = some text) : (key, .text text) ∈ rs := by
  unfold Readings.text? at given
  split at given
  · rename_i held found
    obtain rfl := Option.some.inj given
    obtain ⟨before, after, rfl, -⟩ := List.lookup_eq_some_iff.mp found
    simp
  · cases given

/-- The text of a parameter that offers a choice is one of the names offered. -/
theorem Form.mem_of_text? {f : Form} {setting : Setting} {words spare : List String}
    {rs : Readings} {key : Key} {names : List String} {name : String}
    (read : f.read setting words = .readings rs spare)
    (offers : ∀ p ∈ f.parameters, p.key = key → p.kind = .choice names)
    (given : rs.text? key = some name) : name ∈ names := by
  obtain ⟨scan, p, mem, same, value⟩ := Form.exists_of_read read (Readings.mem_of_text? given)
  exact Scan.mem_of_readParameter (offers p mem same) value

end Proctor.CommandLine

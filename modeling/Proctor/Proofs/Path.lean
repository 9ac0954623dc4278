import Proctor.Path
import Proctor.Proofs.Text.LastPiece

/-!
# Reading what was written

A part of a path that was read holds no slash and is neither empty nor a single dot. So a
relative path made of such parts is read back as it was written, and a path is the one from
which it is seen together with what is seen from there.
-/

namespace Proctor.Path

/-- Can the text be a part of a path that was read? -/
def IsPartText (part : String) : Prop := '/' ∉ part.toList ∧ isPart part.toList

theorem isPartText_of_mem_parse {s part : String} (found : part ∈ (parse s).parts) :
    IsPartText part := by
  simp only [parse, List.mem_map, List.mem_filter] at found
  obtain ⟨piece, ⟨cut, counts⟩, rfl⟩ := found
  rw [IsPartText, String.toList_ofList]
  exact ⟨Text.not_mem_of_mem_splitOn cut, counts⟩

/-- A text that is a part does not begin with a slash. -/
theorem rootOf_append {part : String} (is_part : IsPartText part) (rest : List Char) :
    rootOf (part.toList ++ rest) = .relative := by
  obtain ⟨slash, counts⟩ := is_part
  cases chars : part.toList with
  | nil => simp [chars, isPart] at counts
  | cons c cs =>
    have other : c ≠ '/' := by
      rintro rfl
      simp [chars] at slash
    unfold rootOf
    split <;> simp_all

/-- A relative path is read back as it was written. -/
theorem parse_text {parts : List String} (readable : ∀ part ∈ parts, IsPartText part) :
    parse (text ⟨.relative, parts⟩) = ⟨.relative, parts⟩ := by
  cases parts with
  | nil => rfl
  | cons part rest =>
    have written : (text ⟨.relative, part :: rest⟩).toList =
        ['/'].intercalate ((part :: rest).map String.toList) := by
      simp [text, Root.text, String.toList_intercalate]
    have cut : Text.splitOn '/' (['/'].intercalate ((part :: rest).map String.toList)) =
        (part :: rest).map String.toList := by
      rw [Text.splitOn_eq]
      refine List.splitOn_intercalate '/' ?_ (by simp)
      simpa using fun p h => (readable p h).1
    have counted : ((part :: rest).map String.toList).filter isPart =
        (part :: rest).map String.toList := by
      refine List.filter_eq_self.mpr ?_
      simpa using fun p h => (readable p h).2
    have start : rootOf (['/'].intercalate ((part :: rest).map String.toList)) = .relative := by
      obtain ⟨tail, begins⟩ :
          part.toList <+: ['/'].intercalate ((part :: rest).map String.toList) := by
        cases rest with
        | nil => simp
        | cons next more => exact ⟨_, rfl⟩
      rw [← begins]
      exact rootOf_append (readable part List.mem_cons_self) tail
    simp only [parse, written, start, cut, counted, List.map_map]
    simp [Function.comp_def]

/-- What lies below a directory, written as it is seen from there, leads back to it. -/
theorem child_text {parts : List String} (readable : ∀ part ∈ parts, IsPartText part)
    (directory : Path) :
    directory.child (text ⟨.relative, parts⟩) = ⟨directory.root, directory.parts ++ parts⟩ := by
  rw [child, parse_text readable, join_root_of_relative rfl]

/-- A part alone leads to an entry of the directory. -/
theorem child_part {part : String} (is_part : IsPartText part) (directory : Path) :
    directory.child part = ⟨directory.root, directory.parts ++ [part]⟩ := by
  have alone : part = text ⟨.relative, [part]⟩ := by simp [text, Root.text]
  rw [alone, child_text (List.forall_mem_singleton.mpr is_part), ← alone]

theorem parent_child {part : String} (is_part : IsPartText part) (directory : Path) :
    (directory.child part).parent = directory := by
  simp [child_part is_part, parent]

theorem name_child {part : String} (is_part : IsPartText part) (directory : Path) :
    (directory.child part).name = part := by
  simp [child_part is_part, name]

/-- A part that is no double dot is the last one also after double dots were carried out. -/
theorem carryOut_concat {part : String} (down : part ≠ "..") (done parts : List String) :
    carryOut done (parts ++ [part]) = carryOut done parts ++ [part] := by
  fun_induction carryOut done parts with
  | case1 done => simp [carryOut]
  | case2 done rest ih => rw [List.cons_append, carryOut, ih]
  | case3 done first rest other ih =>
    rw [List.cons_append, carryOut, ih]
    exact other

theorem parts_join_append (current directory : Path) (parts : List String) :
    (current.join ⟨directory.root, directory.parts ++ parts⟩).parts =
      (current.join directory).parts ++ parts := by
  unfold join isAbsolute
  split <;> simp

theorem resolve_child {part : String} (is_part : IsPartText part) (down : part ≠ "..")
    (current directory : Path) : resolve current (directory.child part) =
      ⟨.slash, (resolve current directory).parts ++ [part]⟩ := by
  rw [child_part is_part, resolve, parts_join_append, carryOut_concat down]
  rfl

/-- What has a name lies in its directory under that name. -/
theorem parent_child_of_name {p : Path} (named : IsPartText p.name) :
    p.parent.child p.name = p := by
  rw [child_part named]
  obtain ⟨root, parts⟩ := p
  obtain rfl | ⟨front, last, rfl⟩ := List.eq_nil_or_concat parts
  · exact absurd named.2 Bool.false_ne_true
  · simp [parent, name]

/-- A file lies in its directory under its name. -/
theorem parent_child_name {p : Path} (readable : ∀ part ∈ p.parts, IsPartText part) :
    p.parent.child p.name = p := by
  obtain ⟨root, parts⟩ := p
  obtain rfl | ⟨front, last, rfl⟩ := List.eq_nil_or_concat parts
  · rfl
  · rw [List.concat_eq_append] at readable ⊢
    have name : name ⟨root, front ++ [last]⟩ = last := by simp [Path.name]
    exact parent_child_of_name (name.symm ▸ readable last List.mem_concat_self)

/-! ## Endings -/

section Endings

variable {b e : List Char}

theorem cut_append_dot (nonempty : b ≠ []) (ending : e ≠ []) (dotless : '.' ∉ e) :
    cut (b ++ '.' :: e) = (b, '.' :: e) := by
  have stem : (b ++ '.' :: e).reverse.drop (e.reverse.length + 1) = b.reverse := by
    simp [List.drop_append]
  rw [cut, Text.takeWhile_reverse_append dotless, stem]
  have shorter : e.length ≠ b.length + (e.length + 1) := by omega
  simp [nonempty, ending, shorter]

/-- A name has no ending, or it is cut at its last dot and something stands on both sides. -/
theorem cut_cases (cs : List Char) : cut cs = (cs, []) ∨
    ∃ b e, cs = b ++ '.' :: e ∧ b ≠ [] ∧ e ≠ [] ∧ '.' ∉ e ∧ cut cs = (b, '.' :: e) := by
  by_cases dotted : '.' ∈ cs
  · obtain ⟨b, e, rfl, dotless⟩ := Text.exists_last dotted
    by_cases whole : b ≠ [] ∧ e ≠ []
    · exact .inr ⟨b, e, rfl, whole.1, whole.2, dotless, cut_append_dot whole.1 whole.2 dotless⟩
    · have none_ : b = [] ∨ e = [] := by simpa [or_iff_not_imp_left] using whole
      rw [cut, Text.takeWhile_reverse_append dotless]
      obtain rfl | rfl := none_ <;> simp
  · rw [cut, Text.takeWhile_reverse_of_not_mem dotted]
    simp

end Endings

/-! ## Ancestors -/

/-- Does the path lie at or below the directory, as they are written? -/
def Contains (directory p : Path) : Prop :=
  directory.root = p.root ∧ directory.parts <+: p.parts

theorem Contains.trans {a b c : Path} (first : a.Contains b) (second : b.Contains c) :
    a.Contains c :=
  ⟨first.1.trans second.1, first.2.trans second.2⟩

theorem parent_contains (p : Path) : p.parent.Contains p :=
  ⟨rfl, List.dropLast_prefix p.parts⟩

theorem mem_ancestorsFrom_iff {d : Path} {root : Root} {parts : List String} {n : Nat} :
    d ∈ ancestorsFrom root parts n ↔ d.root = root ∧ ∃ k < n, d.parts = parts.take k := by
  induction n with
  | zero => simp [ancestorsFrom]
  | succ n ih =>
    rw [ancestorsFrom, List.mem_cons, ih]
    constructor
    · rintro (rfl | ⟨rooted, k, less, taken⟩)
      · exact ⟨rfl, n, n.lt_succ_self, rfl⟩
      · exact ⟨rooted, k, Nat.lt_succ_of_lt less, taken⟩
    · rintro ⟨rooted, k, less, taken⟩
      obtain less | rfl := Nat.lt_succ_iff_lt_or_eq.mp less
      · exact .inr ⟨rooted, k, less, taken⟩
      · obtain ⟨root', parts'⟩ := d
        obtain rfl : root' = root := rooted
        obtain rfl : parts' = parts.take k := taken
        exact .inl rfl

theorem contains_of_mem_ancestors {directory p : Path} (found : directory ∈ p.ancestors) :
    directory.Contains p := by
  obtain ⟨rooted, k, -, taken⟩ := mem_ancestorsFrom_iff.mp found
  exact ⟨rooted, taken ▸ List.take_prefix k p.parts⟩

/-- A directory together with a path as it is seen from there is that path. -/
theorem Contains.child_relativeTo {directory p : Path} (below : directory.Contains p)
    (readable : ∀ part ∈ p.parts, IsPartText part) :
    ∃ seen, p.relativeTo? directory = some seen ∧ directory.child seen.text = p := by
  obtain ⟨root, parts⟩ := p
  obtain ⟨rfl, rest, rfl⟩ := below
  refine ⟨⟨.relative, rest⟩, by simp [relativeTo?], ?_⟩
  exact child_text (fun part found => readable part (List.mem_append_right _ found)) directory

end Proctor.Path

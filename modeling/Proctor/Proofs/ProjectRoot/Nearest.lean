import Proctor.Proofs.FileTree
import Proctor.Proofs.ProjectRoot

/-!
# The nearest root

The directories at or above a place lie one above the other, and the search for a root goes
through them from the innermost one. So it finds the nearest of those that hold a marker,
whatever the order of the markers: if several are held at different heights, the lowest counts.
-/

namespace Proctor

namespace Path

variable {p d e : Path}

/-! ## One above the other -/

theorem Contains.refl (p : Path) : p.Contains p := ⟨rfl, List.prefix_rfl⟩

theorem Contains.antisymm (first : d.Contains e) (second : e.Contains d) : d = e := by
  obtain ⟨root, parts⟩ := d
  obtain ⟨rfl, above⟩ := first
  exact congrArg _ (above.eq_of_length (Nat.le_antisymm above.length_le second.2.length_le))

/-- The ancestors of a path, and the path itself, are all that it lies at or below. -/
theorem mem_cons_ancestors_iff : d ∈ p :: p.ancestors ↔ d.Contains p := by
  constructor
  · rintro (_ | ⟨_, above⟩)
    · exact .refl p
    · exact contains_of_mem_ancestors above
  · rintro ⟨rooted, above⟩
    rw [List.mem_cons, ancestors, mem_ancestorsFrom_iff]
    obtain whole | less := Nat.eq_or_lt_of_le above.length_le
    · exact .inl (Contains.antisymm ⟨rooted, above⟩
        ⟨rooted.symm, above.eq_of_length whole ▸ List.prefix_rfl⟩)
    · exact .inr ⟨rooted, _, less, List.prefix_iff_eq_take.mp above⟩

theorem pairwise_ancestorsFrom (root : Root) (parts : List String) (n : Nat) :
    (ancestorsFrom root parts n).Pairwise fun near far => far.Contains near := by
  induction n with
  | zero => exact .nil
  | succ n ih =>
    refine List.pairwise_cons.mpr ⟨fun d above => ?_, ih⟩
    obtain ⟨rooted, k, less, taken⟩ := mem_ancestorsFrom_iff.mp above
    exact ⟨rooted, taken ▸ List.take_prefix_take_left (Nat.le_of_lt less)⟩

/-- On the way up each directory lies above those before it. -/
theorem pairwise_cons_ancestors (p : Path) :
    (p :: p.ancestors).Pairwise fun near far => far.Contains near :=
  List.pairwise_cons.mpr
    ⟨fun _ => contains_of_mem_ancestors, pairwise_ancestorsFrom p.root p.parts p.parts.length⟩

/-- The first directory on the way up that is such and such is the nearest one. -/
theorem find?_cons_ancestors_iff {holds : Path → Bool} :
    (p :: p.ancestors).find? holds = some d ↔
      d.Contains p ∧ holds d ∧ ∀ e, e.Contains p → holds e → e.Contains d := by
  have nearest {d : Path} (found : (p :: p.ancestors).find? holds = some d) {e : Path}
      (above : e.Contains p) (held : holds e) : e.Contains d := by
    obtain ⟨-, near, far, cut, none_⟩ := List.find?_eq_some_iff_append.mp found
    have way := pairwise_cons_ancestors p
    have mem := mem_cons_ancestors_iff.mpr above
    rw [cut] at way mem
    obtain before | rfl | after := (List.mem_append.trans (or_congr_right List.mem_cons)).mp mem
    · exact absurd held (by simpa using none_ e before)
    · exact .refl _
    · exact (List.pairwise_cons.mp (List.pairwise_append.mp way).2.1).1 e after
  constructor
  · intro found
    exact ⟨mem_cons_ancestors_iff.mp (List.mem_of_find?_eq_some found),
      List.find?_some found, fun e => nearest found⟩
  · rintro ⟨above, held, lowest⟩
    obtain ⟨d', found⟩ := Option.isSome_iff_exists.mp
      (List.find?_isSome.mpr ⟨d, mem_cons_ancestors_iff.mpr above, held⟩)
    have above' := mem_cons_ancestors_iff.mp (List.mem_of_find?_eq_some found)
    rw [found, Contains.antisymm (nearest found above held)
      (lowest d' above' (List.find?_some found))]

end Path

namespace FileTree

variable {t : FileTree} {root : Path} {n : Node}

theorem has_iff {p : Path} : t.has p ↔ ∃ n, t.find p = .ok n := by
  unfold has
  cases t.find p <;> simp

/-- An entry of a directory is found under its name there, and nowhere else. -/
theorem find_child_iff {name : String} (named : Node.IsEntryName name) :
    t.find (root.child name) = .ok n ↔
      ∃ es, t.find root = .ok (.directory es) ∧ es.lookup name = some n := by
  have down : ".." ∉ [name] := by simpa using named.2.symm
  have entry {m : Node} (above : List Node) : follow (m :: above) [name] = .ok n ↔
      ∃ es, m = .directory es ∧ es.lookup name = some n := by
    rw [follow_eq_ok_iff down, Node.below?_cons_eq_some]
    cases m <;> simp [Node.entries, Node.below?]
  rw [find, Path.child_part named.1, Path.parts_join_append, find]
  constructor
  · intro reached
    obtain ⟨m, above, first, goesOn⟩ := exists_follow_append reached
    obtain ⟨es, rfl, found⟩ := (entry above).mp ((goesOn [name]).symm.trans reached)
    exact ⟨es, first, found⟩
  · rintro ⟨es, reached, found⟩
    obtain ⟨m, above, first, goesOn⟩ := exists_follow_append
      ((congrArg _ (List.append_nil _)).trans reached)
    obtain rfl : m = .directory es := Except.ok.inj (first.symm.trans reached)
    exact (goesOn [name]).trans ((entry above).mpr ⟨es, rfl, found⟩)

end FileTree

namespace ProjectRoot

variable {tree : FileTree} {markers : List String} {start directory : Path}

/-! ## Holding a marker -/

/-- Does one of the markers lead anywhere from the directory? -/
def Holds (tree : FileTree) (markers : List String) (directory : Path) : Prop :=
  ∃ marker ∈ markers, tree.has (directory.child marker)

instance : Decidable (Holds tree markers directory) :=
  inferInstanceAs (Decidable (∃ marker ∈ markers, tree.has (directory.child marker)))

theorem Holds.mono {more : List String} (all : markers ⊆ more)
    (holds : Holds tree markers directory) : Holds tree more directory :=
  holds.imp fun _ found => ⟨all found.1, found.2⟩

theorem holdsMarker_text (tree : FileTree) (markers : List String) (directory : Path) :
    holdsMarker tree directory (markers.map .text) = .ok (Holds tree markers directory) := by
  induction markers with
  | nil => rfl
  | cons marker rest ih =>
    have first : Holds tree (marker :: rest) directory ↔
        tree.has (directory.child marker) ∨ Holds tree rest directory := by simp [Holds]
    rw [List.map_cons, holdsMarker, ih]
    by_cases here : tree.has (directory.child marker) <;> simp [first, here]

theorem firstHolding_text (tree : FileTree) (markers : List String) (directories : List Path) :
    firstHolding tree (markers.map .text) directories =
      .ok (directories.find? fun d => Holds tree markers d) := by
  induction directories with
  | nil => rfl
  | cons first rest ih =>
    rw [firstHolding, holdsMarker_text, ih]
    by_cases holds : Holds tree markers first <;>
      simp [holds, bind, Except.bind, pure, Except.pure]

/-! ## The search -/

/-- The place from which the way goes up: the directory of a file, or else the place itself. -/
def startOf (tree : FileTree) (start : Path) : Path :=
  if tree.isFile start then start.parent else start

/-- The directory is the nearest one at or above a place that holds a marker. -/
structure IsNearest (tree : FileTree) (markers : List String) (start directory : Path) : Prop where
  above : directory.Contains (startOf tree start)
  holds : Holds tree markers directory
  nearest : ∀ d, d.Contains (startOf tree start) → Holds tree markers d → d.Contains directory

theorem find_text (tree : FileTree) (markers : List String) (start : Path) :
    find tree (markers.map .text) start =
      .ok ((startOf tree start :: (startOf tree start).ancestors).find? fun d =>
        Holds tree markers d) := by
  rw [find, firstHolding_text]
  split
  · rename_i empty
    obtain rfl : markers = [] := by simpa using empty
    exact congrArg _ (List.find?_eq_none.mpr (by simp [Holds])).symm
  · rfl

/-- A search comes to the nearest directory, going up from the place, -/
theorem find_eq_some_iff :
    find tree (markers.map .text) start = .ok (some directory) ↔
      IsNearest tree markers start directory := by
  rw [find_text, Except.ok.injEq, Path.find?_cons_ancestors_iff]
  simp only [decide_eq_true_eq]
  exact ⟨fun ⟨above, holds, nearest⟩ => ⟨above, holds, nearest⟩,
    fun ⟨above, holds, nearest⟩ => ⟨above, holds, nearest⟩⟩

/-- and to none only if there is no such directory. -/
theorem find_eq_none_iff :
    find tree (markers.map .text) start = .ok none ↔
      ∀ d, d.Contains (startOf tree start) → ¬ Holds tree markers d := by
  rw [find_text, Except.ok.injEq, List.find?_eq_none]
  simp only [Path.mem_cons_ancestors_iff, decide_eq_true_eq]

theorem find_congr {others : List String} (same : ∀ m, m ∈ others ↔ m ∈ markers) :
    find tree (others.map .text) start = find tree (markers.map .text) start := by
  have holds : (fun d => decide (Holds tree others d)) = fun d => decide (Holds tree markers d) :=
    funext fun d => decide_eq_decide.mpr (by simp [Holds, same])
  rw [find_text, find_text, holds]

theorem ofFile_text (tree : FileTree) (markers : List String) (file : Path) :
    ofFile tree (markers.map .text) file =
      find tree ((markers ++ generic).map .text) file.parent := by
  rw [ofFile, List.map_append]

theorem exists_find (tree : FileTree) (markers : List String) (start : Path) :
    ∃ root, find tree (markers.map .text) start = .ok root :=
  ⟨_, find_text tree markers start⟩

/-- With more markers a root is found further down or at the same place. -/
theorem exists_find_of_subset {more : List String} (all : markers ⊆ more)
    (found : find tree (markers.map .text) start = .ok (some directory)) :
    ∃ lower, find tree (more.map .text) start = .ok (some lower) ∧ directory.Contains lower := by
  have nearest := find_eq_some_iff.mp found
  have holds := nearest.holds.mono all
  obtain ⟨root, found⟩ := exists_find tree more start
  cases root with
  | none => exact absurd holds (find_eq_none_iff.mp found directory nearest.above)
  | some lower =>
    exact ⟨lower, found, (find_eq_some_iff.mp found).nearest directory nearest.above holds⟩

/-- Does the marker name something below the directory in which it is looked for? -/
def IsBelow (marker : String) : Prop :=
  (Path.parse marker).root = .relative ∧ (Path.parse marker).parts ≠ []

theorem Holds.isDirectory (below : ∀ marker ∈ markers, IsBelow marker)
    (holds : Holds tree markers directory) : tree.isDirectory directory := by
  obtain ⟨marker, mem, has⟩ := holds
  obtain ⟨relative, some_⟩ := below marker mem
  obtain ⟨part, rest, parts⟩ := List.exists_cons_of_ne_nil some_
  obtain ⟨n, found⟩ := FileTree.has_iff.mp has
  rw [Path.child, Path.join_root_of_relative relative, parts] at found
  exact FileTree.isDirectory_of_find_append found

/-- A name is held by the directories that have an entry of that name. -/
theorem holds_name_iff {name : String} (named : Node.IsEntryName name) :
    Holds tree [name] directory ↔
      ∃ es n, tree.find directory = .ok (.directory es) ∧ es.lookup name = some n := by
  simp only [Holds, List.mem_singleton, exists_eq_left, FileTree.has_iff,
    FileTree.find_child_iff named]
  exact exists_comm

/-- A search for a root comes to the nearest directory that holds a marker, going up from the
place or from the directory of the file, and to none exactly if there is no such directory. It
depends on which markers there are and not on their order, and with more markers the root that
is found lies at the same place or further down. What is found is a directory, unless a marker
may lead out of it, and a marker that is a name is an entry there. -/
theorem find_nearest (tree : FileTree) (markers : List String) (start : Path) :
    (∃ root, find tree (markers.map .text) start = .ok root ∧
      (∀ d, root = some d ↔ IsNearest tree markers start d) ∧
      (root = none ↔ markers = [] ∨
        ∀ d, d.Contains (startOf tree start) → ¬ Holds tree markers d)) ∧
    (∀ others : List String, (∀ m, m ∈ others ↔ m ∈ markers) →
      find tree (others.map .text) start = find tree (markers.map .text) start ∧
      ∀ file, ofFile tree (others.map .text) file = ofFile tree (markers.map .text) file) ∧
    (∀ more : List String, markers ⊆ more →
      ∀ d, find tree (markers.map .text) start = .ok (some d) →
        ∃ lower, find tree (more.map .text) start = .ok (some lower) ∧ d.Contains lower) ∧
    (∀ d, Holds tree markers d → (∀ m ∈ markers, IsBelow m) → tree.isDirectory d) ∧
    ∀ d name, Node.IsEntryName name → (Holds tree [name] d ↔
      ∃ es n, tree.find d = .ok (.directory es) ∧ es.lookup name = some n) := by
  refine ⟨?_, fun others same => ⟨find_congr same, fun file => ?_⟩,
    fun more all d => exists_find_of_subset all, fun d holds below => holds.isDirectory below,
    fun d name => holds_name_iff⟩
  · obtain ⟨root, found⟩ := exists_find tree markers start
    refine ⟨root, found, fun d => ?_, ?_⟩
    · rw [← find_eq_some_iff, found, Except.ok.injEq]
    · have none_ : find tree (markers.map .text) start = .ok none ↔ _ := find_eq_none_iff
      rw [found, Except.ok.injEq] at none_
      rw [none_, iff_or_self]
      rintro rfl d - ⟨m, mem, -⟩
      cases mem
  · rw [ofFile_text, ofFile_text]
    exact find_congr fun m => by simp [same]

/-! A repository with a package in it, and a file of the package. -/

def packageTree : FileTree where
  top := .directory [("work", .directory [
    (".git", .directory []),
    ("app", .directory [("package.json", .file [] false), ("index.js", .file [] false)])])]
  current := ⟨.slash, []⟩

def repository : Path := ⟨.slash, ["work"]⟩

def indexFile : Path := ⟨.slash, ["work", "app", "index.js"]⟩

/-- The repository is the root by its own marker. With the marker of packages, in whatever
order, the root is the package. -/
theorem find_nearest_package :
    IsNearest packageTree [".git"] indexFile repository ∧
    (∃ lower, find packageTree (["package.json", ".git"].map .text) indexFile = .ok (some lower) ∧
      repository.Contains lower) ∧
    find packageTree ([".git", "package.json", ".git"].map .text) indexFile =
      find packageTree (["package.json", ".git"].map .text) indexFile ∧
    find packageTree (["package.json", ".git"].map .text) indexFile =
      .ok (some ⟨.slash, ["work", "app"]⟩) ∧
    packageTree.isDirectory repository ∧
    ∃ es n, packageTree.find repository = .ok (.directory es) ∧ es.lookup ".git" = some n := by
  obtain ⟨⟨root, found, nearest, -⟩, -, lower, isDir, held⟩ :=
    find_nearest packageTree [".git"] indexFile
  obtain ⟨-, order, -⟩ := find_nearest packageTree ["package.json", ".git"] indexFile
  have atTop : find packageTree ([".git"].map .text) indexFile = .ok (some repository) := rfl
  obtain rfl : root = some repository := Except.ok.inj (found.symm.trans atTop)
  have first := (nearest _).mp rfl
  have below : ∀ m ∈ [".git"], IsBelow m := List.forall_mem_singleton.mpr ⟨rfl, by decide⟩
  refine ⟨first, lower _ (by decide) _ atTop, (order _ fun m => ?_).1, rfl,
    isDir _ first.holds below, (held _ ".git" (by decide)).mp first.holds⟩
  simp [or_comm]

end ProjectRoot

end Proctor

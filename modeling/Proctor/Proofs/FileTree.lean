import Mathlib.Data.List.Nodup
import Proctor.FileTree
import Proctor.Proofs.Config.Overlay
import Proctor.Proofs.Path

/-!
# Listing a tree and looking into it

In a tree as disks have them, the entries of a directory have different names, and the names
are such that a path can be made of them. The files that a listing of such a tree names below a
directory are then those that its paths lead to, and none is named twice.
-/

namespace Proctor

namespace Node

variable {n m : Node} {names : List String} {es : List (String × Node)}

/-! ## Trees as disks have them -/

/-- Can an entry of a directory have the name? -/
def IsEntryName (name : String) : Prop := Path.IsPartText name ∧ name ≠ ".."

instance (name : String) : Decidable (IsEntryName name) :=
  inferInstanceAs (Decidable ((_ ∧ _) ∧ _))

/-- The entries of every directory have different names, made of what names can be made of. -/
inductive IsProper : Node → Prop
  | file {content : List UInt8} {executable : Bool} : IsProper (.file content executable)
  | directory {es : List (String × Node)} (distinct : (Config.keys es).Nodup)
      (named : ∀ e ∈ es, IsEntryName e.1) (each : ∀ e ∈ es, IsProper e.2) :
      IsProper (.directory es)

theorem IsProper.entry (proper : n.IsProper) {e : String × Node} (mem : e ∈ n.entries) :
    IsEntryName e.1 ∧ e.2.IsProper := by
  cases proper with
  | file => cases mem
  | directory _ named each => exact ⟨named e mem, each e mem⟩

/-! ## Going down -/

/-- The node to which names lead from another one. -/
def below? (n : Node) : List String → Option Node
  | [] => some n
  | name :: rest => (n.entries.lookup name).bind fun entry => entry.below? rest

theorem below?_cons_eq_some {name : String} :
    n.below? (name :: names) = some m ↔
      ∃ entry, n.entries.lookup name = some entry ∧ entry.below? names = some m :=
  Option.bind_eq_some_iff

/-- In a directory the first of the names is that of an entry. -/
theorem below?_directory_cons (distinct : (Config.keys es).Nodup) {name : String} :
    (directory es).below? (name :: names) = some m ↔
      ∃ entry, (name, entry) ∈ es ∧ entry.below? names = some m := by
  rw [below?_cons_eq_some, entries]
  refine exists_congr fun entry => and_congr_left fun _ => ?_
  exact ⟨Toml.mem_of_lookup, Config.lookup_of_mem distinct⟩

theorem below?_append (more : List String) :
    n.below? (names ++ more) = (n.below? names).bind (·.below? more) := by
  induction names generalizing n with
  | nil => rfl
  | cons name rest ih =>
    rw [List.cons_append, below?, below?, Option.bind_assoc]
    exact congrArg _ (funext fun entry => ih)

theorem IsProper.of_below? (proper : n.IsProper) (leads : n.below? names = some m) :
    ∀ name ∈ names, IsEntryName name := by
  induction names generalizing n with
  | nil => exact List.forall_mem_nil _
  | cons name rest ih =>
    obtain ⟨entry, found, leads⟩ := below?_cons_eq_some.mp leads
    obtain ⟨named, proper⟩ := proper.entry (Toml.mem_of_lookup found)
    exact List.forall_mem_cons.mpr ⟨named, ih proper leads⟩

end Node

namespace FileTree

open Node (IsProper)

variable {t : FileTree} {n m : Node} {stack : List Node} {names : List String}
  {path p root : Path}

/-! ## Listings -/

theorem filesIn_eq (path : Path) (es : List (String × Node)) :
    filesIn path es = es.flatMap fun e => filesBelow ⟨path.root, path.parts ++ [e.1]⟩ e.2 := by
  induction es with
  | nil => rfl
  | cons e rest ih => rw [filesIn, ih, List.flatMap_cons]

/-- The files listed below a node are those to which names lead from it. -/
theorem mem_filesBelow (proper : n.IsProper) :
    p ∈ filesBelow path n ↔ ∃ names content executable,
      p = ⟨path.root, path.parts ++ names⟩ ∧ n.below? names = some (.file content executable) := by
  induction proper generalizing path with
  | @file content executable =>
    rw [filesBelow, List.mem_singleton]
    constructor
    · rintro rfl
      exact ⟨[], content, executable, by simp, rfl⟩
    · rintro ⟨names, content', executable', rfl, leads⟩
      cases names with
      | nil => simp
      | cons name rest => cases leads
  | @directory es distinct named each ih =>
    rw [filesBelow, filesIn_eq, List.mem_flatMap]
    constructor
    · rintro ⟨e, mem, listed⟩
      obtain ⟨names, content, executable, rfl, leads⟩ := (ih e mem).mp listed
      refine ⟨e.1 :: names, content, executable, by simp, ?_⟩
      exact (Node.below?_directory_cons distinct).mpr ⟨e.2, mem, leads⟩
    · rintro ⟨names, content, executable, rfl, leads⟩
      cases names with
      | nil => cases leads
      | cons name rest =>
        obtain ⟨entry, mem, leads⟩ := (Node.below?_directory_cons distinct).mp leads
        exact ⟨(name, entry), mem, (ih _ mem).mpr ⟨rest, content, executable, by simp, leads⟩⟩

theorem nodup_filesBelow (proper : n.IsProper) : (filesBelow path n).Nodup := by
  induction proper generalizing path with
  | file => exact List.nodup_singleton _
  | @directory es distinct named each ih =>
    rw [filesBelow, filesIn_eq, List.nodup_flatMap]
    refine ⟨fun e mem => ih e mem, (List.pairwise_map.mp distinct).imp_of_mem ?_⟩
    intro a b left right differ p inLeft inRight
    -- the name of the entry is the first part behind the path of the directory
    obtain ⟨names, -, -, rfl, -⟩ := (mem_filesBelow (each a left)).mp inLeft
    obtain ⟨names', -, -, same, -⟩ := (mem_filesBelow (each b right)).mp inRight
    simp only [Path.mk.injEq, List.append_assoc, List.append_cancel_left_eq, List.cons_append,
      List.nil_append, List.cons.injEq, true_and] at same
    exact differ same.1

/-! ## Paths -/

/-- A part of a path leads from a list of directories to another one, whatever follows. What is
new there is an entry of one of them. -/
theorem exists_follow_cons {part : String} {rest : List String}
    (reached : follow stack (part :: rest) = .ok m) :
    ∃ next, (∀ rest, follow stack (part :: rest) = follow next rest) ∧
      ∀ x ∈ next, x ∈ stack ∨ ∃ n ∈ stack, ∃ name, (name, x) ∈ n.entries := by
  cases stack with
  | nil => cases reached
  | cons n above =>
    rw [follow] at reached
    split at reached
    · rename_i isDir
      split at reached
      · rename_i up
        refine ⟨if above.isEmpty then [n] else above, fun rest => ?_, fun x mem => .inl ?_⟩
        · rw [follow, if_pos isDir, if_pos up]
        · split at mem
          · exact List.mem_singleton.mp mem ▸ List.mem_cons_self
          · exact List.mem_cons_of_mem n mem
      · rename_i down
        split at reached
        · rename_i entry found
          refine ⟨entry :: n :: above, fun rest => ?_, fun x mem => ?_⟩
          · simp only [follow, if_pos isDir, if_neg down, found]
          · obtain rfl | mem := List.mem_cons.mp mem
            · exact .inr ⟨n, List.mem_cons_self, part, Toml.mem_of_lookup found⟩
            · exact .inl mem
        · cases reached
    · cases reached

/-- A path leads first where its first parts do, and goes on from there. -/
theorem exists_follow_append {parts rest : List String}
    (reached : follow stack (parts ++ rest) = .ok m) :
    ∃ n above, follow stack parts = .ok n ∧
      ∀ rest, follow stack (parts ++ rest) = follow (n :: above) rest := by
  induction parts generalizing stack with
  | nil =>
    cases stack with
    | nil => simp [follow] at reached
    | cons n above => exact ⟨n, above, rfl, fun _ => rfl⟩
  | cons part parts ih =>
    obtain ⟨next, step, -⟩ := exists_follow_cons reached
    obtain ⟨n, above, first, goesOn⟩ := ih ((step (parts ++ rest)).symm.trans reached)
    exact ⟨n, above, (step parts).trans first,
      fun rest' => (step (parts ++ rest')).trans (goesOn rest')⟩

/-- What a path leads to is proper where all is from which it starts. -/
theorem isProper_of_follow {parts : List String} (proper : ∀ n ∈ stack, n.IsProper)
    (reached : follow stack parts = .ok m) : m.IsProper := by
  induction parts generalizing stack with
  | nil =>
    cases stack with
    | nil => cases reached
    | cons n above =>
      obtain rfl := Except.ok.inj reached
      exact proper _ List.mem_cons_self
  | cons part rest ih =>
    obtain ⟨next, step, origin⟩ := exists_follow_cons reached
    refine ih (fun x mem => ?_) (step rest ▸ reached)
    obtain here | ⟨n, mem', name, inside⟩ := origin x mem
    · exact proper x here
    · exact ((proper n mem').entry inside).2

/-- Names without double dots lead down. -/
theorem follow_eq_ok_iff (down : ".." ∉ names) (above : List Node) :
    follow (n :: above) names = .ok m ↔ n.below? names = some m := by
  induction names generalizing n above with
  | nil => simp [follow, Node.below?]
  | cons name rest ih =>
    obtain ⟨here, later⟩ := not_or.mp (List.mem_cons.not.mp down)
    rw [Node.below?_cons_eq_some, follow, if_neg (Ne.symm here)]
    cases n with
    | file content executable => simp [Node.isDirectory, Node.entries]
    | directory es =>
      simp only [Node.isDirectory, if_true]
      cases found : (Node.directory es).entries.lookup name with
      | none => simp
      | some entry => simp [ih later]

theorem isFile_iff :
    t.isFile p ↔ ∃ content executable, t.find p = .ok (.file content executable) := by
  unfold isFile
  split
  · rename_i content executable found
    simp [found]
  · rename_i other
    simpa using other

/-! ## Double dots -/

/-- The directories lie on the way from the top along some names, the innermost first. -/
inductive IsTrail (top : Node) : List String → List Node → Prop
  | top : IsTrail top [] [top]
  | down {name : String} {entry n : Node} {names : List String} {above : List Node}
      (trail : IsTrail top names (n :: above)) (found : n.entries.lookup name = some entry) :
      IsTrail top (name :: names) (entry :: n :: above)

theorem IsTrail.below? {top : Node} {above : List Node} (trail : IsTrail top names (n :: above)) :
    top.below? names.reverse = some n := by
  generalize stacked : n :: above = stack at trail
  induction trail generalizing n above with
  | top =>
    cases stacked
    rfl
  | down trail found ih =>
    cases stacked
    rw [List.reverse_cons, Node.below?_append, ih rfl, Option.bind_some, Node.below?, found]
    rfl

/-- What carrying out double dots leaves of a path leads to the same node. -/
theorem IsTrail.follow {top : Node} {done parts : List String} (trail : IsTrail top done stack)
    (reached : follow stack parts = .ok m) :
    ∃ above, IsTrail top (Path.carryOut done parts).reverse (m :: above) := by
  induction parts generalizing stack done with
  | nil =>
    rw [Path.carryOut, List.reverse_reverse]
    cases trail with
    | top =>
      obtain rfl := Except.ok.inj reached
      exact ⟨[], .top⟩
    | down trail found =>
      obtain rfl := Except.ok.inj reached
      exact ⟨_, .down trail found⟩
  | cons part rest ih =>
    obtain ⟨n, above, rfl⟩ : ∃ n above, stack = n :: above := by
      cases trail with
      | top => exact ⟨_, _, rfl⟩
      | down => exact ⟨_, _, rfl⟩
    rw [FileTree.follow] at reached
    split at reached
    · split at reached
      · rename_i up
        subst up
        rw [Path.carryOut]
        refine ih ?_ reached
        cases trail with
        | top => exact .top
        | down trail found => exact trail
      · rename_i down
        split at reached
        · rename_i entry found
          rw [Path.carryOut]
          · exact ih (.down trail found) reached
          · exact down
        · cases reached
    · cases reached

/-- A file to which a path leads is listed under what the path stands for. -/
theorem resolve_mem_filesBelow (proper : t.top.IsProper) (file : t.isFile p) :
    Path.resolve t.current p ∈ filesBelow ⟨.slash, []⟩ t.top := by
  obtain ⟨content, executable, found⟩ := isFile_iff.mp file
  obtain ⟨above, trail⟩ := IsTrail.top.follow found
  refine (mem_filesBelow proper).mpr ⟨_, content, executable, ?_, trail.below?⟩
  rw [List.reverse_reverse]
  rfl

/-! ## Files below a directory -/

/-- The path lies below a directory, as it is written: some names, and no double dots, follow
those of the directory. -/
def IsBelow (root p : Path) : Prop :=
  ∃ names, names ≠ [] ∧ ".." ∉ names ∧ p = ⟨root.root, root.parts ++ names⟩

/-- Below a directory of a proper tree the listing and the paths find what is below one node. -/
theorem exists_isProper_directory (proper : t.top.IsProper) (isDir : t.isDirectory root) :
    ∃ es, (Node.directory es).IsProper ∧ t.files root = filesBelow root (.directory es) ∧
      ∀ names m, ".." ∉ names →
        (t.find ⟨root.root, root.parts ++ names⟩ = .ok m ↔
          (Node.directory es).below? names = some m) := by
  unfold isDirectory at isDir
  split at isDir
  · rename_i es found
    obtain ⟨n, above, first, goesOn⟩ := exists_follow_append
      ((congrArg _ (List.append_nil _)).trans found)
    obtain rfl : n = .directory es := Except.ok.inj (first.symm.trans found)
    refine ⟨es, isProper_of_follow (List.forall_mem_singleton.mpr proper) found, ?_, ?_⟩
    · rw [files, found, filesBelow]
    · intro names m down
      rw [find, Path.parts_join_append, goesOn, follow_eq_ok_iff down]
  · cases isDir

/-- The files listed below a directory are those to which paths below it lead. -/
theorem mem_files (proper : t.top.IsProper) (isDir : t.isDirectory root) :
    p ∈ t.files root ↔ IsBelow root p ∧ t.isFile p := by
  obtain ⟨es, whole, listed, leads⟩ := exists_isProper_directory proper isDir
  rw [listed, mem_filesBelow whole, isFile_iff]
  constructor
  · rintro ⟨names, content, executable, rfl, inside⟩
    have down : ".." ∉ names := fun mem => (whole.of_below? inside _ mem).2 rfl
    refine ⟨⟨names, ?_, down, rfl⟩, content, executable, (leads names _ down).mpr inside⟩
    rintro rfl
    cases inside
  · rintro ⟨⟨names, -, down, rfl⟩, content, executable, reached⟩
    exact ⟨names, content, executable, rfl, (leads names _ down).mp reached⟩

/-- A file that is listed has the name of an entry. -/
theorem isEntryName_of_mem_files (proper : t.top.IsProper) (isDir : t.isDirectory root)
    (mem : p ∈ t.files root) : Node.IsEntryName p.name := by
  obtain ⟨es, whole, listed, -⟩ := exists_isProper_directory proper isDir
  rw [listed, mem_filesBelow whole] at mem
  obtain ⟨names, content, executable, rfl, inside⟩ := mem
  obtain rfl | ⟨front, last, rfl⟩ := List.eq_nil_or_concat names
  · cases inside
  · have last_name : Path.name ⟨root.root, root.parts ++ front.concat last⟩ = last := by
      simp [Path.name]
    rw [last_name]
    exact whole.of_below? inside last (by simp)

/-- What a path goes on from is a directory. -/
theorem isDirectory_of_find_append {part : String} {rest : List String}
    (reached : t.find ⟨root.root, root.parts ++ part :: rest⟩ = .ok m) : t.isDirectory root := by
  rw [find, Path.parts_join_append] at reached
  obtain ⟨n, above, first, goesOn⟩ := exists_follow_append reached
  rw [goesOn, follow] at reached
  rw [isDirectory, find, first]
  cases n with
  | directory es => rfl
  | file => cases reached

/-- What holds a file is a directory. -/
theorem isDirectory_of_isFile_child {name : String} (is_part : Path.IsPartText name)
    (file : t.isFile (root.child name)) : t.isDirectory root := by
  obtain ⟨content, executable, found⟩ := isFile_iff.mp file
  rw [Path.child_part is_part] at found
  exact isDirectory_of_find_append found

theorem nodup_files (proper : t.top.IsProper) (root : Path) : (t.files root).Nodup := by
  unfold files
  split
  · rename_i es found
    have whole : (Node.directory es).IsProper :=
      isProper_of_follow (List.forall_mem_singleton.mpr proper) found
    exact nodup_filesBelow whole
  · exact List.nodup_nil

end FileTree

end Proctor

import Proctor.CommandLine
import Proctor.Proofs.CommandLine.Reading

/-!
# Options on the log

A command takes an option on the log from its own words, and from the environment if the words
do not give it. This takes two facts: a scan gives an option a value exactly if the option takes
one, so that a value that was read is of the kind of its option; and none of these options has
a default, which would count before what another command was given.
-/

namespace Proctor.CommandLine

variable {tree : FileTree} {env : Environment} {s : Scan} {p : Parameter} {rs : Readings}

/-! ## Scans -/

/-- An option was given with a value exactly if it takes one. -/
def Given.IsOf (ps : List Parameter) (g : Given) : Prop :=
  ∃ p ∈ ps, p.key = g.key ∧ g.value.isSome = p.takesValue

namespace Scan

variable {ps : List Parameter}

theorem isOf_long {p : Parameter} {name : String} {attached next : Option String} {h : Head}
    (mem : p ∈ ps) (read : long p name attached next = .ok h) : ∀ g ∈ h.options, g.IsOf ps := by
  unfold long at read
  split at read
  · rename_i takes
    obtain ⟨v, -, rfl⟩ := Except.map_eq_ok.mp read
    exact List.forall_mem_singleton.mpr ⟨p, mem, rfl, takes.symm⟩
  · rename_i flag
    split at read
    · cases read
    · obtain rfl := Except.ok.inj read
      exact List.forall_mem_singleton.mpr ⟨p, mem, rfl, (Bool.of_not_eq_true flag).symm⟩

theorem isOf_short {next : Option String} {cs : List Char} {h : Head}
    (read : short ps next cs = .ok h) : ∀ g ∈ h.options, g.IsOf ps := by
  induction cs generalizing h with
  | nil =>
    obtain rfl := Except.ok.inj read
    exact List.forall_mem_nil _
  | cons c rest ih =>
    unfold short at read
    dsimp only at read
    split at read
    · cases read
    · rename_i p found
      have mem := List.mem_of_find?_eq_some found
      split at read
      · rename_i takes
        obtain ⟨v, -, rfl⟩ := Except.map_eq_ok.mp read
        exact List.forall_mem_singleton.mpr ⟨p, mem, rfl, takes.symm⟩
      · rename_i flag
        obtain ⟨h', later, rfl⟩ := Except.map_eq_ok.mp read
        exact List.forall_mem_cons.mpr
          ⟨⟨p, mem, rfl, (Bool.of_not_eq_true flag).symm⟩, ih later⟩

theorem isOf_head {word : List Char} {next : Option String} {h : Head}
    (read : head ps word next = .ok h) : ∀ g ∈ h.options, g.IsOf ps := by
  unfold head at read
  dsimp only at read
  split at read
  · rename_i p found
    exact isOf_long (List.mem_of_find?_eq_some (Option.filter_eq_some_iff.mp found).1) read
  · split at read
    · cases read
    · exact isOf_short read

/-- The options of a scan are of the parameters it was made by. -/
theorem isOf_ofWords {isGroup skip : Bool} {words : List String}
    (scanned : ofWords ps isGroup skip words = .ok s) : ∀ g ∈ s.options, g.IsOf ps := by
  induction words generalizing skip s with
  | nil =>
    obtain rfl := Except.ok.inj scanned
    exact List.forall_mem_nil _
  | cons word rest ih =>
    unfold ofWords at scanned
    split at scanned
    · exact ih scanned
    split at scanned
    · obtain rfl := Except.ok.inj scanned
      exact List.forall_mem_nil _
    split at scanned
    · obtain ⟨h, first, scanned⟩ := Except.bind_eq_ok.mp scanned
      obtain ⟨later, others, scanned⟩ := Except.bind_eq_ok.mp scanned
      obtain rfl := Except.ok.inj scanned
      exact List.forall_mem_append.mpr ⟨isOf_head first, ih others⟩
    split at scanned
    · obtain rfl := Except.ok.inj scanned
      exact List.forall_mem_nil _
    · obtain ⟨later, others, rfl⟩ := Except.map_eq_ok.mp scanned
      exact fun g mem => ih others g mem

end Scan

/-! ## Where a value comes from -/

/-- Can a parameter of the kind have the reading? -/
def Kind.Fits : Kind → Reading → Prop
  | .flag, .truth _ => True
  | .text, .text _ | .choice _, .text _ | .choiceAnyCase _, .text _ => True
  | .positive, .number _ => True
  | .existingFile, .path _ | .anyFile, .path _ => True
  | _, _ => False

theorem fits_ofText {kind : Kind} {text : String} {reading : Reading}
    (read : Reading.ofText tree kind text = .ok reading) : kind.Fits reading := by
  cases kind with
  | flag =>
    simp only [Reading.ofText, Reading.truthOf] at read
    split at read
    · exact Except.ok.inj read ▸ trivial
    · split at read
      · exact Except.ok.inj read ▸ trivial
      · cases read
  | text => exact Except.ok.inj read ▸ trivial
  | choice names =>
    simp only [Reading.ofText, Reading.choiceOf] at read
    split at read
    · exact Except.ok.inj read ▸ trivial
    · cases read
  | choiceAnyCase names =>
    simp only [Reading.ofText, Reading.anyCaseOf] at read
    split at read
    · exact Except.ok.inj read ▸ trivial
    · cases read
  | positive =>
    simp only [Reading.ofText, Reading.positiveOf] at read
    split at read
    · cases read
    · exact Except.ok.inj read ▸ trivial
    · cases read
  | existingFile =>
    simp only [Reading.ofText, Reading.fileOf] at read
    split at read
    · cases read
    · split at read
      · cases read
      · cases read
      · split at read
        · cases read
        · exact Except.ok.inj read ▸ trivial
  | anyFile =>
    simp only [Reading.ofText, Reading.anyFileOf] at read
    split at read
    · cases read
    · exact Except.ok.inj read ▸ trivial

/-- The value that an option has, if it can be read. -/
def Scan.value? (setting : Setting) (s : Scan) (p : Parameter) : Option Reading :=
  (s.readOption setting p).toOption.join

/-- Without a default an option has the value that was given, or else that of its variable. -/
theorem Scan.readOption_eq {value : Option Reading} (noDefault : p.default = none)
    (done : s.readOption ⟨tree, env⟩ p = .ok value) :
    value = (s.value? ⟨tree, []⟩ p).or (({} : Scan).value? ⟨tree, env⟩ p) := by
  cases given : s.last? p with
  | none =>
    have unset : p.variableName.bind (Environment.get? []) = none := by
      cases p.variableName <;> rfl
    have nothing : s.readOption ⟨tree, []⟩ p = .ok none := by
      simp only [Scan.readOption, given, unset, noDefault, Option.none_or]
    have same : ({} : Scan).readOption ⟨tree, env⟩ p = s.readOption ⟨tree, env⟩ p := by
      have absent : ({} : Scan).last? p = none := rfl
      rw [Scan.readOption, Scan.readOption, given, absent]
    rw [Scan.value?, Scan.value?, same, nothing, done]
    rfl
  | some g =>
    have same : s.readOption ⟨tree, []⟩ p = s.readOption ⟨tree, env⟩ p := by
      rw [Scan.readOption, Scan.readOption, given]
    obtain ⟨reading, rfl⟩ : ∃ reading, value = some reading := by
      rw [Scan.readOption, given] at done
      dsimp only at done
      split at done
      · obtain ⟨reading, -, read⟩ := Except.map_eq_ok.mp done
        exact ⟨reading, read.symm⟩
      · exact ⟨_, (Except.ok.inj done).symm⟩
      · rename_i absent
        cases absent
    rw [Scan.value?, same, done]
    rfl

/-- What an option is read as is of its kind. -/
theorem Scan.fits_of_value? {setting : Setting} {reading : Reading}
    (wellFormed : ∀ g ∈ s.options, g.key = p.key → g.value.isSome = p.takesValue)
    (found : s.value? setting p = some reading) : p.kind.Fits reading := by
  have read : s.readOption setting p = .ok (some reading) := by
    rw [Scan.value?] at found
    cases outcome : s.readOption setting p with
    | error why =>
      rw [outcome] at found
      cases found
    | ok value =>
      rw [outcome] at found
      exact congrArg Except.ok found
  unfold Scan.readOption at read
  dsimp only at read
  split at read
  · obtain ⟨value, got, same⟩ := Except.map_eq_ok.mp read
    obtain rfl := Option.some.inj same
    exact fits_ofText (Except.mapError_eq_ok.mp got)
  · rename_i g valueless given
    obtain rfl := Option.some.inj (Except.ok.inj read)
    have valueless : g.value = none := by
      rw [given] at valueless
      exact valueless
    have mem := List.mem_reverse.mp (List.mem_of_find?_eq_some given)
    have same : g.key = p.key := by simpa using List.find?_some given
    have flag := wellFormed g mem same
    rw [valueless, Parameter.takesValue] at flag
    have kind : p.kind = .flag := by simpa using flag
    rw [kind]
    trivial
  · cases read

/-! ## Options on the log -/

namespace Reading

/-- The text that was read. -/
def asText? : Reading → Option String
  | text s => some s
  | _ => none

/-- The path that was read. -/
def asPath? : Reading → Option Path
  | path p => some p
  | _ => none

/-- The truth value that was read. -/
def asTruth? : Reading → Option Bool
  | truth b => some b
  | _ => none

variable {r : Reading}

theorem isSome_asText? {names : List String} (fits : (Kind.choiceAnyCase names).Fits r) :
    r.asText?.isSome := by
  cases r with
  | text => rfl
  | _ => cases fits

theorem isSome_asPath? (fits : Kind.anyFile.Fits r) : r.asPath?.isSome := by
  cases r with
  | path => rfl
  | _ => cases fits

theorem isSome_asTruth? (fits : Kind.flag.Fits r) : r.asTruth?.isSome := by
  cases r with
  | truth => rfl
  | _ => cases fits

end Reading

namespace LogOptions

/-- Options of which the first ones count where both are given. -/
def or (a b : LogOptions) : LogOptions := ⟨a.level.or b.level, a.file.or b.file, a.json.or b.json⟩

/-- The options on the log that a scan gives in a setting. -/
def ofScan (setting : Setting) (s : Scan) : LogOptions where
  level := (s.value? setting Parameter.logLevel).bind Reading.asText?
  file := (s.value? setting Parameter.logFile).bind Reading.asPath?
  json := (s.value? setting Parameter.jsonLogs).bind Reading.asTruth?

/-- The options on the log that were given in the words. -/
def given (tree : FileTree) (s : Scan) : LogOptions := ofScan ⟨tree, []⟩ s

/-- The options on the log that the environment gives where the words give none. -/
def ofEnvironment (tree : FileTree) (env : Environment) : LogOptions := ofScan ⟨tree, env⟩ {}

/-- The first source that has a reading decides, if what it has is of the right kind. -/
theorem bind_or {α β : Type} {a b : Option α} {part : α → Option β}
    (fits : ∀ x, a = some x → (part x).isSome) :
    (a.or b).bind part = (a.bind part).or (b.bind part) := by
  cases a with
  | none => rfl
  | some x =>
    obtain ⟨y, same⟩ := Option.isSome_iff_exists.mp (fits x rfl)
    simp [same]

theorem ofReadings_eq_bind (rs : Readings) : ofReadings rs =
    { level := (rs.lookup .logLevel).bind Reading.asText?
      file := (rs.lookup .logFile).bind Reading.asPath?
      json := (rs.lookup .jsonLogs).bind Reading.asTruth? } := by
  rw [ofReadings, Readings.text?, Readings.path?, Readings.truth?]
  generalize rs.lookup .logLevel = level
  generalize rs.lookup .logFile = file
  generalize rs.lookup .jsonLogs = json
  rw [LogOptions.mk.injEq]
  refine ⟨?_, ?_, ?_⟩
  · rcases level with _ | _ | _ <;> rfl
  · rcases file with _ | _ | _ <;> rfl
  · rcases json with _ | _ | _ <;> rfl

/-- The options of a command on the log are those in its words, or else the environment's. -/
theorem ofReadings_eq {f : Form} {words spare : List String}
    (logs : ∀ p ∈ Parameter.logging, p ∈ f.parameters ∧ ∀ q ∈ f.parameters, q.key = p.key → q = p)
    (read : f.read ⟨tree, env⟩ words = .readings rs spare)
    (scanned : Scan.ofWords f.parameters f.isGroup false words = .ok s) :
    ofReadings rs = (given tree s).or (ofEnvironment tree env) := by
  obtain ⟨scan, scanned', done, -⟩ := Form.exists_scan_of_read read
  obtain rfl := Except.ok.inj (scanned.symm.trans scanned')
  have each (p : Parameter) (mem : p ∈ Parameter.logging) : rs.lookup p.key =
      (s.value? ⟨tree, []⟩ p).or (({} : Scan).value? ⟨tree, env⟩ p) ∧
        ∀ reading, s.value? ⟨tree, []⟩ p = some reading → p.kind.Fits reading := by
    obtain ⟨inside, only⟩ := logs p mem
    have option : ∀ p ∈ Parameter.logging, p.isArgument = false ∧ p.default = none := by decide
    obtain ⟨isOption, noDefault⟩ := option p mem
    have value := Scan.lookup_of_readAll done (Scan.mem_order inside)
      fun q inside' => only q (Scan.mem_of_mem_order inside')
    rw [Scan.readParameter, isOption, if_neg Bool.false_ne_true] at value
    refine ⟨Scan.readOption_eq noDefault value, fun reading => Scan.fits_of_value? ?_⟩
    intro g present same
    obtain ⟨q, inside', same', valued⟩ := Scan.isOf_ofWords scanned g present
    rw [valued, only q inside' (same'.trans same)]
  obtain ⟨level, fitsLevel⟩ := each Parameter.logLevel (by decide)
  obtain ⟨file, fitsFile⟩ := each Parameter.logFile (by decide)
  obtain ⟨json, fitsJson⟩ := each Parameter.jsonLogs (by decide)
  have levels := (congrArg (·.bind Reading.asText?) level).trans
    (bind_or fun x found => Reading.isSome_asText? (fitsLevel x found))
  have files := (congrArg (·.bind Reading.asPath?) file).trans
    (bind_or fun x found => Reading.isSome_asPath? (fitsFile x found))
  have jsons := (congrArg (·.bind Reading.asTruth?) json).trans
    (bind_or fun x found => Reading.isSome_asTruth? (fitsJson x found))
  rw [ofReadings_eq_bind, or, LogOptions.mk.injEq]
  exact ⟨levels, files, jsons⟩

end LogOptions

end Proctor.CommandLine

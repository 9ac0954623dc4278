import Proctor.Command
import Proctor.Proofs.Command.Expansion
import Proctor.Proofs.Outcome
import Proctor.Proofs.ProjectRoot

/-!
# What building a command comes to

Three things can stand in the way of a command, in this order: the mode is none, there is no
template for it, or the template leaves no word. Where none of them does there is a command.
Only the first template counts, and only a marker that is no text could bring in another error.
-/

namespace Proctor

variable {p p' : Profile} {t : TestInfo} {mode mode' : Mode} {v : Value} {template : String}

/-! ## The mode -/

namespace Mode

theorem ofValue_name (mode : Mode) : ofValue (.text mode.name) = .ok mode := by
  cases mode <;> simp [ofValue, Value.asText?, all, name]

theorem ofValue_of_other (other : ∀ mode : Mode, v ≠ .text mode.name) :
    ofValue v = .error (.unfit (.mode v)) := by
  unfold ofValue
  split
  case h_2 => rfl
  case h_1 mode found =>
    obtain ⟨s, text, named⟩ := Option.bind_eq_some_iff.mp found
    have name : mode.name = s := by simpa using List.find?_some named
    exact absurd (Value.eq_text_of_asText? text) (name ▸ other mode)

end Mode

namespace Command

/-! ## The template -/

/-- The list that counts for a mode: its own, unless that is absent or empty, and then the
normal one. -/
def chosenFor (p : Profile) (mode : Mode) : List String :=
  if ownTemplates p mode = [] then p.commands else ownTemplates p mode

theorem chosenFor_eq_nil_iff :
    chosenFor p mode = [] ↔ ownTemplates p mode = [] ∧ p.commands = [] := by
  unfold chosenFor
  split <;> simp_all

theorem templatesFor_of_chosenFor_nil (none_ : chosenFor p mode = []) :
    templatesFor p mode = .error (.misconfigured .noTemplates) := by
  obtain ⟨own, normal⟩ := chosenFor_eq_nil_iff.mp none_
  simp [templatesFor, own, normal]

theorem templatesFor_of_chosenFor_cons {rest : List String}
    (chosen : chosenFor p mode = template :: rest) :
    templatesFor p mode = .ok (template :: rest) := by
  unfold chosenFor at chosen
  split at chosen
  case isTrue own => simp [templatesFor, own, chosen]
  case isFalse own => simp [templatesFor, chosen]

/-! ## The words -/

/-- Every field of the template comes out empty. -/
def Vanishes (values : Placeholder → String) (template : String) : Prop :=
  ∀ fields, Text.SplitsInto template.toList fields → ∀ field ∈ fields, Scans values field []

theorem vanishes_iff {values : Placeholder → String} :
    Vanishes values template ↔ expand values template = [] := by
  have each : Vanishes values template ↔
      ∀ field ∈ Text.words template.toList, fill values (pieces field) = [] := by
    unfold Vanishes
    simp only [← Text.words_eq_iff, ← fill_pieces_eq_iff, forall_eq']
  rw [each, expand, fields, List.map_eq_nil_iff, List.filter_eq_nil_iff]
  simp

theorem ne_empty_of_mem_expand {values : Placeholder → String} {word : String}
    (mem : word ∈ expand values template) : word ≠ "" := by
  obtain ⟨filled, left, rfl⟩ := List.mem_map.mp mem
  have some_ := (List.mem_filter.mp left).2
  simpa using some_

theorem exists_rootFor (tree : FileTree) (t : TestInfo) (root : Option Path)
    (markers : ∀ m ∈ p.rootMarkers, ∃ s, m = .text s) :
    ∃ seen, rootFor tree p t root = .ok seen := by
  cases root with
  | some r => exact ⟨some r, rfl⟩
  | none =>
    cases found : rootFor tree p t none with
    | ok seen => exact ⟨seen, rfl⟩
    | error e =>
      obtain ⟨m, mem, odd⟩ := ProjectRoot.exists_of_ofFile found
      obtain ⟨s, rfl⟩ := markers m mem
      cases odd

/-- With a template and a root, the words decide. -/
theorem build_eq {tree : FileTree} {root seen : Option Path} {rest : List String}
    (chosen : chosenFor p mode = template :: rest) (rooted : rootFor tree p t root = .ok seen) :
    build tree p t mode root =
      match expand (valueFor t seen p.separator) template with
      | [] => .error (.emptyCommand template)
      | words => .ok words := by
  rw [build, templatesFor_of_chosenFor_cons chosen, Except.ok_bind, rooted, Except.ok_bind]
  rfl

/-- A profile counts by its markers, its separator and the first template only. -/
theorem build_congr (tree : FileTree) (t : TestInfo) (root : Option Path)
    (markers : p'.rootMarkers = p.rootMarkers) (separator : p'.separator = p.separator)
    (first : (chosenFor p' mode').head? = (chosenFor p mode).head?) :
    build tree p' t mode' root = build tree p t mode root := by
  have rooted : rootFor tree p' t root = rootFor tree p t root := by
    simp only [rootFor, markers]
  cases chosen : chosenFor p mode with
  | nil =>
    have chosen' : chosenFor p' mode' = [] := by simpa [chosen] using first
    simp only [build, templatesFor_of_chosenFor_nil chosen,
      templatesFor_of_chosenFor_nil chosen', Except.error_bind]
  | cons template rest =>
    obtain ⟨rest', chosen'⟩ : ∃ rest', chosenFor p' mode' = template :: rest' :=
      List.head?_eq_some_iff.mp (by simpa [chosen] using first)
    simp only [build, templatesFor_of_chosenFor_cons chosen,
      templatesFor_of_chosenFor_cons chosen', rooted, separator, Except.ok_bind, List.headD_cons]

/-! ## The outcome -/

/-- What building comes to, for a mode and with texts for the placeholders. -/
inductive Builds (p : Profile) (mode : Mode) (values : Placeholder → String) :
    Except Error (List String) → Prop
  | bare (none_ : chosenFor p mode = []) :
      Builds p mode values (.error (.misconfigured .noTemplates))
  | vanished {template : String} {rest : List String}
      (chosen : chosenFor p mode = template :: rest) (vanishes : Vanishes values template) :
      Builds p mode values (.error (.emptyCommand template))
  | built {template : String} {rest words : List String}
      (chosen : chosenFor p mode = template :: rest) (stays : ¬ Vanishes values template)
      (stands : Expansion values template words) (some_ : words ≠ [])
      (each : ∀ word ∈ words, word ≠ "") : Builds p mode values (.ok words)

theorem builds {tree : FileTree} {root seen : Option Path}
    (rooted : rootFor tree p t root = .ok seen) :
    Builds p mode (valueFor t seen p.separator) (build tree p t mode root) := by
  cases chosen : chosenFor p mode with
  | nil =>
    rw [build, templatesFor_of_chosenFor_nil chosen, Except.error_bind]
    exact .bare chosen
  | cons template rest =>
    rw [build_eq chosen rooted]
    cases expanded : expand (valueFor t seen p.separator) template with
    | nil => exact .vanished chosen (vanishes_iff.mpr expanded)
    | cons word words =>
      refine .built chosen ?_ (expand_eq_iff.mp expanded) (List.cons_ne_nil _ _)
        fun _ mem => ne_empty_of_mem_expand (expanded ▸ mem)
      rw [vanishes_iff, expanded]
      exact List.cons_ne_nil _ _

/-- Where there is a first template, only its words decide. -/
theorem Builds.of_chosen {values : Placeholder → String} {answer : Except Error (List String)}
    {rest : List String} (outcome : Builds p mode values answer)
    (chosen : chosenFor p mode = template :: rest) :
    Vanishes values template ∧ answer = .error (.emptyCommand template) ∨
      ¬ Vanishes values template ∧ ∃ words, answer = .ok words ∧
        Expansion values template words ∧ words ≠ [] ∧ ∀ word ∈ words, word ≠ "" := by
  cases outcome with
  | bare none_ => cases chosen.symm.trans none_
  | vanished chosen' vanishes =>
    obtain ⟨rfl, rfl⟩ := List.cons.inj (chosen.symm.trans chosen')
    exact .inl ⟨vanishes, rfl⟩
  | built chosen' stays stands some_ each =>
    obtain ⟨rfl, rfl⟩ := List.cons.inj (chosen.symm.trans chosen')
    exact .inr ⟨stays, _, rfl, stands, some_, each⟩

/-- Whatever the files, the test and the value that is given for the mode: building fails with
the error of an unfit value exactly if the value names no mode. If it names one, building fails
with an error of configuration exactly if neither the mode nor normal runs have a template. And
if there is a first template, it fails with an error of building exactly if every field of that
template comes out empty; otherwise there is a command, of at least one word, none of them
empty, and these are the words that the template stands for. No other template has a part in
that. -/
theorem build_outcome (tree : FileTree) (t : TestInfo) (v : Value) (root : Option Path)
    (markers : ∀ m ∈ p.rootMarkers, ∃ s, m = .text s) :
    let answer := Mode.ofValue v >>= fun mode => build tree p t mode root
    ((∃ e, answer = .error e ∧ e.isUnfit) ↔ ∀ mode : Mode, v ≠ .text mode.name) ∧
    ∀ mode : Mode, v = .text mode.name →
      ((∃ e, answer = .error e ∧ e.isConfiguration) ↔
        ownTemplates p mode = [] ∧ p.commands = []) ∧
      ∀ template rest, chosenFor p mode = template :: rest →
        ∃ seen, rootFor tree p t root = .ok seen ∧
          let values := valueFor t seen p.separator
          ((∃ e, answer = .error e ∧ e.isBuild) ↔ Vanishes values template) ∧
          (¬ Vanishes values template → ∃ words, answer = .ok words ∧
            Expansion values template words ∧ words ≠ [] ∧ ∀ word ∈ words, word ≠ "") ∧
          ∀ p' : Profile, ∀ mode', p'.rootMarkers = p.rootMarkers →
            p'.separator = p.separator → (chosenFor p' mode').head? = some template →
            build tree p' t mode' root = answer := by
  intro answer
  obtain ⟨seen, rooted⟩ := exists_rootFor tree t root markers
  have named (mode : Mode) (name : v = .text mode.name) : answer = build tree p t mode root := by
    simp only [answer, name, Mode.ofValue_name, Except.ok_bind]
  have unnamed (other : ∀ mode : Mode, v ≠ .text mode.name) :
      answer = .error (.unfit (.mode v)) := by
    simp only [answer, Mode.ofValue_of_other other, Except.error_bind]
  clear_value answer
  constructor
  · constructor
    · rintro ⟨e, failed, unfit⟩ mode name
      have outcome : Builds p mode _ answer := named mode name ▸ builds rooted
      rw [failed] at outcome
      cases outcome <;> cases unfit
    · exact fun other => ⟨_, unnamed other, rfl⟩
  · intro mode name
    have outcome : Builds p mode _ answer := named mode name ▸ builds rooted
    constructor
    · rw [← chosenFor_eq_nil_iff]
      cases outcome with
      | bare none_ => simp [none_, Error.isConfiguration]
      | vanished chosen vanishes => simp [chosen, Error.isConfiguration]
      | built chosen stays => simp [chosen]
    · intro template rest chosen
      refine ⟨seen, rooted, ?_, ?_, fun p' mode' markers' separator first => ?_⟩
      · obtain ⟨vanishes, rfl⟩ | ⟨stays, words, rfl, -⟩ := outcome.of_chosen chosen
        · simp [vanishes, Error.isBuild]
        · simp [stays]
      · intro stays
        exact ((outcome.of_chosen chosen).resolve_left fun failed => stays failed.1).2
      · rw [named mode name]
        exact build_congr tree t root markers' separator (by rw [first, chosen, List.head?_cons])

/-! A template that asks for nothing but the ending of the file. -/

def endingProfile : Profile where
  commands := ["%e", "make %s"]
  coverageCommands := some []
  rootMarkers := [.text "go.mod"]

def emptyTree : FileTree := ⟨.directory [], ⟨.slash, []⟩⟩

def checkIn (file : String) : TestInfo := { name := some "check", file := .parse file, line := 1 }

/-- There is a command for a file with an ending and none for a file without. The list for the
mode is empty, so the normal one counts, and its second template does not. -/
theorem build_outcome_ending :
    let answer (file : String) := Mode.ofValue (.text "coverage") >>= fun mode =>
      build emptyTree endingProfile (checkIn file) mode none
    (∀ m ∈ endingProfile.rootMarkers, ∃ s, m = .text s) ∧
      (∃ e, answer "/w/Makefile" = .error e ∧ e.isBuild) ∧
      ∃ words, answer "/w/rules.mk" = .ok words ∧ words = ["mk"] := by
  intro answer
  have markers : ∀ m ∈ endingProfile.rootMarkers, ∃ s, m = .text s := by
    simp [endingProfile]
  have outcome (file : String) := (build_outcome emptyTree (checkIn file) (.text "coverage") none
    markers).2 .coverage rfl
  refine ⟨markers, ?_, ?_⟩
  · have nowhere : rootFor emptyTree endingProfile (checkIn "/w/Makefile") none = .ok none := rfl
    obtain ⟨seen, rooted, empty, -, -⟩ := (outcome "/w/Makefile").2 "%e" ["make %s"] rfl
    obtain rfl := Except.ok.inj (nowhere.symm.trans rooted)
    exact empty.mpr (vanishes_iff.mpr (by decide +kernel))
  · have nowhere : rootFor emptyTree endingProfile (checkIn "/w/rules.mk") none = .ok none := rfl
    obtain ⟨seen, rooted, -, built, -⟩ := (outcome "/w/rules.mk").2 "%e" ["make %s"] rfl
    obtain rfl := Except.ok.inj (nowhere.symm.trans rooted)
    have expanded : expand (valueFor (checkIn "/w/rules.mk") none endingProfile.separator) "%e" =
        ["mk"] := by
      decide +kernel
    obtain ⟨words, answered, stands, -⟩ := built (by simp [vanishes_iff, expanded])
    exact ⟨words, answered, (expand_eq_iff.mpr stands).symm.trans expanded⟩

end Command

end Proctor

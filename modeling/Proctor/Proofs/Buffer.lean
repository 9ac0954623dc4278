import Proctor.CommandLine.Run
import Proctor.Proofs.Outcome
import Proctor.Proofs.Session.Locate
import Proctor.Proofs.Text.Line

/-!
# The numbers of lines

Whoever opens a file counts its lines by line feeds and carriage returns. A session that reads
the file cuts its text at other characters too, so its numbers are those of the file exactly if
the file holds none of them. Then a session answers about the file as it does about lines that
an editor hands over.
-/

namespace Proctor

open Text (HasLines isLineBreak)

/-- A character that ends a line of a file. -/
def Text.isLineEnd (c : Char) : Bool := c == '\n' || c == '\r'

namespace Buffer

open Text (isLineEnd)

variable {tree : FileTree} {path : Path} {bytes : List UInt8} {lines : List String}

/-- The lines of a file as they are counted: a line feed, a carriage return or both together end
a line, and after the last of them there is no empty line. -/
def OwnLines (bytes : List UInt8) (lines : List String) : Prop :=
  HasLines isLineEnd (Text.Utf8.decode bytes) (lines.map String.toList)

/-- Nothing in the file is taken for the end of a line that ends none. -/
def IsPlain (bytes : List UInt8) : Prop :=
  ∀ c ∈ Text.Utf8.decode bytes, isLineBreak c → isLineEnd c

theorem isPlain_iff_all :
    IsPlain bytes ↔ (Text.Utf8.decode bytes).all fun c => !isLineBreak c || isLineEnd c := by
  simp [IsPlain, imp_iff_not_or]

instance : Decidable (IsPlain bytes) := decidable_of_iff' _ isPlain_iff_all

theorem isLineBreak_of_isLineEnd {c : Char} (ends : isLineEnd c) : isLineBreak c := by
  obtain rfl | rfl : c = '\n' ∨ c = '\r' := by simpa [isLineEnd] using ends
  all_goals decide

theorem toList_ofBytes (bytes : List UInt8) : (ofBytes bytes).map String.toList =
    Text.lines (Text.unifyBreaks (Text.Utf8.decode bytes)) := by
  simp [ofBytes, Function.comp_def]

theorem read_of_stored (stored : tree.read path = .ok bytes) :
    read tree path = .ok (ofBytes bytes) := by
  rw [read, stored]
  rfl

/-- A file is cut at every break that a text can have. -/
theorem hasLines_ofBytes (bytes : List UInt8) :
    HasLines isLineBreak (Text.Utf8.decode bytes) ((ofBytes bytes).map String.toList) := by
  rw [toList_ofBytes]
  exact Text.hasLines_lines _

theorem ownLines_ofBytes_iff : OwnLines bytes (ofBytes bytes) ↔ IsPlain bytes :=
  (hasLines_ofBytes bytes).congr_iff fun _ => isLineBreak_of_isLineEnd

/-- A file has its own lines, and no other ones. -/
theorem exists_ownLines (bytes : List UInt8) :
    ∃ own, ∀ lines, OwnLines bytes lines ↔ lines = own := by
  have first : isLineEnd '\r' := rfl
  have second : isLineEnd '\n' := rfl
  obtain ⟨ls, has⟩ := Text.exists_hasLines first second (Text.Utf8.decode bytes)
  have back : (ls.map String.ofList).map String.toList = ls := by simp [Function.comp_def]
  refine ⟨ls.map String.ofList, fun lines => ⟨fun own => ?_, ?_⟩⟩
  · rw [has.unique own]
    simp [Function.comp_def]
  · rintro rfl
    rwa [OwnLines, back]

end Buffer

namespace Session

variable {s : Session} {file : String} {own : List String} {language : Option String}

/-! ## Answers about a file -/

theorem source_of_read
    (found : Buffer.read s.tree (Path.resolve s.tree.current (.parse file)) = .ok own) :
    s.source file none language = s.source file (some own) language := by
  simp only [source, Source.ofFile, Source.linesOf, found]

theorem locate_of_read
    (found : Buffer.read s.tree (Path.resolve s.tree.current (.parse file)) = .ok own)
    (cursor : Int) :
    s.locate file none cursor language = s.locate file (some own) cursor language := by
  rw [locate, locate, source_of_read found]

theorem findAll_of_read
    (found : Buffer.read s.tree (Path.resolve s.tree.current (.parse file)) = .ok own) :
    s.findAll file none language = s.findAll file (some own) language := by
  rw [findAll, findAll, source_of_read found]

theorem selectAtPoint_of_read
    (found : Buffer.read s.tree (Path.resolve s.tree.current (.parse file)) = .ok own)
    (cursor : Int) :
    s.selectAtPoint file none cursor language =
      s.selectAtPoint file (some own) cursor language := by
  rw [selectAtPoint, selectAtPoint, atPoint, atPoint, locate_of_read found]

end Session

namespace CommandLine.Desk

variable {d d' : Desk} {options : LogOptions} {r : RunRequest} {s : Session} {t : TestInfo}

theorem tree_openSession {given : Option Path} (opened : d.openSession given = (d', .ok s)) :
    s.tree = d.tree := by
  unfold openSession loadConfig at opened
  cases loaded : Config.load d.tree d.call.environment (d.configPath given) none with
  | error why =>
    simp only [loaded] at opened
    split at opened <;> cases opened
  | ok config =>
    simp only [loaded] at opened
    split at opened <;> (cases opened; rfl)

/-- The test that a run comes to governs the given line of the lines that were read, in the
session that the run opens. -/
theorem locate_of_reach (reached : d.reach options r = .ok (d', s, t)) :
    ∃ (d₀ : Desk) (s₀ : Session) (lines : List String),
      (d.configureFor options).openSession r.config = (d₀, .ok s₀) ∧
      Buffer.read d.tree r.file = .ok lines ∧
      (s₀.locate r.file.text (some lines) (cursorFor r.line lines) r.language).2 =
        .ok (some t) := by
  unfold reach at reached
  split at reached
  · cases reached
  · rename_i d₀ s₀ opened
    have tree : s₀.tree = (d.configureFor options).tree := tree_openSession opened
    change s₀.tree = d.tree at tree
    split at reached
    · cases reached
    · rename_i lines read
      refine ⟨d₀, s₀, lines, opened, tree ▸ read, ?_⟩
      dsimp only at reached
      split at reached
      · split at reached <;> cases reached
      · cases reached
      · rename_i u found
        obtain ⟨-, -, rfl⟩ := by simpa using reached
        exact found

end CommandLine.Desk

namespace Buffer

open CommandLine (LogOptions RunRequest Desk)

/-! ## The numbers of a file -/

/-- A file that is read is cut at every break that a text can have. What is read are the lines
of the file itself exactly if nothing in it is taken for the end of a line that ends none. Then
a session answers about the file as it does about its own lines: the tests it lists, the one
that governs a line, the one that is selected at a line and the one that is run. -/
theorem read_own_lines_iff (tree : FileTree) (path : Path) (bytes : List UInt8)
    (stored : tree.read path = .ok bytes) :
    (∃ buffer, read tree path = .ok buffer ∧
      HasLines isLineBreak (Text.Utf8.decode bytes) (buffer.map String.toList)) ∧
    ∃ own, (∀ lines, OwnLines bytes lines ↔ lines = own) ∧
      (read tree path = .ok own ↔ IsPlain bytes) ∧
      (IsPlain bytes →
        (∀ (s : Session) (file : String) (language : Option String), s.tree = tree →
          Path.resolve tree.current (.parse file) = path →
          s.findAll file none language = s.findAll file (some own) language ∧
          ∀ cursor, s.locate file none cursor language =
              s.locate file (some own) cursor language ∧
            s.selectAtPoint file none cursor language =
              s.selectAtPoint file (some own) cursor language) ∧
        ∀ (d d' : Desk) (options : LogOptions) (r : RunRequest) (s : Session) (t : TestInfo),
          d.tree = tree → r.file = path → d.reach options r = .ok (d', s, t) →
          ∃ (d₀ : Desk) (s₀ : Session),
            (d.configureFor options).openSession r.config = (d₀, .ok s₀) ∧
            (s₀.locate path.text (some own) (Desk.cursorFor r.line own) r.language).2 =
              .ok (some t)) := by
  have found := read_of_stored stored
  obtain ⟨own, unique⟩ := exists_ownLines bytes
  have read_iff : read tree path = .ok own ↔ IsPlain bytes := by
    rw [found, ← ownLines_ofBytes_iff, unique, Except.ok.injEq]
  refine ⟨⟨_, found, hasLines_ofBytes bytes⟩, own, unique, read_iff, fun plain => ⟨?_, ?_⟩⟩
  · rintro s file language rfl rfl
    have found := read_iff.mpr plain
    exact ⟨Session.findAll_of_read found, fun cursor =>
      ⟨Session.locate_of_read found cursor, Session.selectAtPoint_of_read found cursor⟩⟩
  · rintro d d' options r s t rfl rfl reached
    obtain ⟨d₀, s₀, lines, opened, found, located⟩ := Desk.locate_of_reach reached
    obtain rfl : lines = own := Except.ok.inj (found.symm.trans (read_iff.mpr plain))
    exact ⟨d₀, s₀, opened, located⟩

/-! A file of the Go language, in a session that knows that language. -/

def sumTree (text : String) : FileTree where
  top := .directory [("sum_test.go", .file (Text.Utf8.encode text) false)]
  current := ⟨.slash, []⟩

def sumPath : Path := ⟨.slash, ["sum_test.go"]⟩

def sumSession (text : String) : Session :=
  { Session.goSession with world := { Session.goSession.world with tree := sumTree text } }

def sumDesk (text : String) : Desk where
  call := { words := [], environment := [], tree := sumTree text, time := "" }
  tree := sumTree text

def sumRequest (line : Nat) : RunRequest :=
  .ofReadings [(.file, .path sumPath), (.line, .number line), (.mode, .text "normal")]

def mixedText : String := "func TestA()\r\n\nfunc TestB()\n"

def mixedLines : List String := ["func TestA()", "", "func TestB()"]

/-- Line ends of both kinds are counted, and the second test stands in the third line. -/
theorem read_own_lines_mixed :
    OwnLines (Text.Utf8.encode mixedText) mixedLines ∧
    (sumSession mixedText).findAll "sum_test.go" none (some "go") =
      (sumSession mixedText).findAll "sum_test.go" (some mixedLines) (some "go") ∧
    ∃ (d₀ : Desk) (s₀ : Session) (t : TestInfo), t.name = some "TestB" ∧ t.line = 3 ∧
      ((sumDesk mixedText).configureFor {}).openSession none = (d₀, .ok s₀) ∧
      (s₀.locate sumPath.text (some mixedLines) 3 none).2 = .ok (some t) := by
  have stored : (sumTree mixedText).read sumPath = .ok (Text.Utf8.encode mixedText) := rfl
  have plain : IsPlain (Text.Utf8.encode mixedText) := by decide +kernel
  obtain ⟨-, own, unique, read_iff, answers⟩ := read_own_lines_iff _ _ _ stored
  have lines : (read (sumTree mixedText) sumPath).toOption = some mixedLines := by decide +kernel
  obtain rfl : mixedLines = own := by
    rw [read_iff.mpr plain] at lines
    exact (Option.some.inj lines).symm
  obtain ⟨sessions, runs⟩ := answers plain
  have second : ((sumDesk mixedText).reach {} (sumRequest 3)).toOption.map (fun came =>
      (came.2.2.name, came.2.2.line)) = some (some "TestB", 3) := by decide +kernel
  obtain ⟨⟨d', s, t⟩, came, same⟩ := Option.map_eq_some_iff.mp second
  obtain ⟨name, line⟩ := Prod.mk.inj same
  obtain ⟨d₀, s₀, opened, located⟩ := runs (sumDesk mixedText) d' {} (sumRequest 3) s t rfl rfl
    (Except.toOption_eq_some.mp came)
  have alike := sessions (sumSession mixedText) "sum_test.go" (some "go") rfl (by decide +kernel)
  exact ⟨(unique _).mpr rfl, alike.1, d₀, s₀, t, name, line, opened, located⟩

def feedText : String := "func TestA()\n\x0c\nfunc TestB()\n"

def feedLines : List String := ["func TestA()", "\x0c", "func TestB()"]

/-- A form feed alone in its line makes two lines of it. The second test stands in the third
line of the file and is taken to stand in the fourth, so that a run at line three is a run of
the first test. -/
theorem form_feed_shifts :
    OwnLines (Text.Utf8.encode feedText) feedLines ∧
    read (sumTree feedText) sumPath = .ok ["func TestA()", "", "", "func TestB()"] ∧
    ¬ OwnLines (Text.Utf8.encode feedText) ["func TestA()", "", "", "func TestB()"] ∧
    ((sumDesk feedText).reach {} (sumRequest 3)).toOption.map (fun came =>
      (came.2.2.name, came.2.2.line)) = some (some "TestA", 1) ∧
    ((sumSession feedText).locate "sum_test.go" (some feedLines) 3 (some "go")).2.toOption.map
      (Option.map fun t => (t.name, t.line)) = some (some (some "TestB", 3)) ∧
    ((sumSession feedText).findAll "sum_test.go" none (some "go")).2.toOption.map
      (List.map fun t => (t.name, t.line)) = some [(some "TestA", 1), (some "TestB", 4)] := by
  have text : Text.Utf8.decode (Text.Utf8.encode feedText) =
      "func TestA()".toList ++ (['\n'] ++ (['\x0c'] ++ (['\n'] ++
        ("func TestB()".toList ++ (['\n'] ++ []))))) := by decide +kernel
  have clean {line : List Char} (plain : line.all (!Text.isLineEnd ·)) :
      ∀ c ∈ line, Text.isLineEnd c = false := by simpa using plain
  have own : OwnLines (Text.Utf8.encode feedText) feedLines := by
    rw [OwnLines, text]
    exact .cons (clean (by decide)) (.single rfl (by decide)) (.cons (clean (by decide))
      (.single rfl (by decide)) (.cons (clean (by decide)) (.single rfl (by decide)) .empty))
  refine ⟨own, Except.toOption_eq_some.mp (by decide +kernel), fun shifted => ?_,
    by decide +kernel, by decide +kernel, by decide +kernel⟩
  exact absurd (HasLines.unique own shifted) (by decide)

end Buffer

end Proctor

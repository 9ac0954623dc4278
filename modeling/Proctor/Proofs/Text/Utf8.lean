import Proctor.Proofs.Text.Character
import Proctor.Text.Line
import Proctor.Text.Utf8

/-!
# Reading encoded text

The decoder reads back what was encoded: after the bytes of a character it stands between
characters again and has read that character and nothing else. Whatever the bytes, a line
feed is read as a line feed and nothing else is, so lines may be cut before they are read.
-/

namespace Proctor.Text.Utf8

/-! ## The bytes of a text -/

/-- The bytes of some characters. -/
def encodeChars (cs : List Char) : List UInt8 := cs.flatMap String.utf8EncodeChar

@[simp] theorem encodeChars_nil : encodeChars [] = [] := rfl

theorem encodeChars_cons (c : Char) (cs : List Char) :
    encodeChars (c :: cs) = String.utf8EncodeChar c ++ encodeChars cs := rfl

theorem toList_loop (bs : ByteArray) (i : Nat) (done : List UInt8) :
    ByteArray.toList.loop bs i done = done.reverse ++ bs.data.toList.drop i := by
  fun_induction ByteArray.toList.loop bs i done with
  | case1 i done inside ih =>
    have here : i < bs.data.toList.length := by simpa using inside
    rw [ih, List.drop_eq_getElem_cons here]
    simp [ByteArray.get!, inside]
  | case2 i done outside =>
    have none_ : bs.data.toList.drop i = [] := List.drop_eq_nil_of_le (by simpa using outside)
    rw [none_, List.append_nil]

theorem encode_eq (s : String) : encode s = encodeChars s.toList := by
  have bytes : (String.ofList s.toList).toByteArray = s.toList.utf8Encode :=
    String.toByteArray_ofList
  rw [String.ofList_toList] at bytes
  rw [encode, String.toUTF8_eq_toByteArray, bytes, ByteArray.toList, toList_loop,
    List.utf8Encode, List.toList_data_toByteArray]
  rfl

/-! ## One character -/

theorem first_one : ∀ n < 128,
    first (UInt8.ofNat n) = (.start, [some (Char.ofNat n)]) := by
  decide +kernel

theorem first_two : ∀ n < 224, 194 ≤ n →
    first (UInt8.ofNat n) = (.owed 0x80 0xbf 0 (n - 192), []) := by
  decide +kernel

theorem first_three : ∀ n < 240, 224 ≤ n →
    first (UInt8.ofNat n) = (.owed (if n = 224 then 0xa0 else 0x80)
      (if n = 237 then 0x9f else 0xbf) 1 (n - 224), []) := by
  decide +kernel

theorem first_four : ∀ n < 245, 240 ≤ n →
    first (UInt8.ofNat n) = (.owed (if n = 240 then 0x90 else 0x80)
      (if n = 244 then 0x8f else 0xbf) 2 (n - 240), []) := by
  decide +kernel

/-- A byte that fits. -/
theorem step_owed {low high : UInt8} {n value : Nat} (more : Nat) (size : n < 256)
    (fits : low.toNat ≤ n ∧ n ≤ high.toNat) :
    step (.owed low high more value) (UInt8.ofNat n) =
      match more with
      | 0 => (.start, [some (Char.ofNat (64 * value + (n - 128)))])
      | more + 1 => (.owed 0x80 0xbf more (64 * value + (n - 128)), []) := by
  have same : (UInt8.ofNat n).toNat = n := by
    rw [UInt8.toNat_ofNat']
    omega
  have held : (low ≤ UInt8.ofNat n && UInt8.ofNat n ≤ high) = true := by
    simp only [UInt8.le_iff_toNat_le, same, fits, decide_true, Bool.and_self]
  rw [step, held, same]
  rfl

theorem runFrom_cons (done : List Piece) (state : State) (b : UInt8) (rest : List UInt8) :
    runFrom done state (b :: rest) =
      runFrom ((step state b).2.reverse ++ done) (step state b).1 rest := rfl

@[simp] theorem step_start (b : UInt8) : step .start b = first b := rfl

section

variable {n : Nat} (done : List Piece) (rest : List UInt8)

theorem runFrom_one (size : n < 128) :
    runFrom done .start (UInt8.ofNat n :: rest) =
      runFrom (some (Char.ofNat n) :: done) .start rest := by
  rw [runFrom_cons, step_start, first_one n size]
  rfl

theorem runFrom_two (low : 128 ≤ n) (high : n < 2048) :
    runFrom done .start (UInt8.ofNat (n / 64 % 32 + 192) :: UInt8.ofNat (n % 64 + 128) :: rest) =
      runFrom (some (Char.ofNat n) :: done) .start rest := by
  have value : 64 * (n / 64 % 32 + 192 - 192) + (n % 64 + 128 - 128) = n := by omega
  have fits : (0x80 : UInt8).toNat ≤ n % 64 + 128 ∧ n % 64 + 128 ≤ (0xbf : UInt8).toNat := by
    simp only [UInt8.toNat_ofNat]
    omega
  rw [runFrom_cons, step_start, first_two _ (by omega) (by omega), runFrom_cons,
    step_owed 0 (by omega) fits, value]
  rfl

theorem runFrom_three (low : 2048 ≤ n) (high : n < 65536) (valid : n < 0xd800 ∨ 0xdfff < n) :
    runFrom done .start (UInt8.ofNat (n / 4096 % 16 + 224) ::
      UInt8.ofNat (n / 64 % 64 + 128) :: UInt8.ofNat (n % 64 + 128) :: rest) =
      runFrom (some (Char.ofNat n) :: done) .start rest := by
  have value : 64 * (64 * (n / 4096 % 16 + 224 - 224) + (n / 64 % 64 + 128 - 128)) +
      (n % 64 + 128 - 128) = n := by omega
  have fits : (if n / 4096 % 16 + 224 = 224 then (0xa0 : UInt8) else 0x80).toNat ≤
      n / 64 % 64 + 128 ∧ n / 64 % 64 + 128 ≤
        (if n / 4096 % 16 + 224 = 237 then (0x9f : UInt8) else 0xbf).toNat := by
    constructor <;> split <;> simp only [UInt8.toNat_ofNat] <;> omega
  have last : (0x80 : UInt8).toNat ≤ n % 64 + 128 ∧ n % 64 + 128 ≤ (0xbf : UInt8).toNat := by
    simp only [UInt8.toNat_ofNat]
    omega
  rw [runFrom_cons, step_start, first_three _ (by omega) (by omega), runFrom_cons,
    step_owed 1 (by omega) fits, runFrom_cons, step_owed 0 (by omega) last, value]
  rfl

theorem runFrom_four (low : 65536 ≤ n) (high : n < 0x110000) :
    runFrom done .start (UInt8.ofNat (n / 262144 % 8 + 240) :: UInt8.ofNat (n / 4096 % 64 + 128) ::
      UInt8.ofNat (n / 64 % 64 + 128) :: UInt8.ofNat (n % 64 + 128) :: rest) =
      runFrom (some (Char.ofNat n) :: done) .start rest := by
  have value : 64 * (64 * (64 * (n / 262144 % 8 + 240 - 240) + (n / 4096 % 64 + 128 - 128)) +
      (n / 64 % 64 + 128 - 128)) + (n % 64 + 128 - 128) = n := by omega
  have fits : (if n / 262144 % 8 + 240 = 240 then (0x90 : UInt8) else 0x80).toNat ≤
      n / 4096 % 64 + 128 ∧ n / 4096 % 64 + 128 ≤
        (if n / 262144 % 8 + 240 = 244 then (0x8f : UInt8) else 0xbf).toNat := by
    constructor <;> split <;> simp only [UInt8.toNat_ofNat] <;> omega
  have middle : (0x80 : UInt8).toNat ≤ n / 64 % 64 + 128 ∧
      n / 64 % 64 + 128 ≤ (0xbf : UInt8).toNat := by
    simp only [UInt8.toNat_ofNat]
    omega
  have last : (0x80 : UInt8).toNat ≤ n % 64 + 128 ∧ n % 64 + 128 ≤ (0xbf : UInt8).toNat := by
    simp only [UInt8.toNat_ofNat]
    omega
  rw [runFrom_cons, step_start, first_four _ (by omega) (by omega), runFrom_cons,
    step_owed 2 (by omega) fits, runFrom_cons, step_owed 1 (by omega) middle, runFrom_cons,
    step_owed 0 (by omega) last, value]
  rfl

end

/-- After the bytes of a character the machine has read it and stands between characters. -/
theorem runFrom_utf8EncodeChar (done : List Piece) (c : Char) (rest : List UInt8) :
    runFrom done .start (String.utf8EncodeChar c ++ rest) =
      runFrom (some c :: done) .start rest := by
  have valid := toNat_valid c
  have number : Char.ofNat c.toNat = c := Char.ofNat_toNat c
  have same : c.val.toNat = c.toNat := rfl
  rw [← congrArg some number]
  unfold String.utf8EncodeChar
  simp only [same]
  split
  case isTrue => exact runFrom_one done rest (by omega)
  case isFalse =>
    split
    case isTrue => exact runFrom_two done rest (by omega) (by omega)
    case isFalse =>
      split
      case isTrue => exact runFrom_three done rest (by omega) (by omega) (by omega)
      case isFalse => exact runFrom_four done rest (by omega) (by omega)

theorem runFrom_encodeChars (done : List Piece) (cs : List Char) :
    runFrom done .start (encodeChars cs) = done.reverse ++ cs.map some := by
  induction cs generalizing done with
  | nil => simp [runFrom, finish]
  | cons c cs ih =>
    rw [encodeChars_cons, runFrom_utf8EncodeChar, ih]
    simp

/-- The decoder reads back what was encoded. -/
theorem decode_encode (text : String) : decode (encode text) = text.toList := by
  rw [decode, pieces, encode_eq, runFrom_encodeChars]
  simp [Function.comp_def]

/-! ## Line feeds -/

/-- Inside a character the next byte is a continuation, and no character that takes more than
one byte is below 64. -/
def State.Sound : State → Prop
  | .start => True
  | .owed low _ more value =>
    0x80 ≤ low.toNat ∧ 1 ≤ 64 * value + (low.toNat - 0x80) ∧ (more = 0 → 1 ≤ value)

instance : DecidablePred State.Sound
  | .start => inferInstanceAs (Decidable True)
  | .owed low _ more value => inferInstanceAs (Decidable (0x80 ≤ low.toNat ∧
      1 ≤ 64 * value + (low.toNat - 0x80) ∧ (more = 0 → 1 ≤ value)))

/-- What is true of the 256 bytes is true of every byte. -/
theorem forall_byte {P : UInt8 → Prop} (all : ∀ n < 256, P (UInt8.ofNat n)) (b : UInt8) : P b := by
  have same : UInt8.ofNat b.toNat = b := UInt8.ofNat_toNat
  exact same ▸ all b.toNat b.toNat_lt

theorem first_sound (b : UInt8) : (first b).1.Sound :=
  forall_byte (P := fun b => (first b).1.Sound) (by decide +kernel) b

theorem first_newline (b : UInt8) : some '\n' ∈ (first b).2 → b = 10 :=
  forall_byte (P := fun b => some '\n' ∈ (first b).2 → b = 10) (by decide +kernel) b

theorem first_progress (b : UInt8) : (first b).1 = .start → (first b).2 ≠ [] :=
  forall_byte (P := fun b => (first b).1 = .start → (first b).2 ≠ []) (by decide +kernel) b

section

variable {state : State} (sound : state.Sound)

include sound

theorem step_sound (b : UInt8) : (step state b).1.Sound := by
  cases state with
  | start => exact first_sound b
  | owed low high more value =>
    obtain ⟨continuation, large, last⟩ := sound
    rw [step]
    split
    case isTrue fits =>
      rw [Bool.and_eq_true, decide_eq_true_eq, decide_eq_true_eq, UInt8.le_iff_toNat_le] at fits
      cases more with
      | zero => trivial
      | succ more =>
        have low' : (0x80 : UInt8).toNat = 0x80 := rfl
        refine ⟨Nat.le_of_eq low'.symm, ?_, fun _ => ?_⟩ <;> omega
    case isFalse => exact first_sound b

/-- Only a line feed is read as a line feed. -/
theorem step_newline {b : UInt8} (read : some '\n' ∈ (step state b).2) : b = 10 := by
  cases state with
  | start => exact first_newline b read
  | owed low high more value =>
    obtain ⟨continuation, large, last⟩ := sound
    rw [step] at read
    split at read
    case isTrue =>
      cases more with
      | zero =>
        have same := Option.some_inj.mp (List.mem_singleton.mp read)
        have number : _ = 10 := Text.eq_toNat_of_ofNat same.symm (by decide)
        have positive : 1 ≤ value := last rfl
        omega
      | succ more => exact absurd read List.not_mem_nil
    case isFalse =>
      obtain impossible | read := List.mem_cons.mp read
      · exact absurd impossible (Option.some_ne_none _)
      · exact first_newline b read

/-- A line feed ends whatever has been begun. -/
theorem step_lineFeed : step state 10 = (.start, finish state ++ [some '\n']) := by
  cases state with
  | start => rfl
  | owed low high more value =>
    have ten : (10 : UInt8).toNat = 10 := rfl
    have low_ : ¬ low ≤ 10 := by
      rw [UInt8.le_iff_toNat_le, ten]
      have continuation := sound.1
      omega
    rw [step, decide_eq_false low_]
    rfl

end

theorem runFrom_done (done : List Piece) (state : State) (bytes : List UInt8) :
    runFrom done state bytes = done.reverse ++ runFrom [] state bytes := by
  induction bytes generalizing done state with
  | nil => simp [runFrom]
  | cons b rest ih =>
    rw [runFrom_cons, runFrom_cons, ih, ih ((step state b).2.reverse ++ [])]
    simp

theorem runFrom_step (state : State) (b : UInt8) (rest : List UInt8) :
    runFrom [] state (b :: rest) = (step state b).2 ++ runFrom [] (step state b).1 rest := by
  rw [runFrom_cons, runFrom_done, List.append_nil, List.reverse_reverse]

/-- What stands before a line feed and what follows it are read by themselves. -/
theorem runFrom_lineFeed {state : State} (sound : state.Sound) (bytes rest : List UInt8) :
    runFrom [] state (bytes ++ 10 :: rest) =
      runFrom [] state bytes ++ some '\n' :: runFrom [] .start rest := by
  induction bytes generalizing state with
  | nil =>
    rw [List.nil_append, runFrom_step, step_lineFeed sound]
    simp [runFrom]
  | cons b bytes ih =>
    rw [List.cons_append, runFrom_step, runFrom_step, ih (step_sound sound b), List.append_assoc]

theorem not_mem_runFrom {state : State} (sound : state.Sound) {bytes : List UInt8}
    (clean : 10 ∉ bytes) : some '\n' ∉ runFrom [] state bytes := by
  induction bytes generalizing state with
  | nil => cases state <;> simp [runFrom, finish]
  | cons b rest ih =>
    rw [List.mem_cons, not_or] at clean
    rw [runFrom_step, List.mem_append, not_or]
    exact ⟨fun read => clean.1 (step_newline sound read).symm, ih (step_sound sound b) clean.2⟩

/-- A byte that leaves nothing begun has been read as something. -/
theorem step_progress {state : State} {b : UInt8} (start : (step state b).1 = .start) :
    (step state b).2 ≠ [] := by
  cases state with
  | start => exact first_progress b start
  | owed low high more value =>
    rw [step] at start ⊢
    split at start
    case isTrue fits =>
      rw [if_pos fits]
      cases more with
      | zero => exact List.cons_ne_nil _ _
      | succ more => exact absurd start (by simp)
    case isFalse misfit =>
      rw [if_neg misfit]
      exact List.cons_ne_nil _ _

/-- No byte is lost: each is part of a character or of an ill-formed part. -/
theorem runFrom_ne_nil {state : State} {bytes : List UInt8} (some_ : state ≠ .start ∨ bytes ≠ []) :
    runFrom [] state bytes ≠ [] := by
  induction bytes generalizing state with
  | nil =>
    cases state with
    | start => simp at some_
    | owed => simp [runFrom, finish]
  | cons b rest ih =>
    rw [runFrom_step]
    by_cases start : (step state b).1 = .start
    · exact List.append_ne_nil_of_left_ne_nil (step_progress start) _
    · exact List.append_ne_nil_of_right_ne_nil _ (ih (.inl start))

/-! ## Pieces -/

theorem decode_eq_nil_iff {bytes : List UInt8} : decode bytes = [] ↔ bytes = [] := by
  constructor
  · intro empty
    cases bytes with
    | nil => rfl
    | cons b rest =>
      have read : pieces (b :: rest) ≠ [] := runFrom_ne_nil (.inr (List.cons_ne_nil b rest))
      exact absurd (List.map_eq_nil_iff.mp empty) read
  · rintro rfl
    rfl

theorem decode_lineFeed (bytes rest : List UInt8) :
    decode (bytes ++ 10 :: rest) = decode bytes ++ '\n' :: decode rest := by
  have sound : State.Sound .start := trivial
  rw [decode, pieces, runFrom_lineFeed sound]
  simp [decode, pieces]

theorem not_mem_decode {bytes : List UInt8} (clean : 10 ∉ bytes) : '\n' ∉ decode bytes := by
  have sound : State.Sound .start := trivial
  rw [decode, List.mem_map]
  rintro ⟨piece, read, newline⟩
  cases piece with
  | none => exact absurd newline (by decide)
  | some c =>
    obtain rfl : c = '\n' := newline
    exact not_mem_runFrom sound clean read

theorem decode_intercalate (parts : List (List UInt8)) :
    decode ([10].intercalate parts) = ['\n'].intercalate (parts.map decode) := by
  induction parts with
  | nil => rfl
  | cons part rest ih =>
    cases rest with
    | nil => simp
    | cons next more =>
      rw [List.map_cons, List.map_cons, List.intercalate_cons_cons, List.intercalate_cons_cons,
        List.append_assoc, List.singleton_append, decode_lineFeed, ih]
      simp

/-- It makes no difference whether bytes are cut at their line feeds before they are read or
after. -/
theorem splitOn_decode (bytes : List UInt8) :
    (decode bytes).splitOn '\n' = (bytes.splitOn 10).map decode := by
  have clean : ∀ piece ∈ (bytes.splitOn 10).map decode, '\n' ∉ piece := by
    intro piece mem
    obtain ⟨part, found, rfl⟩ := List.mem_map.mp mem
    rw [← Text.splitOn_eq] at found
    exact not_mem_decode (Text.not_mem_of_mem_splitOn found)
  have some_ : (bytes.splitOn 10).map decode ≠ [] := by simp
  calc (decode bytes).splitOn '\n'
      = (decode ([10].intercalate (bytes.splitOn 10))).splitOn '\n' := by
        rw [List.intercalate_splitOn]
    _ = (['\n'].intercalate ((bytes.splitOn 10).map decode)).splitOn '\n' := by
        rw [decode_intercalate]
    _ = (bytes.splitOn 10).map decode := List.splitOn_intercalate '\n' clean some_

end Proctor.Text.Utf8

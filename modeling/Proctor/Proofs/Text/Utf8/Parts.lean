import Mathlib.Data.List.Basic
import Proctor.Proofs.Text.Utf8

/-!
# The parts of a run of bytes

What the machine reads, said without the machine. Bytes fall into parts from left to right.
Where the bytes of a character stand, they are a part. Where none do, the part is ill-formed: it
is the longest run of bytes with which the bytes of some character begin, or one byte if not even
that much fits. There is one way only to read bytes like this, and it is how the machine reads
them.

A line feed is the only character with the byte 10 in it, so no other part holds that byte. An
ill-formed part therefore ends before a line feed and none reaches across one, and bytes may be
cut into lines before they are read.
-/

namespace Proctor.Text.Utf8

/-- A stretch of bytes and what it is read as. -/
structure Part where
  bytes : List UInt8
  piece : Piece

/-- The bytes of some character begin with these and go on. -/
def Begins (bytes : List UInt8) : Prop :=
  ∃ c rest, rest ≠ [] ∧ String.utf8EncodeChar c = bytes ++ rest

/-- Before the rest no character can be read off the bytes, and they are the longest run with
which one could begin, or a single byte. -/
structure IllFormed (bytes rest : List UInt8) : Prop where
  nonempty : bytes ≠ []
  unreadable : ∀ c, ¬ String.utf8EncodeChar c <+: bytes ++ rest
  begun : bytes.length = 1 ∨ Begins bytes
  longest : ∀ longer, longer <+: bytes ++ rest → bytes.length < longer.length → ¬ Begins longer

/-- The bytes fall into the parts. -/
inductive Reads : List UInt8 → List Part → Prop
  | nil : Reads [] []
  | char (c : Char) {rest parts} :
      Reads rest parts →
        Reads (String.utf8EncodeChar c ++ rest) (⟨String.utf8EncodeChar c, some c⟩ :: parts)
  | illFormed {bytes rest parts} :
      IllFormed bytes rest → Reads rest parts → Reads (bytes ++ rest) (⟨bytes, none⟩ :: parts)

/-! ## Characters and the machine -/

theorem pieces_utf8EncodeChar_append (c : Char) (rest : List UInt8) :
    pieces (String.utf8EncodeChar c ++ rest) = some c :: pieces rest := by
  rw [pieces, runFrom_utf8EncodeChar, runFrom_done]
  rfl

theorem pieces_utf8EncodeChar (c : Char) : pieces (String.utf8EncodeChar c) = [some c] := by
  rw [← List.append_nil (String.utf8EncodeChar c), pieces_utf8EncodeChar_append]
  rfl

theorem utf8EncodeChar_ne_nil (c : Char) : String.utf8EncodeChar c ≠ [] := by
  intro empty
  have read := pieces_utf8EncodeChar c
  rw [empty] at read
  cases read

/-- The bytes tell the character. -/
theorem eq_of_utf8EncodeChar_isPrefix {c d : Char} {bytes : List UInt8}
    (one : String.utf8EncodeChar c <+: bytes) (other : String.utf8EncodeChar d <+: bytes) :
    c = d := by
  obtain ⟨rest, rfl⟩ := one
  obtain ⟨rest', same⟩ := other
  have read := congrArg pieces same
  rw [pieces_utf8EncodeChar_append, pieces_utf8EncodeChar_append] at read
  exact (Option.some.inj (List.cons.inj read).1).symm

theorem eq_nil_of_pieces {bytes : List UInt8} (nothing : pieces bytes = []) : bytes = [] := by
  rw [← decode_eq_nil_iff, decode, nothing]
  rfl

/-- The byte 10 is a line feed wherever it is part of a character. -/
theorem eq_of_utf8EncodeChar_lineFeed {c : Char} {before after : List UInt8}
    (held : String.utf8EncodeChar c = before ++ 10 :: after) :
    before = [] ∧ c = '\n' ∧ after = [] := by
  have sound : State.Sound .start := trivial
  have read : [some c] = pieces before ++ some '\n' :: pieces after := by
    rw [← pieces_utf8EncodeChar, held, pieces, runFrom_lineFeed sound]
    rfl
  have first : pieces before = [] := by
    cases earlier : pieces before with
    | nil => rfl
    | cons piece more => simp [earlier] at read
  rw [first, List.nil_append, List.cons.injEq] at read
  exact ⟨eq_nil_of_pieces first, Option.some.inj read.1, eq_nil_of_pieces read.2.symm⟩

/-! ## One way to read -/

section

variable {bytes : List UInt8} {parts others : List Part} {part : Part}

/-- Two ill-formed parts that begin a run of bytes are one. -/
theorem IllFormed.unique {one other rest rest' : List UInt8} (ill : IllFormed one rest)
    (ill' : IllFormed other rest') (same : one ++ rest = other ++ rest') : one = other := by
  have bounded {short long : List UInt8} {after after' : List UInt8} (ill : IllFormed short after)
      (ill' : IllFormed long after') (same : short ++ after = long ++ after') :
      long.length ≤ short.length := by
    have positive := List.length_pos_iff.mpr ill.nonempty
    obtain single | begins := ill'.begun
    · omega
    · refine Nat.le_of_not_lt fun longer => ?_
      exact ill.longest long (same ▸ List.prefix_append long after') longer begins
  have lengths := Nat.le_antisymm (bounded ill' ill same.symm) (bounded ill ill' same)
  exact (List.append_inj same lengths).1

theorem Reads.unique (reads : Reads bytes parts) (reads' : Reads bytes others) :
    others = parts := by
  induction reads generalizing others with
  | nil =>
    generalize none_ : ([] : List UInt8) = bytes at reads'
    cases reads' with
    | nil => rfl
    | char c _ => exact absurd (List.append_eq_nil_iff.mp none_.symm).1 (utf8EncodeChar_ne_nil c)
    | illFormed ill _ => exact absurd (List.append_eq_nil_iff.mp none_.symm).1 ill.nonempty
  | @char c rest parts _ ih =>
    generalize whole : String.utf8EncodeChar c ++ rest = bytes at reads'
    cases reads' with
    | nil => exact absurd (List.append_eq_nil_iff.mp whole).1 (utf8EncodeChar_ne_nil c)
    | @char d rest' parts' later =>
      obtain rfl := eq_of_utf8EncodeChar_isPrefix (List.prefix_append _ _)
        (whole ▸ List.prefix_append (String.utf8EncodeChar c) rest)
      obtain rfl := List.append_cancel_left whole
      rw [ih later]
    | illFormed ill _ => exact absurd (whole ▸ List.prefix_append _ rest) (ill.unreadable c)
  | @illFormed ill rest parts illFormed _ ih =>
    generalize whole : ill ++ rest = bytes at reads'
    cases reads' with
    | nil => exact absurd (List.append_eq_nil_iff.mp whole).1 illFormed.nonempty
    | char c _ => exact absurd (whole ▸ List.prefix_append _ _) (illFormed.unreadable c)
    | @illFormed _ rest' parts' illFormed' later =>
      obtain rfl := illFormed.unique illFormed' whole
      obtain rfl := List.append_cancel_left whole
      rw [ih later]

/-- A line feed is a part by itself. -/
theorem Reads.eq_lineFeed (reads : Reads bytes parts) (mem : part ∈ parts)
    (held : 10 ∈ part.bytes) : part = ⟨[10], some '\n'⟩ := by
  induction reads with
  | nil => cases mem
  | char c _ ih =>
    obtain rfl | mem := List.mem_cons.mp mem
    · obtain ⟨before, after, whole⟩ := List.append_of_mem held
      obtain ⟨rfl, rfl, rfl⟩ := eq_of_utf8EncodeChar_lineFeed whole
      rfl
    · exact ih mem
  | @illFormed ill rest _ illFormed _ ih =>
    obtain rfl | mem := List.mem_cons.mp mem
    · obtain single | ⟨c, more, goesOn, same⟩ := illFormed.begun
      · obtain ⟨b, rfl⟩ := List.length_eq_one_iff.mp single
        obtain rfl := List.mem_singleton.mp held
        exact absurd (List.prefix_append [10] rest) (illFormed.unreadable '\n')
      · obtain ⟨before, after, whole⟩ := List.append_of_mem held
        simp only at whole
        rw [whole, List.append_assoc, List.cons_append] at same
        have nothing := (eq_of_utf8EncodeChar_lineFeed same).2.2
        exact absurd (List.append_eq_nil_iff.mp nothing).2 goesOn
    · exact ih mem

end

/-! ## What the machine reads -/

/-- The machine has read the bytes without a result and waits for more. Whatever it waits for would
make a character of them. -/
structure Begun (bytes : List UInt8) (low high : UInt8) (more value : Nat) : Prop where
  silent : ∀ rest, pieces (bytes ++ rest) = runFrom [] (.owed low high more value) rest
  nonempty : bytes ≠ []
  possible : low ≤ high
  completed : ∀ b tail, low ≤ b → b ≤ high → tail.length = more →
    (∀ t ∈ tail, 0x80 ≤ t ∧ t ≤ 0xbf) → ∃ c, String.utf8EncodeChar c = bytes ++ b :: tail

/-- In a state the machine has nothing behind it but the bytes it has begun with. -/
def Reached (bytes : List UInt8) : State → Prop
  | .start => bytes = []
  | .owed low high more value => Begun bytes low high more value

/-- What has been begun and the rest fall into parts as the machine reads on. -/
def ReadsOn (bytes rest : List UInt8) (state : State) : Prop :=
  ∃ parts, Reads (bytes ++ rest) parts ∧ parts.map (·.piece) = runFrom [] state rest

section

variable {n : Nat}

theorem utf8EncodeChar_one (size : n < 128) :
    String.utf8EncodeChar (Char.ofNat n) = [UInt8.ofNat n] := by
  unfold String.utf8EncodeChar
  rw [toNat_ofNat_of_valid (by omega)]
  simp only
  rw [if_pos (by omega)]

theorem utf8EncodeChar_two (low : 128 ≤ n) (high : n < 2048) :
    String.utf8EncodeChar (Char.ofNat n) =
      [UInt8.ofNat (n / 64 % 32 + 192), UInt8.ofNat (n % 64 + 128)] := by
  unfold String.utf8EncodeChar
  rw [toNat_ofNat_of_valid (by omega)]
  simp only
  rw [if_neg (by omega), if_pos (by omega)]

theorem utf8EncodeChar_three (low : 2048 ≤ n) (high : n < 65536)
    (valid : n < 0xd800 ∨ 0xdfff < n) :
    String.utf8EncodeChar (Char.ofNat n) =
      [UInt8.ofNat (n / 4096 % 16 + 224), UInt8.ofNat (n / 64 % 64 + 128),
        UInt8.ofNat (n % 64 + 128)] := by
  unfold String.utf8EncodeChar
  rw [toNat_ofNat_of_valid (by omega)]
  simp only
  rw [if_neg (by omega), if_neg (by omega), if_pos (by omega)]

theorem utf8EncodeChar_four (low : 65536 ≤ n) (high : n < 0x110000) :
    String.utf8EncodeChar (Char.ofNat n) =
      [UInt8.ofNat (n / 262144 % 8 + 240), UInt8.ofNat (n / 4096 % 64 + 128),
        UInt8.ofNat (n / 64 % 64 + 128), UInt8.ofNat (n % 64 + 128)] := by
  unfold String.utf8EncodeChar
  rw [toNat_ofNat_of_valid (by omega)]
  simp only
  rw [if_neg (by omega), if_neg (by omega), if_neg (by omega)]

end

section

variable {a b c d : UInt8}

/-- Bytes are known by their numbers. -/
theorem ofNat_eq {n : Nat} {b : UInt8} (same : n = b.toNat) : UInt8.ofNat n = b := by
  rw [same, UInt8.ofNat_toNat]

theorem exists_char_two (lead : 194 ≤ a.toNat ∧ a.toNat < 224)
    (second : 128 ≤ b.toNat ∧ b.toNat ≤ 191) :
    ∃ x, String.utf8EncodeChar x = [a, b] := by
  refine ⟨Char.ofNat (64 * (a.toNat - 192) + (b.toNat - 128)), ?_⟩
  rw [utf8EncodeChar_two (by omega) (by omega), ofNat_eq (b := a) (by omega),
    ofNat_eq (b := b) (by omega)]

theorem exists_char_three (lead : 224 ≤ a.toNat ∧ a.toNat < 240)
    (second : 128 ≤ b.toNat ∧ b.toNat ≤ 191) (short : a.toNat = 224 → 160 ≤ b.toNat)
    (surrogate : a.toNat = 237 → b.toNat ≤ 159) (third : 128 ≤ c.toNat ∧ c.toNat ≤ 191) :
    ∃ x, String.utf8EncodeChar x = [a, b, c] := by
  refine ⟨Char.ofNat (4096 * (a.toNat - 224) + 64 * (b.toNat - 128) + (c.toNat - 128)), ?_⟩
  rw [utf8EncodeChar_three (by omega) (by omega) (by omega), ofNat_eq (b := a) (by omega),
    ofNat_eq (b := b) (by omega), ofNat_eq (b := c) (by omega)]

theorem exists_char_four (lead : 240 ≤ a.toNat ∧ a.toNat < 245)
    (second : 128 ≤ b.toNat ∧ b.toNat ≤ 191) (short : a.toNat = 240 → 144 ≤ b.toNat)
    (large : a.toNat = 244 → b.toNat ≤ 143) (third : 128 ≤ c.toNat ∧ c.toNat ≤ 191)
    (fourth : 128 ≤ d.toNat ∧ d.toNat ≤ 191) :
    ∃ x, String.utf8EncodeChar x = [a, b, c, d] := by
  refine ⟨Char.ofNat (262144 * (a.toNat - 240) + 4096 * (b.toNat - 128) +
    64 * (c.toNat - 128) + (d.toNat - 128)), ?_⟩
  rw [utf8EncodeChar_four (by omega) (by omega), ofNat_eq (b := a) (by omega),
    ofNat_eq (b := b) (by omega), ofNat_eq (b := c) (by omega), ofNat_eq (b := d) (by omega)]

end

/-- What a first byte asks for: how many bytes follow, and where the second of them lies. -/
def State.AskedBy (a : UInt8) : State → Prop
  | .start => True
  | .owed low high more _ =>
    128 ≤ low.toNat ∧ low.toNat ≤ high.toNat ∧ high.toNat ≤ 191 ∧
      ((194 ≤ a.toNat ∧ a.toNat < 224 ∧ more = 0) ∨
        (224 ≤ a.toNat ∧ a.toNat < 240 ∧ more = 1 ∧ (a.toNat = 224 → 160 ≤ low.toNat) ∧
          (a.toNat = 237 → high.toNat ≤ 159)) ∨
        (240 ≤ a.toNat ∧ a.toNat < 245 ∧ more = 2 ∧ (a.toNat = 240 → 144 ≤ low.toNat) ∧
          (a.toNat = 244 → high.toNat ≤ 143)))

instance (a : UInt8) : DecidablePred (State.AskedBy a)
  | .start => .isTrue trivial
  | .owed low high more _ => inferInstanceAs (Decidable (128 ≤ low.toNat ∧
      low.toNat ≤ high.toNat ∧ high.toNat ≤ 191 ∧
      ((194 ≤ a.toNat ∧ a.toNat < 224 ∧ more = 0) ∨
        (224 ≤ a.toNat ∧ a.toNat < 240 ∧ more = 1 ∧ (a.toNat = 224 → 160 ≤ low.toNat) ∧
          (a.toNat = 237 → high.toNat ≤ 159)) ∨
        (240 ≤ a.toNat ∧ a.toNat < 245 ∧ more = 2 ∧ (a.toNat = 240 → 144 ≤ low.toNat) ∧
          (a.toNat = 244 → high.toNat ≤ 143)))))

theorem first_askedBy (a : UInt8) : (first a).1.AskedBy a :=
  forall_byte (P := fun a => (first a).1.AskedBy a) (by decide +kernel) a

theorem first_silent (a : UInt8) (waits : (first a).1 ≠ .start) : (first a).2 = [] :=
  forall_byte (P := fun a => (first a).1 ≠ .start → (first a).2 = []) (by decide +kernel) a waits

theorem first_lost (a : UInt8) (large : 128 ≤ a.toNat) (idle : (first a).1 = .start) :
    (first a).2 = [none] :=
  forall_byte (P := fun a => 128 ≤ a.toNat → (first a).1 = .start → (first a).2 = [none])
    (by decide +kernel) a large idle

section

variable {a b low high : UInt8} {more value : Nat} {bytes rest : List UInt8}

/-- A first byte that asks for others begins a character. -/
theorem begun_first (lead : (first a).1 = .owed low high more value) :
    Begun [a] low high more value := by
  have asked : State.AskedBy a (.owed low high more value) := lead ▸ first_askedBy a
  obtain ⟨above, possible, below, size⟩ := asked
  refine ⟨?_, List.cons_ne_nil a [], UInt8.le_iff_toNat_le.mpr possible, ?_⟩
  · intro rest
    have nothing : (first a).2 = [] := first_silent a (by simp [lead])
    rw [List.singleton_append, pieces, runFrom_step, step_start, nothing, lead]
    rfl
  · intro b tail atLeast atMost count continues
    have low_ : (0x80 : UInt8).toNat = 128 := rfl
    have high_ : (0xbf : UInt8).toNat = 191 := rfl
    simp only [UInt8.le_iff_toNat_le, low_, high_] at atLeast atMost continues
    obtain ⟨from_, to_, rfl⟩ | ⟨from_, to_, rfl, short, surrogate⟩ |
      ⟨from_, to_, rfl, short, large⟩ := size
    · obtain rfl := List.length_eq_zero_iff.mp count
      exact exists_char_two ⟨from_, to_⟩ (by omega)
    · obtain ⟨c, rfl⟩ := List.length_eq_one_iff.mp count
      exact exists_char_three ⟨from_, to_⟩ (by omega) (by omega) (by omega)
        (continues c List.mem_cons_self)
    · obtain ⟨c, d, rfl⟩ := List.length_eq_two.mp count
      exact exists_char_four ⟨from_, to_⟩ (by omega) (by omega) (by omega)
        (continues c List.mem_cons_self) (continues d (by simp))

theorem Begun.begins (begun : Begun bytes low high more value) : Begins bytes := by
  obtain ⟨c, whole⟩ := begun.completed low (List.replicate more 0x80) (UInt8.le_refl low)
    begun.possible List.length_replicate (by
      intro t mem
      rw [List.eq_of_mem_replicate mem]
      decide)
  exact ⟨c, _, List.cons_ne_nil _ _, whole⟩

theorem step_fits (above : low ≤ b) (below : b ≤ high) :
    step (.owed low high more value) b =
      match more with
      | 0 => (.start, [some (Char.ofNat (64 * value + (b.toNat - 0x80)))])
      | more + 1 => (.owed 0x80 0xbf more (64 * value + (b.toNat - 0x80)), []) := by
  rw [step, decide_eq_true above, decide_eq_true below]
  rfl

theorem step_misfit (misfit : ¬ (low ≤ b ∧ b ≤ high)) :
    step (.owed low high more value) b = ((first b).1, none :: (first b).2) := by
  have not_ : (decide (low ≤ b) && decide (b ≤ high)) = false := by simpa using misfit
  rw [step, not_]
  rfl

/-- A byte that fits, with others to follow. -/
theorem Begun.next (begun : Begun bytes low high (more + 1) value) (above : low ≤ b)
    (below : b ≤ high) :
    Begun (bytes ++ [b]) 0x80 0xbf more (64 * value + (b.toNat - 0x80)) where
  silent rest := by
    rw [List.append_assoc, List.singleton_append, begun.silent, runFrom_step,
      step_fits above below]
    rfl
  nonempty := List.append_ne_nil_of_right_ne_nil _ (List.cons_ne_nil b [])
  possible := by decide
  completed c tail atLeast atMost count continues := by
    obtain ⟨x, whole⟩ := begun.completed b (c :: tail) above below
      (by rw [List.length_cons, count])
      (List.forall_mem_cons.mpr ⟨⟨atLeast, atMost⟩, continues⟩)
    exact ⟨x, by rw [whole, List.append_assoc, List.singleton_append]⟩

/-- The byte that is still missing. -/
theorem Begun.last (begun : Begun bytes low high 0 value) (above : low ≤ b) (below : b ≤ high) :
    String.utf8EncodeChar (Char.ofNat (64 * value + (b.toNat - 0x80))) = bytes ++ [b] := by
  obtain ⟨x, whole⟩ := begun.completed b [] above below rfl (List.forall_mem_nil _)
  have read : pieces (String.utf8EncodeChar x) =
      [some (Char.ofNat (64 * value + (b.toNat - 0x80)))] := by
    rw [whole, begun.silent, runFrom_step, step_fits above below]
    rfl
  rw [pieces_utf8EncodeChar] at read
  have same : x = Char.ofNat (64 * value + (b.toNat - 0x80)) :=
    Option.some.inj (List.cons.inj read).1
  rw [← same]
  exact whole

/-- Bytes that are given up whatever follows their first misfit are ill-formed. -/
theorem illFormed_of_pieces (nonempty : bytes ≠ []) (begun : bytes.length = 1 ∨ Begins bytes)
    (given : ∀ tail, tail.head? = rest.head? → (pieces (bytes ++ tail)).head? = some none) :
    IllFormed bytes rest where
  nonempty := nonempty
  begun := begun
  unreadable c := by
    rintro ⟨after, whole⟩
    have up := given rest rfl
    rw [← whole, pieces_utf8EncodeChar_append] at up
    cases up
  longest longer isPrefix more := by
    rintro ⟨c, after, -, whole⟩
    obtain ⟨tail, rfl⟩ := List.prefix_of_prefix_length_le (List.prefix_append bytes rest) isPrefix
      (Nat.le_of_lt more)
    obtain ⟨later, rfl⟩ := (List.prefix_append_right_inj bytes).mp isPrefix
    have same : (tail ++ after).head? = (tail ++ later).head? := by
      cases tail with
      | nil => simp at more
      | cons t tail => rfl
    have up := given (tail ++ after) same
    rw [← List.append_assoc, ← whole, pieces_utf8EncodeChar] at up
    cases up

/-- What has been begun is given up at the end and at a byte that does not fit. -/
theorem Begun.illFormed (begun : Begun bytes low high more value)
    (misfit : ∀ b, rest.head? = some b → ¬ (low ≤ b ∧ b ≤ high)) : IllFormed bytes rest := by
  refine illFormed_of_pieces begun.nonempty (.inr begun.begins) ?_
  intro tail same
  rw [begun.silent]
  cases tail with
  | nil => rfl
  | cons b tail =>
    rw [runFrom_step, step_misfit (misfit b same.symm)]
    rfl

/-- A byte with which nothing begins. -/
theorem illFormed_first (lost : first b = (.start, [none])) (rest : List UInt8) :
    IllFormed [b] rest := by
  refine illFormed_of_pieces (List.cons_ne_nil b []) (.inl rfl) ?_
  intro tail _
  rw [List.singleton_append, pieces, runFrom_step, step_start, lost]
  rfl

/-- A byte is a character, or begins one, or neither. -/
theorem first_cases (b : UInt8) :
    (String.utf8EncodeChar (Char.ofNat b.toNat) = [b] ∧
        first b = (.start, [some (Char.ofNat b.toNat)])) ∨
      (∃ low high more value, first b = (.owed low high more value, [])) ∨
      first b = (.start, [none]) := by
  have same : UInt8.ofNat b.toNat = b := UInt8.ofNat_toNat
  by_cases small : b.toNat < 128
  · have one := utf8EncodeChar_one small
    have read := first_one b.toNat small
    rw [same] at one read
    exact .inl ⟨one, read⟩
  cases state : (first b).1 with
  | owed low high more value =>
    have silent := first_silent b (by simp [state])
    exact .inr (.inl ⟨low, high, more, value, Prod.ext state silent⟩)
  | start =>
    have lost := first_lost b (Nat.le_of_not_lt small) state
    exact .inr (.inr (Prod.ext state lost))

/-- A first byte is read if the rest is read on from wherever it leads. -/
theorem readsOn_start {b : UInt8}
    (later : ∀ bytes state, Reached bytes state → ReadsOn bytes rest state) :
    ReadsOn [] (b :: rest) .start := by
  obtain ⟨parts, reads, read⟩ := later [] .start rfl
  rw [ReadsOn, runFrom_step, step_start]
  obtain ⟨whole, single⟩ | ⟨low, high, more, value, lead⟩ | lost := first_cases b
  · have found := Reads.char (Char.ofNat b.toNat) reads
    rw [whole] at found
    refine ⟨_, found, ?_⟩
    rw [single, List.map_cons, read]
    rfl
  · rw [lead]
    exact later [b] (.owed low high more value) (begun_first (congrArg Prod.fst lead))
  · have found := Reads.illFormed (illFormed_first lost rest) reads
    refine ⟨_, found, ?_⟩
    rw [lost, List.map_cons, read]
    rfl

/-- A byte after what has been begun goes on with it, completes it, or breaks it off and is a first
byte. -/
theorem Begun.readsOn {b : UInt8} (begun : Begun bytes low high more value)
    (later : ∀ bytes state, Reached bytes state → ReadsOn bytes rest state) :
    ReadsOn bytes (b :: rest) (.owed low high more value) := by
  rw [ReadsOn, runFrom_step]
  by_cases fits : low ≤ b ∧ b ≤ high
  · rw [step_fits fits.1 fits.2]
    cases more with
    | zero =>
      obtain ⟨parts, reads, read⟩ := later [] .start rfl
      have found := Reads.char (Char.ofNat (64 * value + (b.toNat - 0x80))) reads
      rw [begun.last fits.1 fits.2, List.append_assoc] at found
      refine ⟨_, found, ?_⟩
      rw [List.map_cons, read]
      rfl
    | succ more =>
      obtain ⟨parts, reads, read⟩ := later (bytes ++ [b])
        (.owed 0x80 0xbf more (64 * value + (b.toNat - 0x80))) (begun.next fits.1 fits.2)
      rw [List.append_assoc] at reads
      exact ⟨parts, reads, read⟩
  · obtain ⟨parts, reads, read⟩ := readsOn_start (b := b) later
    have ill : IllFormed bytes (b :: rest) := begun.illFormed (by
      rintro c ⟨⟩
      exact fits)
    refine ⟨_, .illFormed ill reads, ?_⟩
    rw [runFrom_step, step_start] at read
    rw [step_misfit fits, List.map_cons, read]
    rfl

/-- By induction on the rest, for all that may have been begun before it. -/
theorem readsOn (rest : List UInt8) :
    ∀ bytes state, Reached bytes state → ReadsOn bytes rest state := by
  induction rest with
  | nil =>
    intro bytes state reached
    cases state with
    | start =>
      obtain rfl := reached
      exact ⟨[], .nil, rfl⟩
    | owed low high more value =>
      have ill : IllFormed bytes [] := reached.illFormed (fun b found => by cases found)
      exact ⟨_, .illFormed ill .nil, rfl⟩
  | cons b rest ih =>
    intro bytes state reached
    cases state with
    | start =>
      obtain rfl := reached
      exact readsOn_start ih
    | owed low high more value => exact Begun.readsOn reached ih

theorem exists_reads (bytes : List UInt8) :
    ∃ parts, Reads bytes parts ∧ parts.map (·.piece) = pieces bytes :=
  readsOn bytes [] .start rfl

end

/-! ## Lines -/

/-- Bytes are read in one way, and a line feed is a part of its own there: nothing ill-formed holds
one or reaches across one. So it makes no difference whether bytes are read and then cut at their
line feeds, or cut and then read line by line. -/
theorem decode_by_line (bytes : List UInt8) :
    ∃ parts, Reads bytes parts ∧ (∀ others, Reads bytes others → others = parts) ∧
      decode bytes = parts.map (fun part => part.piece.getD '\ufffd') ∧
      (∀ part ∈ parts, 10 ∈ part.bytes → part = ⟨[10], some '\n'⟩) ∧
      (decode bytes).splitOn '\n' = (bytes.splitOn 10).map decode := by
  obtain ⟨parts, reads, read⟩ := exists_reads bytes
  refine ⟨parts, reads, fun others => reads.unique, ?_, fun part => reads.eq_lineFeed,
    splitOn_decode bytes⟩
  rw [decode, ← read, List.map_map]
  rfl

/-- A truncated character before a line feed, then a byte that begins nothing, an encoded surrogate
and an overlong form. -/
example : (decode [0xe2, 0x82, 10, 0xff, 0xed, 0xa0, 0x80, 10, 0xc0, 10]).splitOn '\n' =
    [['\ufffd'], ['\ufffd', '\ufffd', '\ufffd', '\ufffd'], ['\ufffd'], []] := by
  decide

end Proctor.Text.Utf8

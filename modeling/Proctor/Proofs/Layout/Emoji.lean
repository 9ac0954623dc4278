import Mathlib.Data.List.Count
import Proctor.Layout.Markup

/-!
# When a text has emoji codes

A text is read from its beginning: what stands between two colons is a name if there is no blank
in it, and the colons are used up by that whether the table has the name or not. So it is not
enough that a name of the table stands between two colons somewhere. These facts hold for every
table: a text without a code is shown as it is, and every code that is shown takes two colons
away, which nothing else brings back.
-/

namespace Proctor.Layout

variable {cs name after : List Char} {c : Char} {n : Nat}

/-- Can the characters stand between the colons of a code? -/
def IsCodeName (name : List Char) : Prop := ∀ c ∈ name, c ≠ ':' ∧ ¬ Text.isBlank c

/-! ## Names -/

theorem codeName?_eq_some {before found : List Char} :
    codeName? Text.isBlank before cs = some (found, after) ↔
      ∃ name, IsCodeName name ∧ found = before.reverse ++ name ∧ cs = name ++ ':' :: after := by
  induction cs generalizing before with
  | nil => simp [codeName?]
  | cons c rest ih =>
    rw [codeName?]
    by_cases colon : c = ':'
    · subst colon
      simp only [beq_self_eq_true, if_true, Option.some.injEq, Prod.mk.injEq]
      constructor
      · rintro ⟨rfl, rfl⟩
        exact ⟨[], List.forall_mem_nil _, (List.append_nil _).symm, rfl⟩
      · rintro ⟨name, word, rfl, same⟩
        cases name with
        | nil =>
          obtain ⟨-, rfl⟩ := List.cons.inj same
          exact ⟨(List.append_nil _).symm, rfl⟩
        | cons c' name =>
          obtain ⟨rfl, -⟩ := List.cons.inj same
          exact absurd rfl (word ':' List.mem_cons_self).1
    · rw [if_neg (by simpa using colon)]
      split
      · rename_i blank
        simp only [reduceCtorEq, false_iff]
        rintro ⟨name, word, -, same⟩
        cases name with
        | nil => exact colon (List.cons.inj same).1
        | cons c' name =>
          obtain ⟨rfl, -⟩ := List.cons.inj same
          exact (word c List.mem_cons_self).2 blank
      · rename_i unblank
        rw [ih]
        constructor
        · rintro ⟨name, word, rfl, rfl⟩
          exact ⟨c :: name, List.forall_mem_cons.mpr ⟨⟨colon, unblank⟩, word⟩, by simp, rfl⟩
        · rintro ⟨name, word, rfl, same⟩
          cases name with
          | nil => exact absurd (List.cons.inj same).1 colon
          | cons c' name =>
            obtain ⟨rfl, rfl⟩ := List.cons.inj same
            exact ⟨name, (List.forall_mem_cons.mp word).2, by simp, rfl⟩

theorem codeName?_of_isCodeName (word : IsCodeName name) :
    codeName? Text.isBlank [] (name ++ ':' :: after) = some (name, after) :=
  codeName?_eq_some.mpr ⟨name, word, rfl, rfl⟩

theorem codeName?_eq_none (nameless : ∀ name after, IsCodeName name → cs ≠ name ++ ':' :: after) :
    codeName? Text.isBlank [] cs = none := by
  refine Option.eq_none_iff_forall_ne_some.mpr fun found named => ?_
  obtain ⟨name, word, -, same⟩ := codeName?_eq_some.mp named
  exact nameless name _ word same

/-- A text begins with a name between colons or with a character that is shown as it is. -/
theorem code_or_plain (c : Char) (cs : List Char) :
    (∃ name after, IsCodeName name ∧ c = ':' ∧ cs = name ++ ':' :: after) ∨
      (c = ':' → ∀ name after, IsCodeName name → cs ≠ name ++ ':' :: after) := by
  by_cases code : ∃ name after, IsCodeName name ∧ c = ':' ∧ cs = name ++ ':' :: after
  · exact .inl code
  · exact .inr fun colon name after word same => code ⟨name, after, word, colon, same⟩

/-! ## Codes -/

variable [EmojiTable]

/-- A code of the table is read in the text. -/
inductive HasCode : List Char → Prop
  | here {name after : List Char} (word : IsCodeName name)
      (known : (EmojiTable.find? (splitWish name).1).isSome) :
      HasCode (':' :: (name ++ ':' :: after))
  /-- Both colons of a name are used up. -/
  | behind {name after : List Char} (word : IsCodeName name) (later : HasCode after) :
      HasCode (':' :: (name ++ ':' :: after))
  | on {c : Char} {cs : List Char}
      (plain : c = ':' → ∀ name after, IsCodeName name → cs ≠ name ++ ':' :: after)
      (later : HasCode cs) : HasCode (c :: cs)

/-- What is shown in the place of a name and its colons. -/
def shownCode (name : List Char) : List Char :=
  match EmojiTable.find? (splitWish name).1 with
  | some emoji => emoji ++ (splitWish name).2
  | none => ':' :: (name ++ [':'])

theorem emojiFrom_code (word : IsCodeName name) :
    emojiFrom Text.isBlank (n + 1) (':' :: (name ++ ':' :: after)) =
      shownCode name ++ emojiFrom Text.isBlank n after := by
  rw [emojiFrom, if_pos (beq_self_eq_true ':'), codeName?_of_isCodeName word]
  rfl

theorem emojiFrom_plain
    (plain : c = ':' → ∀ name after, IsCodeName name → cs ≠ name ++ ':' :: after) :
    emojiFrom Text.isBlank (n + 1) (c :: cs) = c :: emojiFrom Text.isBlank n cs := by
  rw [emojiFrom]
  split
  · rename_i colon
    rw [codeName?_eq_none (plain (by simpa using colon))]
  · rfl

theorem count_shownCode (word : IsCodeName name) : (shownCode name).count ':' =
    if (EmojiTable.find? (splitWish name).1).isSome then 0 else 2 := by
  have nameless : name.count ':' = 0 := List.count_eq_zero.mpr fun mem => (word ':' mem).1 rfl
  have wish : (splitWish name).2.count ':' = 0 := by
    unfold splitWish
    dsimp only
    split
    · rfl
    · split <;> rfl
  unfold shownCode
  cases found : EmojiTable.find? (splitWish name).1 with
  | none => simp [nameless]
  | some emoji =>
    have colonless : emoji.count ':' = 0 :=
      List.count_eq_zero.mpr (EmojiTable.colonless _ _ found)
    simp [colonless, wish]

theorem count_shownCode_le (word : IsCodeName name) : (shownCode name).count ':' ≤ 2 := by
  rw [count_shownCode word]
  split
  · exact Nat.zero_le 2
  · exact Nat.le_refl 2

/-! ## Texts -/

theorem withEmoji_eq_self (codeless : ¬ HasCode cs) : withEmoji cs = cs := by
  have every (n : Nat) : emojiFrom Text.isBlank n cs = cs := by
    induction n generalizing cs with
    | zero => rfl
    | succ n ih =>
      cases cs with
      | nil => rfl
      | cons c rest =>
        obtain ⟨name, after, word, rfl, rfl⟩ | plain := code_or_plain c rest
        · have unknown : EmojiTable.find? (splitWish name).1 = none :=
            Option.not_isSome_iff_eq_none.mp fun known => codeless (.here word known)
          rw [emojiFrom_code word, ih fun later => codeless (.behind word later), shownCode,
            unknown]
          simp
        · rw [emojiFrom_plain plain, ih fun later => codeless (.on plain later)]
  exact every _

theorem count_emojiFrom_le (n : Nat) (cs : List Char) :
    (emojiFrom Text.isBlank n cs).count ':' ≤ cs.count ':' := by
  induction n generalizing cs with
  | zero => exact Nat.le_refl _
  | succ n ih =>
    cases cs with
    | nil => exact Nat.le_refl _
    | cons c rest =>
      obtain ⟨name, after, word, rfl, rfl⟩ | plain := code_or_plain c rest
      · have shown := count_shownCode_le word
        have later := ih after
        rw [emojiFrom_code word]
        simp only [List.count_append, List.count_cons_self]
        omega
      · rw [emojiFrom_plain plain, List.count_cons, List.count_cons]
        have later := ih rest
        omega

theorem count_emojiFrom_lt (code : HasCode cs) (enough : cs.length ≤ n) :
    (emojiFrom Text.isBlank n cs).count ':' < cs.count ':' := by
  induction code generalizing n with
  | @here name after word known =>
    obtain ⟨n, rfl⟩ := Nat.exists_eq_add_of_lt (Nat.lt_of_lt_of_le (Nat.succ_pos _) enough)
    have later := count_emojiFrom_le n after
    rw [Nat.zero_add, emojiFrom_code word]
    simp only [List.count_append, List.count_cons_self, count_shownCode word, known, if_true]
    omega
  | @behind name after word later ih =>
    obtain ⟨n, rfl⟩ := Nat.exists_eq_add_of_lt (Nat.lt_of_lt_of_le (Nat.succ_pos _) enough)
    have fewer : (emojiFrom Text.isBlank n after).count ':' < after.count ':' := by
      refine ih ?_
      simp only [List.length_cons, List.length_append] at enough
      omega
    have shown := count_shownCode_le word
    rw [Nat.zero_add, emojiFrom_code word]
    simp only [List.count_append, List.count_cons_self]
    omega
  | @on c cs plain later ih =>
    obtain ⟨n, rfl⟩ := Nat.exists_eq_add_of_lt (Nat.lt_of_lt_of_le (Nat.succ_pos _) enough)
    have fewer : (emojiFrom Text.isBlank n cs).count ':' < cs.count ':' := by
      refine ih ?_
      simp only [List.length_cons] at enough
      omega
    rw [Nat.zero_add, emojiFrom_plain plain, List.count_cons, List.count_cons]
    omega

theorem count_withEmoji_le (cs : List Char) : (withEmoji cs).count ':' ≤ cs.count ':' :=
  count_emojiFrom_le _ cs

theorem count_withEmoji_lt (code : HasCode cs) : (withEmoji cs).count ':' < cs.count ':' :=
  count_emojiFrom_lt code (Nat.le_refl _)

end Proctor.Layout

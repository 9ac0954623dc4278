import Mathlib.Data.List.TakeWhile
import Proctor.Text.Line

/-!
# The lines of a text

A text is a sequence of lines, each with the break that ends it; the end of the text ends a last
line too, unless nothing stands in it. Which lines these are depends on the characters that
count as breaks, and on nothing else: every text has its lines, and no other ones.
-/

namespace Proctor.Text

variable {ends ends' : Char → Bool} {cs rest brk current : List Char} {ls ls' : List (List Char)}

/-- A break and the text after it. A carriage return and a line feed make one break together. -/
inductive IsBreak (ends : Char → Bool) : List Char → List Char → Prop
  | pair (rest : List Char) (first : ends '\r') (second : ends '\n') :
      IsBreak ends ['\r', '\n'] rest
  | single {c : Char} {rest : List Char} (breaks : ends c)
      (alone : c = '\r' → rest.head? ≠ some '\n') : IsBreak ends [c] rest

/-- The text has these lines, where the given characters end them. -/
inductive HasLines (ends : Char → Bool) : List Char → List (List Char) → Prop
  | empty : HasLines ends [] []
  | last {line : List Char} (some_ : line ≠ []) (clean : ∀ c ∈ line, ends c = false) :
      HasLines ends line [line]
  | cons {line brk rest : List Char} {lines : List (List Char)}
      (clean : ∀ c ∈ line, ends c = false) (isBreak : IsBreak ends brk rest)
      (later : HasLines ends rest lines) : HasLines ends (line ++ (brk ++ rest)) (line :: lines)

/-! ## One way to have lines -/

theorem head_ne_of_alone (alone : ∀ more, rest = '\n' :: more → False) :
    rest.head? ≠ some '\n' := by
  intro pair
  obtain ⟨more, rfl⟩ := List.head?_eq_some_iff.mp pair
  exact alone more rfl

theorem IsBreak.exists_cons (isBreak : IsBreak ends brk rest) :
    ∃ c more, brk = c :: more ∧ ends c := by
  cases isBreak with
  | pair rest first second => exact ⟨'\r', _, rfl, first⟩
  | single breaks alone => exact ⟨_, [], rfl, breaks⟩

theorem IsBreak.unique {brk' rest' : List Char} (isBreak : IsBreak ends brk rest)
    (isBreak' : IsBreak ends brk' rest') (same : brk ++ rest = brk' ++ rest') : rest = rest' := by
  cases isBreak with
  | pair =>
    cases isBreak' with
    | pair => exact (List.cons.inj (List.cons.inj same).2).2
    | single breaks alone =>
      obtain ⟨rfl, rfl⟩ := List.cons.inj same
      exact absurd rfl (alone rfl)
  | single breaks alone =>
    cases isBreak' with
    | pair =>
      obtain ⟨rfl, rfl⟩ := List.cons.inj same
      exact absurd rfl (alone rfl)
    | single => exact (List.cons.inj same).2

/-- The first line of a text reaches as far as to its first break. -/
theorem IsBreak.takeWhile {line : List Char} (isBreak : IsBreak ends brk rest)
    (clean : ∀ c ∈ line, ends c = false) :
    (line ++ (brk ++ rest)).takeWhile (!ends ·) = line := by
  obtain ⟨c, more, rfl, breaks⟩ := isBreak.exists_cons
  rw [List.takeWhile_append_of_pos (by simpa using clean), List.cons_append,
    List.takeWhile_cons_of_neg (by simpa using breaks), List.append_nil]

/-- No text has a first break and none. -/
theorem IsBreak.append_ne {line line' : List Char} (isBreak : IsBreak ends brk rest)
    (clean' : ∀ c ∈ line', ends c = false) : line ++ (brk ++ rest) ≠ line' := by
  rintro rfl
  obtain ⟨c, more, rfl, breaks⟩ := isBreak.exists_cons
  exact Bool.noConfusion ((clean' c (by simp)).symm.trans breaks)

theorem HasLines.unique (has : HasLines ends cs ls) (has' : HasLines ends cs ls') :
    ls = ls' := by
  generalize same : cs = cs' at has'
  induction has generalizing cs' ls' with
  | empty =>
    cases has' with
    | empty => rfl
    | last some_ => exact absurd same.symm some_
    | cons _ isBreak _ => exact absurd same.symm (isBreak.append_ne (List.forall_mem_nil _))
  | last some_ clean =>
    cases has' with
    | empty => exact absurd same some_
    | last => rw [same]
    | cons _ isBreak _ => exact absurd same.symm (isBreak.append_ne clean)
  | cons clean isBreak _ ih =>
    cases has' with
    | empty => exact absurd same (isBreak.append_ne (List.forall_mem_nil _))
    | last _ clean' => exact absurd same (isBreak.append_ne clean')
    | cons clean' isBreak' later' =>
      have first := congrArg (List.takeWhile (!ends ·)) same
      rw [isBreak.takeWhile clean, isBreak'.takeWhile clean'] at first
      subst first
      obtain rfl := isBreak.unique isBreak' (List.append_cancel_left same)
      rw [ih _ rfl later']

theorem HasLines.exists_cons {c : Char} (has : HasLines ends rest ls) (plain : ends c = false) :
    ∃ ls', HasLines ends (c :: rest) ls' := by
  cases has with
  | empty => exact ⟨_, .last (List.cons_ne_nil c []) (by simpa using plain)⟩
  | last some_ clean =>
    exact ⟨_, .last (List.cons_ne_nil c _) (List.forall_mem_cons.mpr ⟨plain, clean⟩)⟩
  | cons clean isBreak later =>
    exact ⟨_, .cons (List.forall_mem_cons.mpr ⟨plain, clean⟩) isBreak later⟩

/-- Every text has lines. -/
theorem exists_hasLines (first : ends '\r') (second : ends '\n') (cs : List Char) :
    ∃ ls, HasLines ends cs ls := by
  have done : List Char := []
  induction done, cs using unifyBreaksFrom.induct with
  | case1 => exact ⟨[], .empty⟩
  | case2 _ rest ih =>
    obtain ⟨ls, has⟩ := ih
    exact ⟨_, .cons (List.forall_mem_nil _) (.pair rest first second) has⟩
  | case3 _ rest alone ih =>
    obtain ⟨ls, has⟩ := ih
    exact ⟨_, .cons (List.forall_mem_nil _) (.single first fun _ => head_ne_of_alone alone) has⟩
  | case4 _ c rest _ other ih =>
    obtain ⟨ls, has⟩ := ih
    cases breaks : ends c with
    | false => exact has.exists_cons breaks
    | true =>
      have isBreak : IsBreak ends [c] rest := .single breaks fun same => absurd same other
      exact ⟨_, .cons (List.forall_mem_nil _) isBreak has⟩

/-! ## What decides them -/

/-- Every character of a text ends a line or stands in one. -/
theorem HasLines.mem {c : Char} (has : HasLines ends cs ls) (mem : c ∈ cs) :
    ends c ∨ ∃ line ∈ ls, c ∈ line := by
  induction has with
  | empty => cases mem
  | last => exact .inr ⟨_, List.mem_singleton_self _, mem⟩
  | @cons line brk rest lines _ isBreak _ ih =>
    obtain inside | mem := List.mem_append.mp mem
    · exact .inr ⟨line, List.mem_cons_self, inside⟩
    obtain inside | later := List.mem_append.mp mem
    · left
      cases isBreak with
      | pair _ first second =>
        obtain rfl | rfl : c = '\r' ∨ c = '\n' := by simpa using inside
        · exact first
        · exact second
      | single breaks => rwa [List.mem_singleton.mp inside]
    · exact (ih later).imp_right fun ⟨other, listed, inside⟩ =>
        ⟨other, List.mem_cons_of_mem line listed, inside⟩

/-- No character of a line ends one. -/
theorem HasLines.clean {line : List Char} (has : HasLines ends cs ls) (mem : line ∈ ls) :
    ∀ c ∈ line, ends c = false := by
  induction has with
  | empty => cases mem
  | last _ clean => exact List.mem_singleton.mp mem ▸ clean
  | cons clean _ _ ih =>
    obtain rfl | mem := List.mem_cons.mp mem
    · exact clean
    · exact ih mem

theorem HasLines.congr (has : HasLines ends cs ls) (same : ∀ c ∈ cs, ends c = ends' c) :
    HasLines ends' cs ls := by
  induction has with
  | empty => exact .empty
  | last some_ clean => exact .last some_ fun c mem => (same c mem).symm.trans (clean c mem)
  | cons clean isBreak _ ih =>
    obtain ⟨here, same⟩ := List.forall_mem_append.mp same
    obtain ⟨breaks, later⟩ := List.forall_mem_append.mp same
    refine .cons (fun c mem => (here c mem).symm.trans (clean c mem)) ?_ (ih later)
    cases isBreak with
    | pair _ first second =>
      refine .pair _ ?_ ?_
      · rwa [← breaks '\r' (by simp)]
      · rwa [← breaks '\n' (by simp)]
    | @single c _ ends_ alone => exact .single (breaks c (by simp) ▸ ends_) alone

/-- With fewer breaks the lines stay the same exactly if no break of the text is missing. -/
theorem HasLines.congr_iff (has : HasLines ends cs ls) (fewer : ∀ c, ends' c → ends c) :
    HasLines ends' cs ls ↔ ∀ c ∈ cs, ends c → ends' c := by
  constructor
  · intro has' c mem breaks
    obtain still | ⟨line, listed, inside⟩ := has'.mem mem
    · exact still
    · rw [has.clean listed c inside] at breaks
      cases breaks
  · intro all
    exact has.congr fun c mem => Bool.eq_iff_iff.mpr ⟨all c mem, fewer c⟩

/-! ## Cutting -/

theorem unifyBreaksFrom_append (done more cs : List Char) :
    unifyBreaksFrom (done ++ more) cs = more.reverse ++ unifyBreaksFrom done cs := by
  fun_induction unifyBreaksFrom done cs with
  | case1 done => simp [unifyBreaksFrom]
  | case2 done rest ih => rw [unifyBreaksFrom, ← ih, List.cons_append]
  | case3 done rest alone ih => rw [unifyBreaksFrom, ← ih, List.cons_append]; exact alone
  | case4 done c rest _ other ih => rw [unifyBreaksFrom, ← ih, List.cons_append] <;> assumption

theorem unifyBreaks_pair (rest : List Char) :
    unifyBreaks ('\r' :: '\n' :: rest) = '\n' :: unifyBreaks rest :=
  unifyBreaksFrom_append [] ['\n'] rest

theorem unifyBreaks_return {rest : List Char} (alone : rest.head? ≠ some '\n') :
    unifyBreaks ('\r' :: rest) = '\n' :: unifyBreaks rest := by
  rw [unifyBreaks, unifyBreaksFrom]
  · exact unifyBreaksFrom_append [] ['\n'] rest
  · rintro more rfl
    exact alone rfl

theorem unifyBreaks_cons {c : Char} (other : c ≠ '\r') (rest : List Char) :
    unifyBreaks (c :: rest) = c :: unifyBreaks rest := by
  rw [unifyBreaks, unifyBreaksFrom]
  · exact unifyBreaksFrom_append [] [c] rest
  · rintro more rfl
    exact absurd rfl other
  · exact other

theorem linesFrom_append (current : List Char) (done more : List (List Char)) (cs : List Char) :
    linesFrom current (done ++ more) cs = more.reverse ++ linesFrom current done cs := by
  fun_induction linesFrom current done cs with
  | case1 current done empty => simp [linesFrom, empty]
  | case2 current done some_ => simp [linesFrom, some_]
  | case3 current done rest ih => rw [linesFrom, ← ih, List.cons_append]
  | case4 current done c rest pair breaks ih =>
    rw [linesFrom, if_pos breaks, ← ih, List.cons_append]
    exact pair
  | case5 current done c rest pair other ih =>
    rw [linesFrom, if_neg other, ← ih]
    exact pair

/-- Where every carriage return has become a line feed, one character decides at a time. -/
theorem linesFrom_cons {c : Char} (other : c ≠ '\r') (current cs : List Char) :
    linesFrom current [] (c :: cs) =
      if isLineBreak c then current.reverse :: linesFrom [] [] cs
      else linesFrom (c :: current) [] cs := by
  rw [linesFrom, ← List.nil_append [current.reverse], linesFrom_append]
  · rfl
  · rintro _ rfl
    exact absurd rfl other

/-- A text is cut into its lines, where every break counts. -/
theorem hasLines_linesFrom (clean : ∀ c ∈ current.reverse, isLineBreak c = false)
    (cs : List Char) :
    HasLines isLineBreak (current.reverse ++ cs) (linesFrom current [] (unifyBreaks cs)) := by
  -- the induction follows the breaks; what has been turned into line feeds plays no part in it
  have done : List Char := []
  have fresh : ∀ c ∈ ([] : List Char).reverse, isLineBreak c = false := List.forall_mem_nil _
  induction done, cs using unifyBreaksFrom.induct generalizing current with
  | case1 =>
    by_cases empty : current = []
    · subst empty
      exact .empty
    · have last : linesFrom current [] (unifyBreaks []) = [current.reverse] := by
        simp [unifyBreaks, unifyBreaksFrom, linesFrom, empty]
      rw [last, List.append_nil]
      exact .last (by simpa using empty) clean
  | case2 _ rest ih =>
    rw [unifyBreaks_pair, linesFrom_cons (by decide), if_pos (by decide)]
    exact .cons clean (.pair rest (by decide) (by decide)) (ih fresh)
  | case3 _ rest alone ih =>
    have alone := head_ne_of_alone alone
    rw [unifyBreaks_return alone, linesFrom_cons (by decide), if_pos (by decide)]
    exact .cons clean (.single (by decide) fun _ => alone) (ih fresh)
  | case4 _ c rest _ other ih =>
    rw [unifyBreaks_cons other, linesFrom_cons other]
    split
    case isTrue breaks =>
      exact .cons clean (.single breaks fun same => absurd same other) (ih fresh)
    case isFalse plain =>
      have clean : ∀ d ∈ (c :: current).reverse, isLineBreak d = false := by
        simpa [or_imp, forall_and, plain] using clean
      have longer := ih clean
      rwa [List.reverse_cons, List.append_assoc] at longer

/-- A text has the lines into which it is cut, where every break counts. -/
theorem hasLines_lines (cs : List Char) : HasLines isLineBreak cs (lines (unifyBreaks cs)) := by
  have fresh : ∀ c ∈ ([] : List Char).reverse, isLineBreak c = false := List.forall_mem_nil _
  exact hasLines_linesFrom fresh cs

end Proctor.Text

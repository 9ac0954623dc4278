import Proctor.Command.Words
import Proctor.Machine.Token

/-!
# Command lines read back

The shell that reads a line of quoted words finds exactly those words again. A harmless word
is read as it stands. A quoted word is read piece by piece, each piece being the text up to
the next single quote, and that quote itself is read from the double quotes around it.
-/

namespace Proctor

open Machine

namespace Command

/-! ## What a shell reads -/

/-- Does the shell take the character for itself where it is not quoted? Any other one makes it
look for names of files or of users. -/
def isLiteral (c : Char) : Bool := !"*?[~".toList.contains c

/-- The text of a word as the shell takes it, if nothing in it stands for something else. -/
def literal? : Word → Option (List Char)
  | [] => some []
  | .text s quoted :: rest =>
    if quoted || s.all isLiteral then (literal? rest).map (s ++ ·) else none
  | _ :: _ => none

/-- The text of a token, if it is a word. -/
def wordOf? (l : Lexeme) : Option String :=
  match l.token with
  | .word w => (literal? w).map String.ofList
  | _ => none

/-- The words of a line as the shell takes them, if it is made of nothing else. -/
def shellWords? (line : String) : Option (List String) :=
  (Token.tokens line.toList).toOption.bind fun ls => ls.mapM wordOf?

/-! ## Harmless words -/

variable {c : Char} {cs rest : List Char} {done : Word} {n : Nat}

/-- No character that means something to the shell is harmless. -/
theorem ne_of_isHarmless (harmless : isHarmless c) :
    ∀ k ∈ " \t\n;&|<>()\\\x27\"\x60$#*?[~".toList, c ≠ k := by
  rintro k special rfl
  have none_ : " \t\n;&|<>()\\\x27\"\x60$#*?[~".toList.all (!isHarmless ·) := by decide
  have other := List.all_eq_true.mp none_ c special
  simp [harmless] at other

theorem isMeta_of_isHarmless (harmless : isHarmless c) : Token.isMeta c = false := by
  have special := ne_of_isHarmless harmless
  simp at special
  simp [Token.isMeta, special]

theorem isLiteral_of_isHarmless (harmless : isHarmless c) : isLiteral c := by
  have special := ne_of_isHarmless harmless
  simp at special
  simp [isLiteral, special]

/-- A word ends at a blank and at the end of the text. -/
def EndsWord (rest : List Char) : Prop := rest = [] ∨ ∃ later, rest = ' ' :: later

theorem wordFrom_of_endsWord (ends : EndsWord rest) (some_ : 0 < n) :
    Token.wordFrom n done rest = some (done, rest) := by
  obtain ⟨m, rfl⟩ := Nat.exists_eq_add_of_lt some_
  obtain rfl | ⟨later, rfl⟩ := ends
  · rfl
  · rfl

/-- A harmless character is taken as it stands. -/
theorem wordFrom_cons_of_isHarmless (harmless : isHarmless c) :
    Token.wordFrom (n + 1) done (c :: cs) =
      Token.wordFrom n (Token.pushChar c false done) cs := by
  have special := ne_of_isHarmless harmless
  simp at special
  simp [Token.wordFrom, isMeta_of_isHarmless harmless, special]

/-- A run of harmless characters becomes one text that is not quoted. -/
theorem wordFrom_harmless {text : List Char} (harmless : ∀ c ∈ cs, isHarmless c)
    (ends : EndsWord rest) (enough : cs.length < n) :
    Token.wordFrom n (.text text false :: done) (cs ++ rest) =
      some (.text (text ++ cs) false :: done, rest) := by
  induction cs generalizing text n with
  | nil => simpa using wordFrom_of_endsWord ends enough
  | cons c cs ih =>
    obtain ⟨m, rfl⟩ := Nat.exists_eq_add_of_lt enough
    have later : ∀ c ∈ cs, isHarmless c := fun c mem => harmless c (List.mem_cons_of_mem _ mem)
    rw [List.cons_append, wordFrom_cons_of_isHarmless (harmless c List.mem_cons_self),
      Token.pushChar, beq_self_eq_true, if_pos rfl, ih later (by simp at enough ⊢; omega),
      List.append_assoc, List.singleton_append]

/-! ## Quoted words -/

theorem escapeQuotes_append (cs ds : List Char) :
    escapeQuotes (cs ++ ds) = escapeQuotes cs ++ escapeQuotes ds := by
  induction cs with
  | nil => rfl
  | cons c cs ih => rw [List.cons_append, escapeQuotes, escapeQuotes, ih, List.append_assoc]

theorem escapeQuotes_of_not_mem (plain : '\x27' ∉ cs) : escapeQuotes cs = cs := by
  induction cs with
  | nil => rfl
  | cons c cs ih =>
    rw [List.mem_cons, not_or] at plain
    obtain ⟨other, plain⟩ := plain
    rw [escapeQuotes, if_neg (Ne.symm other), ih plain, List.singleton_append]

theorem escapeQuotes_append_quote (plain : '\x27' ∉ cs) (ds : List Char) :
    escapeQuotes (cs ++ '\x27' :: ds) = cs ++ (quoteInside ++ escapeQuotes ds) := by
  rw [escapeQuotes_append, escapeQuotes_of_not_mem plain, escapeQuotes, if_pos rfl]

theorem untilQuote_append {quote : Char} {before : List Char} (plain : quote ∉ cs) :
    Token.untilQuote quote before (cs ++ quote :: rest) = some (before.reverse ++ cs, rest) := by
  induction cs generalizing before with
  | nil => simp [Token.untilQuote]
  | cons c cs ih =>
    rw [List.mem_cons, not_or] at plain
    obtain ⟨other, plain⟩ := plain
    simp [Token.untilQuote, Ne.symm other, ih plain]

/-- Up to the next single quote all is text. -/
theorem wordFrom_segment (plain : '\x27' ∉ cs) :
    Token.wordFrom (n + 1) done ('\x27' :: (cs ++ '\x27' :: rest)) =
      Token.wordFrom n (.text cs true :: done) rest := by
  simp [Token.wordFrom, Token.isMeta, untilQuote_append plain]

/-- A single quote stands in double quotes. -/
theorem wordFrom_quote :
    Token.wordFrom (n + 1) done ('"' :: '\x27' :: '"' :: rest) =
      Token.wordFrom n (.text ['\x27'] true :: done) rest := by
  simp [Token.wordFrom, Token.isMeta, Token.quotedParts, Token.pushChar]

/-- A quoted text is read to its end, whatever is in it. The induction is on its length: with
its first single quote the text before that is read off. -/
theorem exists_wordFrom_quoted (cs : List Char) (done : Word) (ends : EndsWord rest)
    (enough : (escapeQuotes cs).length + 2 ≤ n) :
    ∃ parts, literal? parts = some cs ∧
      Token.wordFrom n done ('\x27' :: (escapeQuotes cs ++ '\x27' :: rest)) =
        some (parts.reverse ++ done, rest) := by
  induction size : cs.length using Nat.strongRecOn generalizing cs done n with
  | ind size_ ih =>
  by_cases quoted : '\x27' ∈ cs
  · obtain ⟨first, later, rfl, plain⟩ := List.eq_append_cons_of_mem quoted
    have escaped := escapeQuotes_append_quote plain later
    obtain ⟨m, rfl⟩ : ∃ m, n = m + 2 := ⟨n - 2, by omega⟩
    have shorter : later.length < size_ := by
      rw [← size, List.length_append, List.length_cons]
      omega
    have enough : (escapeQuotes later).length + 2 ≤ m := by
      rw [escaped] at enough
      simp [quoteInside] at enough
      omega
    obtain ⟨parts, text, read⟩ :=
      ih later.length shorter later (.text ['\x27'] true :: .text first true :: done) enough rfl
    refine ⟨.text first true :: .text ['\x27'] true :: parts, ?_, ?_⟩
    · simp [literal?, text]
    · rw [escaped]
      simp only [quoteInside, List.append_assoc, List.cons_append, List.nil_append]
      rw [wordFrom_segment plain, wordFrom_quote, read]
      simp
  · obtain ⟨m, rfl⟩ : ∃ m, n = m + 1 := ⟨n - 1, by omega⟩
    refine ⟨[.text cs true], by simp [literal?], ?_⟩
    rw [escapeQuotes_of_not_mem quoted, wordFrom_segment quoted,
      wordFrom_of_endsWord ends (by omega)]
    simp

/-- A word is read back, as it stands or from its quotes. -/
theorem exists_readWord_quoteWord (cs : List Char) (ends : EndsWord rest) :
    ∃ parts, literal? parts = some cs ∧
      Token.readWord (quoteWord cs ++ rest) = some (parts, rest) := by
  unfold quoteWord Token.readWord
  split
  · rename_i bare
    cases cs with
    | nil => simp at bare
    | cons c cs =>
      have harmless : ∀ k ∈ c :: cs, isHarmless k := by simpa using bare
      refine ⟨[.text (c :: cs) false], ?_, ?_⟩
      · have literal : ∀ k ∈ c :: cs, isLiteral k := fun k mem =>
          isLiteral_of_isHarmless (harmless k mem)
        simpa [literal?] using literal
      · have begun : Token.pushChar c false [] = [.text [c] false] := rfl
        rw [List.cons_append, wordFrom_cons_of_isHarmless (harmless c List.mem_cons_self), begun,
          wordFrom_harmless (fun k mem => harmless k (List.mem_cons_of_mem _ mem)) ends
            (by simp only [List.length_cons, List.length_append]; omega)]
        rfl
  · obtain ⟨parts, text, read⟩ := exists_wordFrom_quoted cs [] ends (n :=
      ('\x27' :: (escapeQuotes cs ++ ['\x27']) ++ rest).length + 1) (by simp)
    refine ⟨parts, text, ?_⟩
    rw [List.cons_append, List.append_assoc, List.singleton_append] at read ⊢
    rw [read]
    simp

/-! ## Lines -/

theorem endsWord_nil : EndsWord [] := .inl rfl

theorem endsWord_cons (rest : List Char) : EndsWord (' ' :: rest) := .inr ⟨rest, rfl⟩

/-- A word begins with a harmless character or with a quote, so neither a blank, a comment nor
an operator is read where it begins. -/
theorem exists_quoteWord_eq_cons (cs : List Char) :
    ∃ c tail, quoteWord cs = c :: tail ∧ ∀ k ∈ " \t\n#\\;&|<>()".toList, c ≠ k := by
  unfold quoteWord
  split
  · rename_i bare
    cases cs with
    | nil => simp at bare
    | cons c cs =>
      have harmless : isHarmless c := by simp_all
      have special := ne_of_isHarmless harmless
      refine ⟨c, cs, rfl, fun k mem => special k ?_⟩
      have among : " \t\n#\\;&|<>()".toList.all
          (" \t\n;&|<>()\\\x27\"\x60$#*?[~".toList.contains ·) := by decide
      exact List.contains_iff_mem.mp (List.all_eq_true.mp among k mem)
  · have quoted : '\x27' ∉ " \t\n#\\;&|<>()".toList := by decide
    exact ⟨'\x27', _, rfl, fun k mem same => quoted (same ▸ mem)⟩

/-- What follows the digits at the beginning of a text. -/
def afterDigits (cs : List Char) : Option Char :=
  (cs.drop (cs.takeWhile Char.isDigit).length).head?

/-- The digits a word begins with do not stand right before a redirection. -/
theorem ne_redirection_of_afterDigits (ends : EndsWord rest) {k : Char}
    (next : afterDigits (quoteWord cs ++ rest) = some k) : k ≠ '<' ∧ k ≠ '>' := by
  rw [afterDigits, List.head?_drop] at next
  unfold quoteWord at next
  split at next
  · rename_i bare
    have harmless : ∀ c ∈ cs, isHarmless c := by simp_all
    clear bare
    induction cs with
    | nil =>
      obtain rfl | ⟨later, rfl⟩ := ends
      · cases next
      · obtain rfl : ' ' = k := Option.some.inj next
        decide
    | cons c cs ih =>
      rw [List.cons_append, List.takeWhile_cons] at next
      by_cases digit : c.isDigit
      · rw [if_pos digit, List.length_cons, List.getElem?_cons_succ] at next
        exact ih next fun c mem => harmless c (List.mem_cons_of_mem _ mem)
      · rw [if_neg digit, List.length_nil, List.getElem?_cons_zero] at next
        obtain rfl := Option.some.inj next
        have special := ne_of_isHarmless (harmless c List.mem_cons_self)
        exact ⟨special '<' (by decide), special '>' (by decide)⟩
  · obtain rfl : '\x27' = k := Option.some.inj next
    decide

theorem find?_operators {c : Char} (other : ∀ k ∈ ";&|<>()".toList, c ≠ k) (tail : List Char) :
    Token.operators.find? (fun o => o.toList.isPrefixOf (c :: tail)) = none := by
  have first : Token.operators.all fun o => o.toList.head?.any (";&|<>()".toList.contains ·) := by
    decide
  rw [List.find?_eq_none]
  intro o mem begins
  obtain ⟨k, same, special⟩ := (Option.any_eq_true ..).mp (List.all_eq_true.mp first o mem)
  obtain ⟨later, written⟩ : ∃ later, o.toList = k :: later := List.head?_eq_some_iff.mp same
  rw [written, List.isPrefixOf_iff_prefix, List.cons_prefix_cons] at begins
  exact other k (List.contains_iff_mem.mp special) begins.1.symm

/-- The next token is the word. -/
theorem exists_tokensFrom_quoteWord (cs : List Char) (line : Nat) (ls : List Lexeme)
    (ends : EndsWord rest) :
    ∃ parts breaks, literal? parts = some cs ∧
      Token.tokensFrom (n + 1) line ls (quoteWord cs ++ rest) =
        Token.tokensFrom n (line + breaks) (⟨.word parts, line⟩ :: ls) rest := by
  obtain ⟨parts, text, read⟩ := exists_readWord_quoteWord cs ends
  have undirected : (afterDigits (quoteWord cs ++ rest) == some '<' ||
      afterDigits (quoteWord cs ++ rest) == some '>') = false := by
    rw [Bool.or_eq_false_iff, beq_eq_false_iff_ne, beq_eq_false_iff_ne]
    exact ⟨fun next => (ne_redirection_of_afterDigits ends next).1 rfl,
      fun next => (ne_redirection_of_afterDigits ends next).2 rfl⟩
  obtain ⟨c, tail, begins, special⟩ := exists_quoteWord_eq_cons cs
  rw [begins, List.cons_append] at read undirected ⊢
  have other (k : Char) (mem : k ∈ " \t\n#\\;&|<>()".toList) : (c == k) = false :=
    beq_eq_false_iff_ne.mpr (special k mem)
  have none_ := find?_operators (c := c) (fun k mem => special k (by simp_all)) (tail ++ rest)
  unfold afterDigits at undirected
  let breaks := (((c :: (tail ++ rest)).take
    ((c :: (tail ++ rest)).length - rest.length)).filter (· == '\n')).length
  refine ⟨parts, breaks, text, ?_⟩
  rw [Token.tokensFrom]
  simp only [other ' ' (by decide), other '\t' (by decide), other '\n' (by decide),
    other '#' (by decide), other '\\' (by decide), none_, undirected, read, Bool.or_self,
    Bool.false_and, Bool.and_false, Bool.false_eq_true, if_false, breaks]

theorem tokensFrom_blank {line : Nat} {ls : List Lexeme} :
    Token.tokensFrom (n + 1) line ls (' ' :: rest) = Token.tokensFrom n line ls rest := rfl

theorem toList_line_singleton (w : String) :
    (Command.line [w]).toList = quoteWord w.toList ++ [] := by
  simp [Command.line]

theorem toList_line_cons_cons (w v : String) (words : List String) :
    (Command.line (w :: v :: words)).toList =
      quoteWord w.toList ++ ' ' :: (Command.line (v :: words)).toList := by
  simp [Command.line, String.toList_intercalate]

/-- A line of words is cut into these words. The induction is on the words; after each but the
last a blank is passed over. -/
theorem exists_tokensFrom_line (line : Nat) (ls : List Lexeme) (words : List String)
    (enough : (Command.line words).toList.length < n) :
    ∃ later, Token.tokensFrom n line ls (Command.line words).toList = .ok (ls.reverse ++ later) ∧
      later.mapM wordOf? = some words := by
  have taken {w : String} {parts : Word} {line : Nat} (text : literal? parts = some w.toList) :
      wordOf? ⟨.word parts, line⟩ = some w := by
    simp [wordOf?, text]
  induction words generalizing n line ls with
  | nil =>
    obtain ⟨m, rfl⟩ := Nat.exists_eq_add_of_lt enough
    exact ⟨[], by simp [Command.line, Token.tokensFrom], rfl⟩
  | cons w words ih =>
    obtain ⟨c, tail, begins, -⟩ := exists_quoteWord_eq_cons w.toList
    have long : 0 < (quoteWord w.toList).length := by
      rw [begins]
      exact Nat.succ_pos _
    cases words with
    | nil =>
      rw [toList_line_singleton, List.append_nil] at enough
      obtain ⟨m, rfl⟩ : ∃ m, n = m + 2 := ⟨n - 2, by omega⟩
      obtain ⟨parts, breaks, text, read⟩ := exists_tokensFrom_quoteWord (n := m + 1)
        w.toList line ls endsWord_nil
      refine ⟨[⟨.word parts, line⟩], ?_, by simp [taken text]⟩
      rw [toList_line_singleton, read]
      simp [Token.tokensFrom]
    | cons v words =>
      rw [toList_line_cons_cons, List.length_append, List.length_cons] at enough
      obtain ⟨m, rfl⟩ : ∃ m, n = m + 2 := ⟨n - 2, by omega⟩
      obtain ⟨parts, breaks, text, read⟩ := exists_tokensFrom_quoteWord (n := m + 1)
        w.toList line ls (endsWord_cons (Command.line (v :: words)).toList)
      obtain ⟨later, cut, same⟩ := ih (n := m) (line + breaks) (⟨.word parts, line⟩ :: ls) (by omega)
      refine ⟨⟨.word parts, line⟩ :: later, ?_, by simp [taken text, same]⟩
      rw [toList_line_cons_cons, read, tokensFrom_blank, cut]
      simp

/-- The shell takes a line for exactly the words it was made of. -/
theorem shellWords?_line (words : List String) :
    shellWords? (Command.line words) = some words := by
  obtain ⟨ls, cut, same⟩ := exists_tokensFrom_line 1 [] words (n :=
    2 * (Command.line words).toList.length + 1) (by omega)
  have tokens : Token.tokens (Command.line words).toList = .ok ls := cut
  simp [shellWords?, tokens, Except.toOption, same]

end Command

end Proctor

import Proctor.Layout.Markup
import Proctor.Text.Case

/-!
# A reader of markup

Words in brackets that begin with a small letter, a hash, a slash or an at sign are tags. A tag
that begins with a slash closes the last one of its name, or the last one of all. Of the names
of colours the reader knows the basic ones, and a name it does not know stands for itself. A
backslash takes a bracket its meaning.
-/

namespace Proctor.Layout

/-- What markup consists of. -/
inductive MarkupPiece where
  | text (cs : List Char)
  | tag (cs : List Char)
  deriving DecidableEq, Repr

/-- Can a tag begin with the character? -/
def startsTag (c : Char) : Bool :=
  ('a' ≤ c && c ≤ 'z') || c == '#' || c == '/' || c == '@'

/-- The inside of a tag and what follows it, when one begins at an opening bracket
that has been passed. -/
def tagAfterBracket? (cs : List Char) : Option (List Char × List Char) :=
  match cs with
  | [] => none
  | c :: rest =>
    if startsTag c then
      let inside := rest.takeWhile fun x => x != ']' && x != '['
      match rest.drop inside.length with
      | ']' :: after => some (c :: inside, after)
      | _ => none
    else none

/-- Text with escaped brackets read. -/
def unescape : List Char → List Char
  | '\\' :: '[' :: rest => '[' :: unescape rest
  | c :: rest => c :: unescape rest
  | [] => []

/-- A piece of text, unless it is empty. -/
def textPiece (cs : List Char) : List MarkupPiece :=
  if cs.isEmpty then [] else [.text cs]

/-- The pieces of markup: `before` is the text since the last tag in reverse, and
the first argument bounds the steps. Of backslashes before a tag each two stand for
one, and one that remains makes the tag plain text. -/
def markupFrom : Nat → List Char → List Char → List MarkupPiece
  | 0, before, cs => textPiece (before.reverse ++ cs)
  | _, before, [] => textPiece before.reverse
  | n + 1, before, c :: rest =>
    if c == '\\' || c == '[' then
      let slashes := (c :: rest).takeWhile (· == '\\')
      let after := (c :: rest).drop slashes.length
      let plain := slashes.reverse ++ before
      match after with
      | '[' :: inner =>
        match tagAfterBracket? inner with
        | none => markupFrom n ('[' :: plain) inner
        | some (tag, after) =>
          textPiece before.reverse ++ textPiece (List.replicate (slashes.length / 2) '\\') ++
            (if slashes.length % 2 == 1 then [.text ('[' :: tag ++ [']'])] else [.tag tag]) ++
            markupFrom n [] after
      | after => markupFrom n plain after
    else markupFrom n (c :: before) rest

/-- The attributes a tag can name, with their short forms. -/
def attributeNames : List (String × String) := [
  ("bold", "b"), ("dim", "d"), ("italic", "i"), ("underline", "u"), ("blink", "blink"),
  ("blink2", "blink2"), ("reverse", "r"), ("conceal", "c"), ("strike", "s"),
  ("underline2", "uu"), ("frame", "frame"), ("encircle", "encircle"), ("overline", "o")]

/-- The full name of an attribute. -/
def attribute? (word : String) : Option String :=
  (attributeNames.find? fun a => a.1 == word || a.2 == word).map (·.1)

/-- The names of colours. -/
def colours : List String := [
  "default", "black", "red", "green", "yellow", "blue", "magenta", "cyan", "white",
  "bright_black", "bright_red", "bright_green", "bright_yellow", "bright_blue",
  "bright_magenta", "bright_cyan", "bright_white"]

/-- A description of how text looks. -/
structure Look where
  attributes : List (String × Bool) := []
  colour : Option String := none
  background : Option String := none
  link : Option String := none

/-- Read a description word by word. -/
def Look.read (l : Look) : List String → Option Look
  | [] => some l
  | word :: rest =>
    match Text.lower word, rest with
    | "on", c :: rest =>
      if colours.contains (Text.lower c) then read { l with background := some (Text.lower c) } rest
      else none
    | "on", [] => none
    | "not", a :: rest =>
      match attribute? a with
      | some a => read { l with attributes := (a, false) :: l.attributes } rest
      | none => none
    | "not", [] => none
    | "link", u :: rest => read { l with link := some u } rest
    | "link", [] => none
    | w, rest =>
      match attribute? w with
      | some a => read { l with attributes := (a, true) :: l.attributes } rest
      | none => if colours.contains w then read { l with colour := some w } rest else none

/-- The canonical form of a description. -/
def Look.text (l : Look) : String :=
  let attrs := attributeNames.filterMap fun a =>
    (l.attributes.lookup a.1).map fun on => if on then a.1 else "not " ++ a.1
  let words := attrs ++ l.colour.toList ++ (l.background.map ("on " ++ ·)).toList ++
    (l.link.map ("link " ++ ·)).toList
  if words.isEmpty then "none" else " ".intercalate words

/-- The name under which a tag is opened and closed. -/
def normalTag (cs : List Char) : String :=
  let words := (Text.words cs).map String.ofList
  if words.isEmpty || words == ["none"] then "none"
  else match Look.read {} words with
    | some l => l.text
    | none => Text.lower (String.ofList (Text.strip cs))

/-- The name in a tag, before an equals sign. -/
def tagName (tag : List Char) : List Char := tag.takeWhile (· != '=')

/-- The tags that are open after one more; `none` when it closes one that is not
open. The last opened tag comes first. -/
def afterTag (stack : List String) (tag : List Char) : Option (List String) :=
  match tagName tag with
  | '/' :: name =>
    if Text.isBlankText name then
      match stack with
      | [] => none
      | _ :: rest => some rest
    else
      let name := normalTag name
      if stack.contains name then some (stack.erase name) else none
  | name => some (normalTag name :: stack)

/-- What is printed of pieces of markup when some tags are open. -/
def printedPieces (stack : List String) : List MarkupPiece → Option (List (List Char))
  | [] => some []
  | .text cs :: rest => (printedPieces stack rest).map (unescape cs :: ·)
  | .tag t :: rest => (afterTag stack t).bind fun stack => printedPieces stack rest

/-- What is printed of markup. -/
def readMarkup (cs : List Char) : Option (List (List Char)) :=
  printedPieces [] (markupFrom (cs.length + 1) [] cs)

/-! ## What is refused -/

section Laws

variable {n : Nat} {before name rest after cs tag : List Char} {stack : List String}
  {pieces : List MarkupPiece}

theorem tagAfterBracket?_closing (unopened : '[' ∉ name) (unclosed : ']' ∉ name) :
    tagAfterBracket? ('/' :: (name ++ ']' :: after)) = some ('/' :: name, after) := by
  have inside : (name ++ ']' :: after).takeWhile (fun x => x != ']' && x != '[') = name := by
    rw [List.takeWhile_append_of_pos, List.takeWhile_cons_of_neg (by decide), List.append_nil]
    intro x mem
    have other : x ≠ ']' ∧ x ≠ '[' := ⟨fun same => unclosed (same ▸ mem),
      fun same => unopened (same ▸ mem)⟩
    simp [other]
  simp [tagAfterBracket?, startsTag, inside]

/-- A text that does not end in backslashes has something behind those it begins with. -/
theorem exists_slashes (unescaped : cs.getLast? ≠ some '\\') (some_ : cs ≠ []) :
    ∃ k d rest, cs = List.replicate k '\\' ++ d :: rest ∧ d ≠ '\\' := by
  induction cs with
  | nil => exact absurd rfl some_
  | cons c cs ih =>
    by_cases slash : c = '\\'
    · subst slash
      have more : cs ≠ [] := by
        rintro rfl
        exact unescaped rfl
      rw [List.getLast?_cons_of_ne_nil more] at unescaped
      obtain ⟨k, d, rest, same, other⟩ := ih unescaped more
      exact ⟨k + 1, d, rest, by rw [same]; rfl, other⟩
    · exact ⟨0, c, cs, rfl, slash⟩

theorem markupFrom_char {d : Char} (noSlash : d ≠ '\\') (noBracket : d ≠ '[')
    (text : List Char) : markupFrom (n + 1) text (d :: rest) = markupFrom n (d :: text) rest := by
  simp [markupFrom, noSlash, noBracket]

theorem markupFrom_slashes {d : Char} (noSlash : d ≠ '\\') (noBracket : d ≠ '[') (k : Nat)
    (text : List Char) :
    markupFrom (n + 1) text (List.replicate (k + 1) '\\' ++ d :: rest) =
      markupFrom n ((List.replicate (k + 1) '\\').reverse ++ text) (d :: rest) := by
  have slashes : (List.replicate (k + 1) '\\' ++ d :: rest).takeWhile (· == '\\') =
      List.replicate (k + 1) '\\' := by
    rw [List.takeWhile_append_of_pos (by simp), List.takeWhile_cons_of_neg (by simpa using noSlash),
      List.append_nil]
  have after : (List.replicate (k + 1) '\\' ++ d :: rest).drop
      (List.replicate (k + 1) '\\').length = d :: rest := List.drop_left
  rw [List.replicate_succ, List.cons_append] at slashes after ⊢
  rw [markupFrom, if_pos (by decide)]
  dsimp only
  rw [slashes, after]
  split
  · rename_i bracket
    exact absurd (List.cons.inj bracket).1 noBracket
  · rfl

/-- Up to a first bracket that is not escaped there is nothing but text. -/
theorem exists_markupFrom (rest text : List Char) (unopened : '[' ∉ before)
    (unescaped : before.getLast? ≠ some '\\') (enough : before.length < n) :
    ∃ m text', markupFrom n text (before ++ '[' :: rest) =
      markupFrom (m + 1) text' ('[' :: rest) := by
  induction n generalizing before text with
  | zero => simp at enough
  | succ n ih =>
    by_cases some_ : before = []
    · subst some_
      exact ⟨n, text, rfl⟩
    · obtain ⟨k, d, b, rfl, noSlash⟩ := exists_slashes unescaped some_
      have noBracket : d ≠ '[' := by
        rintro rfl
        simp at unopened
      have unopened' : '[' ∉ d :: b := fun mem => unopened (List.mem_append_right _ mem)
      have unescaped' : (d :: b).getLast? ≠ some '\\' := by simpa using unescaped
      rw [List.append_assoc, List.cons_append]
      cases k with
      | zero =>
        rw [List.replicate_zero, List.nil_append, markupFrom_char noSlash noBracket]
        refine ih _ (fun mem => unopened' (List.mem_cons_of_mem _ mem)) ?_ (by simpa using enough)
        intro last
        exact unescaped' (by simp [List.getLast?_cons, last])
      | succ k =>
        rw [markupFrom_slashes noSlash noBracket, ← List.cons_append]
        exact ih _ unopened' unescaped' (by simp at enough ⊢; omega)

theorem markupFrom_closing (unopened : '[' ∉ name) (unclosed : ']' ∉ name) (text : List Char) :
    markupFrom (n + 1) text ('[' :: '/' :: (name ++ ']' :: after)) =
      textPiece text.reverse ++ .tag ('/' :: name) :: markupFrom n [] after := by
  simp [markupFrom, tagAfterBracket?_closing unopened unclosed, textPiece]

theorem printedPieces_textPiece (cs : List Char) :
    printedPieces stack (textPiece cs ++ pieces) = none ↔ printedPieces stack pieces = none := by
  unfold textPiece
  split
  · rfl
  · simp [printedPieces]

theorem afterTag_closing (name : List Char) : afterTag [] ('/' :: name) = none := by
  have closes : tagName ('/' :: name) = '/' :: tagName name := rfl
  simp [afterTag, closes]

theorem readMarkup_closing (unopened : '[' ∉ before) (unescaped : before.getLast? ≠ some '\\')
    (unopened' : '[' ∉ name) (unclosed : ']' ∉ name) :
    readMarkup (before ++ '[' :: '/' :: (name ++ ']' :: after)) = none := by
  obtain ⟨m, text, same⟩ := exists_markupFrom ('/' :: (name ++ ']' :: after)) [] unopened
    unescaped (Nat.lt_succ_of_le (List.length_append ▸ Nat.le_add_right _ _))
  rw [readMarkup, same, markupFrom_closing unopened' unclosed, printedPieces_textPiece,
    printedPieces, afterTag_closing]
  rfl

/-! ## What is accepted -/

/-- The tag that a piece of markup is. -/
def MarkupPiece.tag? : MarkupPiece → Option (List Char)
  | .text _ => none
  | .tag t => some t

theorem eq_of_tagAfterBracket? (found : tagAfterBracket? cs = some (tag, rest)) :
    cs = tag ++ ']' :: rest := by
  cases cs with
  | nil => cases found
  | cons c after =>
    rw [tagAfterBracket?] at found
    split at found
    · dsimp only at found
      split at found
      · rename_i later closed
        obtain ⟨rfl, rfl⟩ := Prod.mk.inj (Option.some.inj found)
        have split := List.prefix_iff_eq_append.mp
          (List.takeWhile_prefix (l := after) fun x => x != ']' && x != '[')
        rw [List.cons_append, ← closed, split]
      · cases found
    · cases found

/-- A text between tags has no tag in it. -/
theorem filterMap_textPiece (cs : List Char) :
    (textPiece cs).filterMap MarkupPiece.tag? = [] := by
  unfold textPiece
  split <;> rfl

/-- Every tag stands in the text, in its brackets. -/
theorem infix_of_mem_markupFrom {n : Nat} {before : List Char}
    (mem : tag ∈ (markupFrom n before cs).filterMap MarkupPiece.tag?) :
    '[' :: (tag ++ [']']) <:+: cs := by
  induction n generalizing before cs with
  | zero => simp [markupFrom, filterMap_textPiece] at mem
  | succ n ih =>
    cases cs with
    | nil => simp [markupFrom, filterMap_textPiece] at mem
    | cons c rest =>
      rw [markupFrom] at mem
      dsimp only at mem
      split at mem
      · split at mem
        · rename_i inner opened
          have inside : '[' :: inner <:+ c :: rest := opened ▸ List.drop_suffix _ _
          split at mem
          · exact (ih mem).trans ((List.suffix_cons _ _).trans inside).isInfix
          · rename_i found after isTag
            obtain rfl := eq_of_tagAfterBracket? isTag
            have here : '[' :: (found ++ ']' :: after) = ('[' :: (found ++ [']'])) ++ after := by
              simp
            rw [here] at inside
            simp only [List.filterMap_append, filterMap_textPiece, List.nil_append,
              List.mem_append] at mem
            obtain isThis | later := mem
            · split at isThis
              · cases isThis
              · obtain rfl := List.mem_singleton.mp isThis
                exact (List.prefix_append _ _).isInfix.trans inside.isInfix
            · exact (ih later).trans ((List.suffix_append _ _).trans inside).isInfix
        · exact (ih mem).trans (List.drop_suffix _ _).isInfix
      · exact (ih mem).trans (List.suffix_cons c rest).isInfix

/-- A tag that does not close another can stand anywhere. -/
theorem isSome_printedPieces
    (opens : ∀ tag ∈ pieces.filterMap MarkupPiece.tag?, tag.head? ≠ some '/') :
    (printedPieces stack pieces).isSome := by
  induction pieces generalizing stack with
  | nil => rfl
  | cons piece pieces ih =>
    cases piece with
    | text cs =>
      rw [printedPieces, Option.isSome_map]
      exact ih opens
    | tag t =>
      obtain ⟨opens, others⟩ := List.forall_mem_cons.mp opens
      obtain ⟨stack', after⟩ : ∃ stack', afterTag stack t = some stack' := by
        unfold afterTag
        split
        · rename_i name closes
          cases t with
          | nil => cases closes
          | cons c t =>
            rw [tagName, List.takeWhile_cons] at closes
            split at closes
            · exact absurd (congrArg some (List.cons.inj closes).1) opens
            · cases closes
        · exact ⟨_, rfl⟩
      rw [printedPieces, after]
      exact ih others

theorem isSome_readMarkup (closeless : ¬ ['[', '/'] <:+: cs) : (readMarkup cs).isSome := by
  refine isSome_printedPieces fun tag mem closes => closeless ?_
  obtain ⟨name, rfl⟩ := List.head?_eq_some_iff.mp closes
  exact .trans ⟨[], name ++ [']'], by simp⟩ (infix_of_mem_markupFrom mem)

end Laws

instance Markup.basic : Markup where
  read? := readMarkup
  refuses _ _ _ := readMarkup_closing
  accepts _ := isSome_readMarkup

end Proctor.Layout

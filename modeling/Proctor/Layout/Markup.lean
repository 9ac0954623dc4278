import Proctor.Error
import Proctor.Layout.Cut
import Proctor.Layout.Emoji
import Proctor.Text.Blank

/-!
# Markup

Titles and the cells of tables are read as markup. Words in brackets may be tags, which are not
printed; one with a slash behind its bracket closes another, and a text in which such a tag has
nothing to close is refused. Which other words are tags, and which tags close each other, is up
to the reader of markup.
-/

namespace Proctor.Layout

/-- How markup is read. -/
class Markup where
  /-- What is printed of a text, piece by piece between its tags, unless the text is refused. -/
  read? : List Char → Option (List (List Char))
  /-- A tag that closes has nothing to close where no bracket stands before it. -/
  refuses : ∀ before name after, '[' ∉ before → before.getLast? ≠ some '\\' → '[' ∉ name →
    ']' ∉ name → read? (before ++ '[' :: '/' :: (name ++ ']' :: after)) = none
  /-- Only a tag that closes can have nothing to close. -/
  accepts : ∀ cs, ¬ ['[', '/'] <:+: cs → (read? cs).isSome

/-- Text with its emoji codes read. -/
def withEmoji [EmojiTable] (cs : List Char) : List Char := emojiFrom Text.isBlank cs.length cs

/-- The text that markup prints. -/
def markupText [EmojiTable] [Markup] (s : String) : Except Error (List Char) :=
  match Markup.read? s.toList with
  | some pieces => .ok ((pieces.flatMap withEmoji).filter (!isSilent ·))
  | none => .error .noMarkup

end Proctor.Layout

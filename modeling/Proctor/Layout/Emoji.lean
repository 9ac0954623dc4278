/-!
# Emoji codes

A name between colons stands for an emoji, if the table has one of that name. The name
may end in a wish for the way in which the emoji is shown. What is between two
colons is looked at once, whether it names an emoji or not.
-/

namespace Proctor.Layout

/-- The emoji there are, by name, in whichever case it is written. None has a colon in it. -/
class EmojiTable where
  find? : List Char → Option (List Char)
  colonless : ∀ name emoji, find? name = some emoji → ':' ∉ emoji

/-- The table with one emoji, which is used where no other table is given. -/
instance EmojiTable.hundred : EmojiTable where
  find? name := if name == ['1', '0', '0'] then some ['💯'] else none
  colonless := by
    intro name emoji found
    split at found
    · obtain rfl := Option.some.inj found
      decide
    · cases found

/-- The name up to the next colon, and what follows the colon; `isBlank` ends the
search. -/
def codeName? (isBlank : Char → Bool) (name : List Char) :
    List Char → Option (List Char × List Char)
  | [] => none
  | c :: rest =>
    if c == ':' then some (name.reverse, rest)
    else if isBlank c then none
    else codeName? isBlank (c :: name) rest

/-- A name without a wish at its end, and the character that expresses the wish. -/
def splitWish (name : List Char) : List Char × List Char :=
  let ending (s : String) := s.toList.isSuffixOf name
  if ending "-text" then (name.take (name.length - 5), ['\ufe0e'])
  else if ending "-emoji" then (name.take (name.length - 6), ['\ufe0f'])
  else (name, [])

/-- Emoji in the place of their codes; the first argument bounds the steps. -/
def emojiFrom [EmojiTable] (isBlank : Char → Bool) : Nat → List Char → List Char
  | 0, cs => cs
  | _, [] => []
  | n + 1, c :: rest =>
    if c == ':' then
      match codeName? isBlank [] rest with
      | none => c :: emojiFrom isBlank n rest
      | some (name, after) =>
        let (bare, wish) := splitWish name
        let shown := match EmojiTable.find? bare with
          | some emoji => emoji ++ wish
          | none => ':' :: (name ++ [':'])
        shown ++ emojiFrom isBlank n after
    else c :: emojiFrom isBlank n rest

end Proctor.Layout

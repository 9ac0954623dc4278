import Proctor.Error
import Proctor.Value.Order

/-!
# Log records

What the tool says about its own work. A record has a level, the name of the part
that speaks, an event and further entries; an emoji before the event shows the level
or, if the record bears a mark, what the event is about.
-/

namespace Proctor.Log

/-- How much a record matters. -/
inductive Level where
  | debug
  | info
  | warning
  | error
  deriving DecidableEq, Repr

namespace Level

/-- The name of a level. -/
def name : Level → String
  | debug => "debug"
  | info => "info"
  | warning => "warning"
  | error => "error"

/-- The rank of a level. -/
def rank : Level → Nat
  | debug => 10
  | info => 20
  | warning => 30
  | error => 40

end Level

/-- The ranks that names stand for. -/
def ranks : List (String × Nat) := [
  ("CRITICAL", 50), ("FATAL", 50), ("ERROR", 40), ("WARN", 30), ("WARNING", 30), ("INFO", 20),
  ("DEBUG", 10), ("NOTSET", 0)]

/-- The rank a name stands for, in either case. -/
def rankNamed? (name : String) : Option Nat :=
  (Text.asciiUpper? name).bind fun n => ranks.lookup n

/-- The emoji of a rank, if it has one of its own. -/
def rankEmoji? : Nat → Option String
  | 10 => some "🐛"
  | 20 => some "ℹ️"
  | 30 => some "⚠️"
  | 40 => some "❌"
  | 50 => some "💥"
  | _ => none

/-- The emoji of what is neither a level nor an event of its own. -/
def generalEmoji : String := "➡️"

/-- The emojis of marks. -/
def markEmojis : List (String × String) := [
  ("detect", "🔎"), ("build", "🛠️"), ("run", "🚀"), ("pass", "✅"), ("fail", "🚫"),
  ("time", "⏱️"), ("general", generalEmoji)]

/-- The emoji that a value marks an event with: a text is a mark, a number a rank. -/
def emojiOfMark? (mark : Value) : Option String :=
  match mark with
  | .text s => markEmojis.lookup s
  | v =>
    match v.fraction? with
    | some (n, d) => if n % d == 0 then rankEmoji? (n / d).toNat else none
    | none => none

/-- The entries of a record. -/
abbrev Entries := List (String × Value)

/-- The rank of a record, by its own level or else that of the method it was made
by; an unknown name counts as information. -/
def rankOf (method : String) (entries : Entries) : Nat :=
  let name := ((entries.lookup "level").map Value.display).getD method
  (rankNamed? name).getD 20

/-- The emoji of a record. -/
def emojiFor (method : String) (entries : Entries) : Except Error String :=
  let mark := (entries.lookup "emoji_key").getD .null
  let byRank := (rankEmoji? (rankOf method entries)).getD generalEmoji
  if !mark.isSet then .ok byRank
  else if !mark.isMember then .error .wrongType
  else .ok ((emojiOfMark? mark).getD byRank)

/-- A record with the emoji before its event, and without its mark. -/
def decorate (method : String) (entries : Entries) : Except Error Entries := do
  let emoji ← emojiFor method entries
  let shown := entries.map fun e =>
    match e with
    | ("event", .text s) => ("event", .text (emoji ++ " " ++ s))
    | e => e
  return shown.filter (·.1 != "emoji_key")

/-- A log record. -/
structure Record where
  level : Level
  /-- The part of the tool that speaks. -/
  logger : String
  event : String
  /-- What the event is about, where the level does not say. -/
  mark : Option String := none
  entries : Entries := []

namespace Record

/-- The emoji of a record. -/
def emoji (r : Record) : String :=
  ((r.mark.bind fun m => markEmojis.lookup m).orElse fun _ => rankEmoji? r.level.rank).getD
    generalEmoji

/-- The event with its emoji. -/
def title (r : Record) : String := r.emoji ++ " " ++ r.event

/-- All entries, with those that every record has, by name. -/
def all (r : Record) : Entries :=
  (("event", .text r.title) :: ("level", .text r.level.name) :: ("logger", .text r.logger) ::
    r.entries).mergeSort fun a b => a.1 ≤ b.1

/-- A record whose emoji is that of its level. -/
def plain (level : Level) (logger event : String) (entries : Entries) : Record :=
  { level, logger, event, entries }

end Record

end Proctor.Log

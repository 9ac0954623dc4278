/-!
# UTF-8 with replacement

A decoder for UTF-8 that never fails. It is a machine that takes one byte at a
time: between characters it is at `start`, inside one it is `owed` further bytes,
the next of them in a stated range. A byte that does not fit ends an ill-formed
part, which counts as one, and is then read again from the start; so an ill-formed
part is as long as it can be while it could still have become a character.
-/

namespace Proctor.Text.Utf8

/-- Where the machine stands between two bytes. -/
inductive State where
  /-- Between characters. -/
  | start
  /-- Inside a character: the next byte lies between `low` and `high`, `more`
  bytes follow it, and `value` collects the bits so far. -/
  | owed (low high : UInt8) (more : Nat) (value : Nat)
  deriving DecidableEq, Repr

/-- What the bytes are read as: a character, or an ill-formed part. -/
abbrev Piece := Option Char

/-- One byte between characters. -/
def first (b : UInt8) : State × List Piece :=
  if b < 0x80 then (.start, [some (Char.ofNat b.toNat)])
  else if 0xc2 ≤ b && b ≤ 0xdf then (.owed 0x80 0xbf 0 (b.toNat - 0xc0), [])
  else if b == 0xe0 then (.owed 0xa0 0xbf 1 0, [])
  else if b == 0xed then (.owed 0x80 0x9f 1 0xd, [])
  else if 0xe1 ≤ b && b ≤ 0xef then (.owed 0x80 0xbf 1 (b.toNat - 0xe0), [])
  else if b == 0xf0 then (.owed 0x90 0xbf 2 0, [])
  else if 0xf1 ≤ b && b ≤ 0xf3 then (.owed 0x80 0xbf 2 (b.toNat - 0xf0), [])
  else if b == 0xf4 then (.owed 0x80 0x8f 2 4, [])
  else (.start, [none])

/-- One byte, anywhere. -/
def step : State → UInt8 → State × List Piece
  | .start, b => first b
  | .owed low high more value, b =>
    if low ≤ b && b ≤ high then
      let value := 64 * value + (b.toNat - 0x80)
      match more with
      | 0 => (.start, [some (Char.ofNat value)])
      | more + 1 => (.owed 0x80 0xbf more value, [])
    else
      let (state, pieces) := first b
      (state, none :: pieces)

/-- What the end of the bytes adds: a character left unfinished is ill-formed. -/
def finish : State → List Piece
  | .start => []
  | .owed .. => [none]

/-- The machine on a whole run of bytes; `done` holds the pieces so far in reverse. -/
def runFrom (done : List Piece) (state : State) : List UInt8 → List Piece
  | [] => (finish state).reverse.append done |>.reverse
  | b :: rest =>
    let (state, pieces) := step state b
    runFrom (pieces.reverse.append done) state rest

/-- The characters and ill-formed parts of a run of bytes. -/
def pieces (bytes : List UInt8) : List Piece :=
  runFrom [] .start bytes

/-- The text of a run of bytes, every ill-formed part replaced by `U+FFFD`. -/
def decode (bytes : List UInt8) : List Char :=
  (pieces bytes).map fun p => p.getD '\ufffd'

/-- The text of a well-formed run of bytes. -/
def decode? (bytes : List UInt8) : Option (List Char) :=
  (pieces bytes).mapM id

/-- The bytes of a text. -/
def encode (s : String) : List UInt8 :=
  s.toUTF8.toList

end Proctor.Text.Utf8

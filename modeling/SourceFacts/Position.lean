import SourceFacts.Text.Bytes

/-!
Positions in a text: a row and a byte column, both counted from zero. Reading a byte moves a
position one step, so the position of an offset is the position after all bytes before it. It may also
be found without counting columns, from the place where its row starts.
-/
namespace SourceFacts

/-- A row, and a column in bytes from the start of the row. -/
structure Position where
  row : Nat
  column : Nat
  deriving DecidableEq, Repr, Inhabited

namespace Position

/-- Positions in the order of reading: by row, and by column within a row. -/
instance : LT Position where
  lt first second :=
    first.row < second.row ∨ first.row = second.row ∧ first.column < second.column

/-- The start of every text. -/
def origin : Position := ⟨0, 0⟩

/-- The position after one more byte. -/
def step (position : Position) (byte : UInt8) : Position :=
  if byte = Text.newline then ⟨position.row + 1, 0⟩ else ⟨position.row, position.column + 1⟩

/-- How far a run of bytes reaches when it starts at the origin. -/
def extent (bytes : List UInt8) : Position :=
  bytes.foldl step origin

/-- Moves a position by an extent: within a row it shifts the column, across rows it sets it. -/
def advance (position extent : Position) : Position :=
  if extent.row = 0 then ⟨position.row, position.column + extent.column⟩
  else ⟨position.row + extent.row, extent.column⟩

/-- The position of a byte offset; an offset past the end counts as the end. -/
def ofOffset (text : String) (offset : Nat) : Position :=
  extent ((Text.bytes text).take offset)

/-- Reads bytes from a place on, and keeps the row that is reached and the place where it starts. -/
def rowReached : List UInt8 → (place row start : Nat) → Nat × Nat
  | [], _, row, start => (row, start)
  | byte :: rest, place, row, start =>
    if byte = Text.newline then rowReached rest (place + 1) (row + 1) (place + 1)
    else rowReached rest (place + 1) row start

/-- The position of a byte offset, by its distance from the start of its row. -/
def ofRowStart (text : String) (offset : Nat) : Position :=
  let place := min offset (Text.bytes text).length
  let reached := rowReached ((Text.bytes text).take place) 0 0 0
  ⟨reached.1, place - reached.2⟩

/-- Walks over the bytes until the target is reached, and counts them; the whole length if it
never is. -/
def seek (target : Position) : Position → List UInt8 → Nat
  | _, [] => 0
  | here, byte :: rest => if here = target then 0 else seek target (here.step byte) rest + 1

/-- The byte offset of a position; the end of the text for a position that is not in it. -/
def toOffset (text : String) (position : Position) : Nat :=
  seek position origin (Text.bytes text)

end Position

end SourceFacts

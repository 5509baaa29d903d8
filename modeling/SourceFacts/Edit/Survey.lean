import SourceFacts.Edit

/-!
The rows and columns of an edit, worked out with numbers of one word. A word holds the numbers below a
limit. A sum that reaches the limit and a difference below zero are faults, each of which ends the work.
The row of an offset and the place where that row starts are found together, by going over the bytes
before the offset.
-/
namespace SourceFacts

namespace Word

/-- A number that no word holds. -/
inductive Fault where
  | tooLarge (first second : Nat)
  | belowZero (whole part : Nat)
  deriving DecidableEq, Repr

/-- The sum of two numbers. -/
def plus (limit first second : Nat) : Except Fault Nat :=
  if first + second < limit then .ok (first + second) else .error (.tooLarge first second)

/-- What is left of a number. -/
def minus (whole part : Nat) : Except Fault Nat :=
  if part ≤ whole then .ok (whole - part) else .error (.belowZero whole part)

end Word

namespace Position

/-- Reads bytes from a place on, and keeps the row that is reached and the place where it starts. -/
def rowInWords (limit : Nat) :
    List UInt8 → (place row start : Nat) → Except Word.Fault (Nat × Nat)
  | [], _, row, start => .ok (row, start)
  | byte :: rest, place, row, start => do
    let next ← Word.plus limit place 1
    if byte = Text.newline then
      let below ← Word.plus limit row 1
      rowInWords limit rest next below next
    else rowInWords limit rest next row start

/-- The position of a byte offset; an offset past the end counts as the end. -/
def inWords (limit : Nat) (text : String) (offset : Nat) : Except Word.Fault Position := do
  let place := min offset (Text.bytes text).length
  let reached ← rowInWords limit ((Text.bytes text).take place) 0 0 0
  let column ← Word.minus place reached.2
  return ⟨reached.1, column⟩

end Position

namespace Edit

/-- The rows and columns of an edit: its start and old end are those of the old text, its new end
that of the new text. -/
def survey (limit : Nat) (edit : Edit) (old new : String) : Except Word.Fault EditSpan := do
  let newStop ← Word.plus limit edit.start edit.text.utf8ByteSize
  let startAt ← Position.inWords limit old edit.start
  let oldStopAt ← Position.inWords limit old edit.stop
  let newStopAt ← Position.inWords limit new newStop
  return { start := edit.start, oldStop := edit.stop, newStop, startAt, oldStopAt, newStopAt }

end Edit

end SourceFacts

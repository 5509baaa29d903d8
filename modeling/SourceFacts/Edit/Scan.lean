import SourceFacts.Edit

/-!
The edit between two texts, found byte by byte. One scan compares the texts from the front and one
from the back. A scan may stop inside a character, so its place is then moved back to a boundary of
the old text, toward the end that it came from. Nothing is taken for granted on the way: a place with
no byte, a step below zero, a search that would go on past the end and a cut inside a character are
faults, each of which ends the scan. In the same way `Edit.check` tells whether a given edit leads from
one text to another: a stretch of bytes that is not there is a fault.
-/
namespace SourceFacts.Edit

/-- What can go wrong in a scan or a check. -/
inductive Fault where
  /-- There is no byte at this place. -/
  | noByte (place : Nat)
  /-- A place below zero was asked for. -/
  | belowZero
  /-- There is no boundary from this place on. -/
  | noBoundary (place : Nat)
  /-- The text cannot be cut at these two places. -/
  | noStretch (start stop : Nat)
  deriving DecidableEq, Repr

/-- The byte at a place. -/
def byteAt (bytes : List UInt8) (place : Nat) : Except Fault UInt8 :=
  match bytes[place]? with
  | some byte => .ok byte
  | none => .error (.noByte place)

/-- The first of a number of places, from this one on, at which the bytes differ. -/
def scanForward (old new : List UInt8) : Nat → Nat → Except Fault Nat
  | 0, place => .ok place
  | count + 1, place => do
    let a ← byteAt old place
    let b ← byteAt new place
    if a = b then scanForward old new count (place + 1) else return place

/-- The last boundary of a text up to a place. -/
def boundaryBefore (text : String) : Nat → Except Fault Nat
  | 0 => if Text.isBoundary text 0 then .ok 0 else .error .belowZero
  | place + 1 =>
    if Text.isBoundary text (place + 1) then .ok (place + 1) else boundaryBefore text place

/-- Goes back from the ends of two texts for as long as the bytes agree, but not below `start`. -/
def scanBackward (old new : List UInt8) (start : Nat) : Nat → Nat → Except Fault (Nat × Nat)
  | oldStop + 1, newStop + 1 =>
    if start ≤ oldStop ∧ start ≤ newStop then do
      let a ← byteAt old oldStop
      let b ← byteAt new newStop
      if a = b then scanBackward old new start oldStop newStop
      else return (oldStop + 1, newStop + 1)
    else .ok (oldStop + 1, newStop + 1)
  | oldStop, newStop => .ok (oldStop, newStop)

/-- Goes forward in two texts at once to the first boundary of the old one. There are none past its
end, which is this many places away. -/
def boundaryAfter (text : String) : Nat → Nat → Nat → Except Fault (Nat × Nat)
  | 0, oldStop, newStop =>
    if Text.isBoundary text oldStop then .ok (oldStop, newStop) else .error (.noBoundary oldStop)
  | count + 1, oldStop, newStop =>
    if Text.isBoundary text oldStop then .ok (oldStop, newStop)
    else boundaryAfter text count (oldStop + 1) (newStop + 1)

/-- The stretch of a text between two boundaries. -/
def stretch (text : String) (start stop : Nat) : Except Fault String :=
  if start ≤ stop then
    match Text.cut? text.toList start with
    | none => .error (.noStretch start stop)
    | some (_, after) =>
      match Text.cut? after (stop - start) with
      | none => .error (.noStretch start stop)
      | some (middle, _) => .ok (String.ofList middle)
  else .error (.noStretch start stop)

/-- Scans two texts for the edit between them. -/
def scan (old new : String) : Except Fault (Option Edit) :=
  if old = new then .ok none
  else do
    let oldBytes := Text.bytes old
    let newBytes := Text.bytes new
    let place ← scanForward oldBytes newBytes (min oldBytes.length newBytes.length) 0
    let start ← boundaryBefore old place
    let places ← scanBackward oldBytes newBytes start oldBytes.length newBytes.length
    let stops ← boundaryAfter old (oldBytes.length - places.1) places.1 places.2
    let text ← stretch new start stops.2
    return some ⟨start, stops.1, text⟩

/-- What is left of a number. -/
def minus (whole part : Nat) : Except Fault Nat :=
  if part ≤ whole then .ok (whole - part) else .error .belowZero

/-- The bytes between two places. -/
def byteStretch (bytes : List UInt8) (start stop : Nat) : Except Fault (List UInt8) :=
  if start ≤ stop ∧ stop ≤ bytes.length then .ok ((bytes.take stop).drop start)
  else .error (.noStretch start stop)

/-- Checks an edit against the texts before and behind it. The stretches of bytes are only looked at
once the lengths have been found to fit, and each only if the ones before it are the same. -/
def check (edit : Edit) (old new : String) : Except Fault Bool :=
  let oldBytes := Text.bytes old
  let newBytes := Text.bytes new
  let inserted := Text.bytes edit.text
  if edit.stop < edit.start ∨ oldBytes.length < edit.stop then .ok false
  else do
    let removed ← minus edit.stop edit.start
    let kept ← minus oldBytes.length removed
    if kept + inserted.length ≠ newBytes.length then return false
    else
      let insertedStop := edit.start + inserted.length
      let oldFront ← byteStretch oldBytes 0 edit.start
      let newFront ← byteStretch newBytes 0 edit.start
      if oldFront ≠ newFront then return false
      else
        let middle ← byteStretch newBytes edit.start insertedStop
        if middle ≠ inserted then return false
        else
          let oldBack ← byteStretch oldBytes edit.stop oldBytes.length
          let newBack ← byteStretch newBytes insertedStop newBytes.length
          return oldBack = newBack

end SourceFacts.Edit

import SourceFacts.Position

/-!
Edits: one stretch of a text replaced by another text. An edit names its stretch by byte offsets.
`Edit.between` finds the smallest edit that leads from one text to another, `Edit.applyTo?` carries
an edit out, and `Edit.transforms` checks it without building the result.
-/
namespace SourceFacts

/-- Replace the bytes from `start` up to `stop` by `text`. -/
structure Edit where
  start : Nat
  stop : Nat
  text : String
  deriving DecidableEq, Repr, Inhabited

/-- An edit together with the rows and columns of its three ends. -/
structure EditSpan where
  start : Nat
  oldStop : Nat
  newStop : Nat
  startAt : Position
  oldStopAt : Position
  newStopAt : Position
  deriving DecidableEq, Repr, Inhabited

namespace Edit

/-- The edit that changes nothing. -/
def nothing : Edit := ⟨0, 0, ""⟩

/-- Adds text and removes none. -/
def isInsertion (edit : Edit) : Bool :=
  edit.start = edit.stop && !edit.text.isEmpty

/-- Removes text and adds none. -/
def isDeletion (edit : Edit) : Bool :=
  edit.start < edit.stop && edit.text.isEmpty

/-- Removes text and adds some. -/
def isReplacement (edit : Edit) : Bool :=
  edit.start < edit.stop && !edit.text.isEmpty

/-- Bytes added less bytes removed, as a signed 64-bit number. An inverted range removes none. -/
def sizeDelta (edit : Edit) : Int :=
  Int.bmod ((edit.text.utf8ByteSize : Int) - ((edit.stop - edit.start : Nat) : Int)) (Nat.pow 2 64)

/-- The text after the edit. An inverted range, a range past the end and a range that splits a
character are refused. -/
def applyTo? (edit : Edit) (old : String) : Option String := do
  guard (edit.start ≤ edit.stop)
  let (before, _) ← Text.cut? old.toList edit.start
  let (_, after) ← Text.cut? old.toList edit.stop
  return String.ofList before ++ edit.text ++ String.ofList after

/-- Whether the edit leads from `old` to `new`, byte by byte: the three stretches of `new` are
compared where they stand. -/
def transforms (edit : Edit) (old new : String) : Bool :=
  let oldBytes := Text.bytes old
  let newBytes := Text.bytes new
  let inserted := Text.bytes edit.text
  let insertedStop := edit.start + inserted.length
  edit.start ≤ edit.stop && edit.stop ≤ oldBytes.length
    && oldBytes.length - (edit.stop - edit.start) + inserted.length = newBytes.length
    && oldBytes.take edit.start = newBytes.take edit.start
    && (newBytes.drop edit.start).take inserted.length = inserted
    && oldBytes.drop edit.stop = newBytes.drop insertedStop

/-- Takes off the characters that two runs share in front. -/
def dropShared : List Char → List Char → List Char × List Char × List Char
  | a :: as, b :: bs =>
    if a = b then
      let (shared, restA, restB) := dropShared as bs
      (a :: shared, restA, restB)
    else ([], a :: as, b :: bs)
  | as, bs => ([], as, bs)

/-- The smallest edit from one text to another: what they share in front stays, then what the
remainders share at the back stays. Equal texts have none. -/
def between (old new : String) : Option Edit :=
  let (front, oldRest, newRest) := dropShared old.toList new.toList
  let (_, oldMiddle, newMiddle) := dropShared oldRest.reverse newRest.reverse
  if oldMiddle.isEmpty && newMiddle.isEmpty then none
  else
    let start := Text.byteLength front
    some ⟨start, start + Text.byteLength oldMiddle, String.ofList newMiddle.reverse⟩

/-- The rows and columns of an edit: its start and old end are those of the old text, its new end
that of the new text. -/
def locate (edit : Edit) (old new : String) : EditSpan :=
  let newStop := edit.start + edit.text.utf8ByteSize
  { start := edit.start
    oldStop := edit.stop
    newStop
    startAt := Position.ofOffset old edit.start
    oldStopAt := Position.ofOffset old edit.stop
    newStopAt := Position.ofOffset new newStop }

/-- One edit in place of several: from the first start to the last stop, with the texts joined in
the order of their starts. It is exact for edits that touch each other. -/
def batch : List Edit → Option Edit
  | [] => none
  | [edit] => some edit
  | edits =>
    match edits.mergeSort fun a b => a.start ≤ b.start with
    | [] => none
    | first :: rest =>
      some
        { start := first.start
          stop := (first :: rest).foldl (fun stop edit => max stop edit.stop) 0
          text := String.join ((first :: rest).map Edit.text) }

end Edit

end SourceFacts

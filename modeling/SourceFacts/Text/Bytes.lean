/-!
Texts seen as bytes. Offsets into a text are byte offsets of its UTF-8 form, while cuts are only
made between characters, so both views are kept here: `bytes` for comparing and counting, `cut?`
for taking a text apart.
-/
namespace SourceFacts.Text

/-- The UTF-8 bytes of a text. -/
def bytes (text : String) : List UInt8 :=
  text.toByteArray.data.toList

/-- The number of bytes that a run of characters takes. -/
def byteLength : List Char → Nat
  | [] => 0
  | c :: rest => c.utf8Size + byteLength rest

/-- Cuts a run of characters at a byte offset. There is no cut inside a character or past the
end. -/
def cut? : List Char → Nat → Option (List Char × List Char)
  | chars, 0 => some ([], chars)
  | [], _ + 1 => none
  | c :: rest, offset =>
    if c.utf8Size ≤ offset then
      (cut? rest (offset - c.utf8Size)).map fun (before, after) => (c :: before, after)
    else none

/-- The stretch of a text between two byte offsets; nothing if it cannot be cut there. -/
def slice (text : String) (start stop : Nat) : String :=
  match cut? text.toList start with
  | none => ""
  | some (_, after) =>
    match cut? after (stop - start) with
    | none => ""
    | some (middle, _) => String.ofList middle

/-- Whether a byte offset falls between two characters, or at either end. -/
def isBoundary (text : String) (offset : Nat) : Bool :=
  (cut? text.toList offset).isSome

/-- The byte that ends a line. -/
def newline : UInt8 := 10

/-- How many lines end before a byte offset. -/
def linesBefore (text : String) (offset : Nat) : Nat :=
  ((bytes text).take offset).count newline

end SourceFacts.Text

/-!
Blank characters: those with the Unicode property White_Space.
-/
namespace SourceFacts.Text

/-- The ranges of blank characters, both ends included. -/
def blankRanges : List (Nat × Nat) :=
  [(0x9, 0xD), (0x20, 0x20), (0x85, 0x85), (0xA0, 0xA0), (0x1680, 0x1680), (0x2000, 0x200A),
    (0x2028, 0x2029), (0x202F, 0x202F), (0x205F, 0x205F), (0x3000, 0x3000)]

/-- Whether a character is blank. -/
def isBlank (c : Char) : Bool :=
  blankRanges.any fun (low, high) => low ≤ c.toNat && c.toNat ≤ high

/-- A text without the blanks at its ends. -/
def trim (text : String) : String :=
  String.ofList ((text.toList.dropWhile isBlank).reverse.dropWhile isBlank).reverse

/-- The runs of characters between blanks. -/
def words (text : String) : List String :=
  let step (c : Char) (state : List Char × List (List Char)) : List Char × List (List Char) :=
    if isBlank c then ([], if state.1.isEmpty then state.2 else state.1 :: state.2)
    else (c :: state.1, state.2)
  let (first, rest) := text.toList.foldr step ([], [])
  (if first.isEmpty then rest else first :: rest).map String.ofList

end SourceFacts.Text

import SourceFacts.Json.Number

/-!
Reading structured text. The reader works on characters, takes as much as one value needs and leaves
the rest; a whole text has to be one value between blanks. Its depth is bounded by the length of the
text.
-/
namespace SourceFacts.Json

/-- A value and the characters after it. -/
abbrev Reader (α : Type) := List Char → Option (α × List Char)

namespace Reader

/-- The characters that may stand between tokens. -/
def isBlank (c : Char) : Bool :=
  c = ' ' || c = '\n' || c = '\t' || c = '\r'

def skipBlanks (chars : List Char) : List Char :=
  chars.dropWhile isBlank

/-- Takes a fixed word. -/
def word (expected : String) (result : Json) : Reader Json := fun chars =>
  if expected.toList.isPrefixOf chars then some (result, chars.drop expected.length) else none

/-- The value of a decimal digit. -/
def digit? (c : Char) : Option Nat :=
  if '0' ≤ c ∧ c ≤ '9' then some (c.toNat - '0'.toNat) else none

/-- The value of a hexadecimal digit. -/
def hexDigit? (c : Char) : Option Nat :=
  if '0' ≤ c ∧ c ≤ '9' then some (c.toNat - '0'.toNat)
  else if 'a' ≤ c ∧ c ≤ 'f' then some (c.toNat - 'a'.toNat + 10)
  else if 'A' ≤ c ∧ c ≤ 'F' then some (c.toNat - 'A'.toNat + 10)
  else none

/-- Takes all digits in front. -/
def digits : List Char → List Nat × List Char
  | c :: rest =>
    match digit? c with
    | some value =>
      let (more, rest) := digits rest
      (value :: more, rest)
    | none => ([], c :: rest)
  | [] => ([], [])

/-- Takes at least one digit. -/
def someDigits : Reader (List Nat) := fun chars =>
  match digits chars with
  | ([], _) => none
  | found => some found

/-- Takes the digits behind a point, if there is one. -/
def fraction : Reader (Option (List Nat))
  | '.' :: rest => (someDigits rest).map fun (found, rest) => (some found, rest)
  | chars => some (none, chars)

/-- Takes a minus sign, if there is one, and says whether it was there. -/
def minus : List Char → Bool × List Char
  | '-' :: rest => (true, rest)
  | chars => (false, chars)

/-- Takes a sign, if there is one, and says whether it was a minus sign. -/
def sign : List Char → Bool × List Char
  | '+' :: rest => (false, rest)
  | chars => minus chars

/-- Takes a signed exponent, if there is one. -/
def exponent : Reader (Option (Bool × List Nat))
  | c :: rest =>
    if c = 'e' || c = 'E' then
      let (negative, rest) := sign rest
      (someDigits rest).map fun (found, rest) => (some (negative, found), rest)
    else some (none, c :: rest)
  | [] => some (none, [])

/-- Takes a number. Its whole part has no leading zero. -/
def number : Reader Json := fun chars => do
  let (negative, chars) := minus chars
  let (whole, chars) ← someDigits chars
  guard (whole.head? ≠ some 0 || whole.length = 1)
  let (fraction, chars) ← fraction chars
  let (exponent, chars) ← exponent chars
  return (Number.value { negative, whole, fraction, exponent }, chars)

/-- The character behind a backslash that stands for one other character. -/
def shortEscape? : Char → Option Nat
  | '"' => some 34
  | '\\' => some 92
  | '/' => some 47
  | 'b' => some 8
  | 'f' => some 12
  | 'n' => some 10
  | 'r' => some 13
  | 't' => some 9
  | _ => none

/-- Takes the inside of a quoted text and its closing quote, as a list of code units: a character
counts as one, an escaped unit as it is written. -/
def units : Reader (List Nat)
  | [] => none
  | '"' :: rest => some ([], rest)
  | '\\' :: 'u' :: a :: b :: c :: d :: rest => do
    let unit := 4096 * (← hexDigit? a) + 256 * (← hexDigit? b) + 16 * (← hexDigit? c)
      + (← hexDigit? d)
    let (more, rest) ← units rest
    return (unit :: more, rest)
  | '\\' :: c :: rest => do
    let unit ← shortEscape? c
    let (more, rest) ← units rest
    return (unit :: more, rest)
  | c :: rest => do
    guard (32 ≤ c.toNat)
    let (more, rest) ← units rest
    return (c.toNat :: more, rest)

def isHighHalf (unit : Nat) : Bool := 0xD800 ≤ unit && unit < 0xDC00

def isLowHalf (unit : Nat) : Bool := 0xDC00 ≤ unit && unit < 0xE000

/-- Joins the two halves of characters beyond the basic plane; a half on its own is no text. -/
def joinHalves : List Nat → Option (List Char)
  | high :: low :: rest =>
    if isHighHalf high then
      if isLowHalf low then
        (joinHalves rest).map
          (Char.ofNat (0x10000 + (high - 0xD800) * 1024 + (low - 0xDC00)) :: ·)
      else none
    else if isLowHalf high then none
    else (joinHalves (low :: rest)).map (Char.ofNat high :: ·)
  | [unit] => if isHighHalf unit || isLowHalf unit then none else some [Char.ofNat unit]
  | [] => some []

/-- Takes a quoted text without its opening quote. -/
def quoted : Reader Json := fun chars => do
  let (found, rest) ← units chars
  match joinHalves found with
  | some text => return (.string (String.ofList text), rest)
  | none => return (.unreadable, rest)

/-- Takes items with commas between them, up to and with a closing mark. `started` says whether an item
came before. -/
def sequence {α : Type} (closing : Char) (item : Reader α) : Nat → Bool → Reader (List α)
  | 0, _, _ => none
  | fuel + 1, started, chars =>
    match skipBlanks chars with
    | [] => none
    | c :: rest =>
      if c = closing then some ([], rest)
      else if started && c ≠ ',' then none
      else do
        let (found, rest) ← item (if started then rest else c :: rest)
        let (more, rest) ← sequence closing item fuel true rest
        return (found :: more, rest)

/-- Takes one field: a quoted name, a colon and a value. -/
def field (value : Reader Json) : Reader (String × Json) := fun chars =>
  match skipBlanks chars with
  | '"' :: rest => do
    let (name, rest) ← quoted rest
    let name ← name.toText?
    match skipBlanks rest with
    | ':' :: rest =>
      let (found, rest) ← value rest
      return ((name, found), rest)
    | _ => none
  | _ => none

/-- Takes one value. The bound limits both the depth and the length of lists; the length of the
text is always enough. -/
def value : Nat → Reader Json
  | 0, _ => none
  | fuel + 1, chars =>
    match skipBlanks chars with
    | 'n' :: rest => word "ull" .null rest
    | 't' :: rest => word "rue" (.bool true) rest
    | 'f' :: rest => word "alse" (.bool false) rest
    | '"' :: rest => quoted rest
    | '[' :: rest =>
      (sequence ']' (value fuel) (fuel + 1) false rest).map fun (found, rest) =>
        (.array found, rest)
    | '{' :: rest =>
      (sequence '\x7d' (field (value fuel)) (fuel + 1) false rest).map fun (found, rest) =>
        (.object found, rest)
    | chars => number chars

end Reader

/-- Reads a whole text as one value. -/
def read? (text : String) : Option Json :=
  let chars := text.toList
  match Reader.value (chars.length + 1) chars with
  | some (found, rest) => if (Reader.skipBlanks rest).isEmpty then some found else none
  | none => none

end SourceFacts.Json

import SourceFacts.Text.Blank

/-!
Tokens of source texts. A language describes its comments, its literals and its longer operators in
a `Lexicon`; names and single marks are the same everywhere. Every token knows where it starts and
ends, in bytes.
-/
namespace SourceFacts.Syntax

/-- What a token is. -/
inductive TokenKind where
  /-- A name or keyword. -/
  | word
  /-- A quoted text in its plain form. -/
  | string
  /-- A number, a character or any other literal. -/
  | literal
  /-- An operator, a bracket or a separator. -/
  | mark
  deriving DecidableEq, Repr, Inhabited

/-- A token with its text as written. -/
structure Token where
  kind : TokenKind
  text : String
  start : Nat
  stop : Nat
  deriving DecidableEq, Repr, Inhabited

namespace Token

def isWord (token : Token) (text : String) : Bool :=
  token.kind = .word && token.text = text

def isMark (token : Token) (text : String) : Bool :=
  token.kind = .mark && token.text = text

end Token

/-- How the tokens of a language look beyond names and single marks. The functions look at the
characters ahead and answer with a count of characters. -/
structure Lexicon where
  /-- The length of a comment that starts here. -/
  comment? : List Char → Option Nat
  /-- The kind and length of a literal that starts here. -/
  literal? : List Char → Option (TokenKind × Nat)
  /-- Operators of several characters that are one token. -/
  operators : List String

namespace Lexicon

/-- Characters that stand between tokens: blanks and a few that take no room. -/
def isSpace (c : Char) : Bool :=
  Text.isBlank c || c.toNat = 0xFEFF || c.toNat = 0x2060 || c.toNat = 0x200B

/-- Characters that start a name. Every character beyond ASCII that is not a space counts. -/
def isNameStart (c : Char) : Bool :=
  c.isAlpha || c = '_' || c = '$' || (128 ≤ c.toNat && !isSpace c)

/-- Characters that continue a name. -/
def isName (c : Char) : Bool :=
  isNameStart c || c.isDigit

/-- The length of a run of characters. -/
def runLength (test : Char → Bool) : List Char → Nat
  | [] => 0
  | c :: rest => if test c then runLength test rest + 1 else 0

/-- The number of characters up to and with the first occurrence of a text; all of them if there is
none. -/
def lengthThrough (stop : List Char) : List Char → Nat
  | [] => 0
  | c :: rest => if stop.isPrefixOf (c :: rest) then stop.length else lengthThrough stop rest + 1

/-- The length of the rest of a line, without its end. -/
def lineLength (chars : List Char) : Nat :=
  runLength (· ≠ '\n') chars

/-- The length of a quoted text from behind its opening quote through its closing quote. A backslash
takes the next character with it. -/
def quotedLength (quote : Char) : List Char → Nat
  | [] => 0
  | '\\' :: _ :: rest => quotedLength quote rest + 2
  | c :: rest => if c = quote then 1 else quotedLength quote rest + 1

/-- The length of a quoted text that ends in three quotes, from behind the opening ones. -/
def tripleLength (quote : Char) : List Char → Nat
  | [] => 0
  | '\\' :: _ :: rest => tripleLength quote rest + 2
  | a :: b :: c :: rest =>
    if a = quote ∧ b = quote ∧ c = quote then 3 else tripleLength quote (b :: c :: rest) + 1
  | _ :: rest => tripleLength quote rest + 1

/-- The length of a number: digits, letters and points that are followed by a digit, so that a
range or a method call after a number stays apart. -/
def numberLength : List Char → Nat
  | '.' :: d :: rest => if d.isDigit then numberLength (d :: rest) + 1 else 0
  | c :: rest => if isName c then numberLength rest + 1 else 0
  | [] => 0

/-- The length of a comment from a double slash to the end of its line, or between slash-star and
star-slash. -/
def slashComment? : List Char → Option Nat
  | '/' :: '/' :: rest => some (lineLength rest + 2)
  | '/' :: '*' :: rest => some (lengthThrough ['*', '/'] rest + 2)
  | _ => none

/-- The length of the longest listed operator that starts here, or of one mark. -/
def markLength (operators : List String) (chars : List Char) : Nat :=
  operators.foldl
    (fun best operator =>
      if best < operator.length && operator.toList.isPrefixOf chars then operator.length else best)
    1

/-- The kind and length of the token that starts here; nothing at a space. A language may claim
spaces for tokens of its own. -/
def next? (lexicon : Lexicon) (chars : List Char) : Option (TokenKind × Nat) :=
  match lexicon.literal? chars with
  | some found => some found
  | none =>
    match chars with
    | c :: _ =>
      if isSpace c then none
      else if isNameStart c then some (.word, runLength isName chars)
      else if c.isDigit then some (.literal, numberLength chars)
      else some (.mark, markLength lexicon.operators chars)
    | [] => none

/-- The number of bytes of some characters. -/
def byteCount (chars : List Char) : Nat :=
  chars.foldl (fun count c => count + c.utf8Size) 0

/-- Splits characters into tokens, from a byte offset on. Every step takes at least one character,
so as many steps as there are characters are enough. -/
def scan (lexicon : Lexicon) : Nat → Nat → List Char → List Token
  | 0, _, _ => []
  | _, _, [] => []
  | steps + 1, offset, c :: rest =>
    match lexicon.comment? (c :: rest) with
    | some length =>
      let taken := (c :: rest).take (max length 1)
      scan lexicon steps (offset + byteCount taken) ((c :: rest).drop (max length 1))
    | none =>
      match lexicon.next? (c :: rest) with
      | none => scan lexicon steps (offset + c.utf8Size) rest
      | some (kind, length) =>
        let taken := (c :: rest).take (max length 1)
        let stop := offset + byteCount taken
        { kind, text := String.ofList taken, start := offset, stop }
          :: scan lexicon steps stop ((c :: rest).drop (max length 1))

/-- The tokens of a text. -/
def tokens (lexicon : Lexicon) (text : String) : List Token :=
  let chars := text.toList
  lexicon.scan chars.length 0 chars

end Lexicon

end SourceFacts.Syntax

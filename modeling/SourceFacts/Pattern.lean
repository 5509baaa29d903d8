import SourceFacts.Text.Blank
import SourceFacts.Text.CharClass

/-!
Search patterns. A pattern leads from a place in a text to the places where a match from there can
end; a text matches if there is a way from some place to another. `Pattern.read?` gives the pattern
that a written form stands for.
-/
namespace SourceFacts

/-- A set of characters. -/
inductive CharSet where
  | range (first last : Char)
  | digit
  | word
  | blank
  | union (sets : List CharSet)
  | other (set : CharSet)
  deriving Inhabited

namespace CharSet

/-- Whether a character lies between two others, both included. -/
def between (first last c : Char) : Bool :=
  first.toNat ≤ c.toNat && c.toNat ≤ last.toNat

mutual

/-- Whether a set holds a character. If cases are folded, a range also holds the same ASCII letters
in the other case. -/
def holds (folded : Bool) (c : Char) : CharSet → Bool
  | range first last =>
    between first last c ||
      (folded && (between first last c.toLower || between first last c.toUpper))
  | digit => Text.isDecimalDigit c
  | word => Text.isWordChar c
  | blank => Text.isBlank c
  | union sets => holdsAny folded c sets
  | other set => !holds folded c set

/-- Whether one of some sets holds a character. -/
def holdsAny (folded : Bool) (c : Char) : List CharSet → Bool
  | [] => false
  | set :: rest => holds folded c set || holdsAny folded c rest

end

/-- The set of one character. -/
def single (c : Char) : CharSet := range c c

end CharSet

/-- A place in a text that takes up no character. -/
inductive Anchor where
  | start
  | stop
  | lineStart
  | lineStop
  | wordEdge
  | noWordEdge
  deriving DecidableEq, Inhabited

/-- A search pattern. -/
inductive Pattern where
  | empty
  /-- One character of a set, perhaps in either case. -/
  | one (set : CharSet) (folded : Bool)
  | anchor (kind : Anchor)
  | sequence (first second : Pattern)
  | either (first second : Pattern)
  /-- A pattern some number of times; without a most there is no limit. -/
  | repeated (inner : Pattern) (least : Nat) (most : Option Nat)
  deriving Inhabited

namespace Anchor

/-- Whether an anchor holds between two characters; there is none at an end of the text. -/
def holds (before after : Option Char) : Anchor → Bool
  | start => before.isNone
  | stop => after.isNone
  | lineStart => before.isNone || before = some '\n'
  | lineStop => after.isNone || after = some '\n'
  | wordEdge => before.any Text.isWordChar != after.any Text.isWordChar
  | noWordEdge => before.any Text.isWordChar == after.any Text.isWordChar

end Anchor

namespace Pattern

/-- Joins two lists of places without repeating any. -/
def join (places more : List Nat) : List Nat :=
  more.foldl
    (fun places place => if places.contains place then places else places ++ [place]) places

/-- Applies a step a given number of times. From no places none are reached. -/
def times (step : List Nat → List Nat) : Nat → List Nat → List Nat
  | 0, places => places
  | count + 1, places => if places.isEmpty then [] else times step count (step places)

/-- Places reached by a step taken up to a given number of times. -/
def upTo (step : List Nat → List Nat) : Nat → List Nat → List Nat
  | 0, places => places
  | count + 1, places => upTo step count (join places (step places))

/-- Where matches that start at given places can end. No run of repetitions without a limit has to
be longer than the text. -/
def ends (text : List Char) : Pattern → List Nat → List Nat
  | empty, places => places
  | one set folded, places =>
    places.filterMap fun place =>
      match text[place]? with
      | some c => if set.holds folded c then some (place + 1) else none
      | none => none
  | anchor kind, places =>
    places.filter fun place =>
      kind.holds (if place = 0 then none else text[place - 1]?) text[place]?
  | sequence first second, places => ends text second (ends text first places)
  | either first second, places => join (ends text first places) (ends text second places)
  | repeated inner least most, places =>
    let extra := match most with
      | some most => min (most - least) (text.length + 1)
      | none => text.length + 1
    upTo (ends text inner) extra (times (ends text inner) least places)

/-- Whether a pattern occurs in a text. -/
def occursIn (pattern : Pattern) (text : String) : Bool :=
  let chars := text.toList
  !(pattern.ends chars (List.range (chars.length + 1))).isEmpty

end Pattern

end SourceFacts

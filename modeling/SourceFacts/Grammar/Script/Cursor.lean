import SourceFacts.Syntax.Token
import SourceFacts.Syntax.Tree

/-!
Reading script sources character by character. In these languages a slash or an angle bracket means
different things in different places, so there are no tokens: a reader stands at a cursor, skips
blanks and comments, and takes what it expects there. A reader may fail, and then another one is
tried from the same place. On its way it finds nodes; what one reader finds comes before what the next
one finds, unless it is put into a node of its own.
-/
namespace SourceFacts.Grammar.Script

open Syntax

/-- A place in a source text: the characters ahead and the byte offset. -/
structure Cursor where
  rest : List Char
  offset : Nat

/-- What a reader gives: a result, the nodes that it found, and the place where it stopped. -/
structure Taken (α : Type) where
  result : α
  found : List Branch
  stop : Cursor

/-- A reader: it takes characters and gives a result, or fails. -/
def Parse (α : Type) : Type := Cursor → Option (Taken α)

/-- One reader after the other. -/
instance : Monad Parse where
  pure result := fun cursor => some ⟨result, [], cursor⟩
  bind parse next := fun cursor => do
    let first ← parse cursor
    let second ← next first.result first.stop
    return { second with found := first.found ++ second.found }

namespace Cursor

/-- Moves on by some characters. -/
def advance : Nat → Cursor → Cursor
  | 0, cursor => cursor
  | count + 1, ⟨c :: rest, offset⟩ => advance count ⟨rest, offset + c.utf8Size⟩
  | _ + 1, ⟨[], offset⟩ => ⟨[], offset⟩

/-- Where a scan over blanks and comments stands. -/
inductive Trivia where
  | code
  | line
  | block

/-- Skips blanks and comments, and says whether a line ended among them. -/
def skipTrivia : Trivia → List Char → Nat → Bool → Cursor × Bool
  | _, [], offset, ended => (⟨[], offset⟩, ended)
  | .line, c :: rest, offset, ended =>
    if c = '\n' then skipTrivia .code rest (offset + 1) true
    else skipTrivia .line rest (offset + c.utf8Size) ended
  | .block, '*' :: '/' :: rest, offset, ended => skipTrivia .code rest (offset + 2) ended
  | .block, c :: rest, offset, ended =>
    skipTrivia .block rest (offset + c.utf8Size) (ended || c = '\n')
  | .code, '/' :: '/' :: rest, offset, ended => skipTrivia .line rest (offset + 2) ended
  | .code, '/' :: '*' :: rest, offset, ended => skipTrivia .block rest (offset + 2) ended
  | .code, c :: rest, offset, ended =>
    if Lexicon.isSpace c then skipTrivia .code rest (offset + c.utf8Size) (ended || c = '\n')
    else (⟨c :: rest, offset⟩, ended)

/-- Where a scan over a bracketed stretch stands, innermost first. -/
inductive Nesting where
  | bracket
  | quoted (quote : Char)
  | template
  | line
  | block

/-- Skips from behind an opening bracket through its closing one. Brackets may nest; those inside
quoted texts, templates and comments do not count. -/
def skipGroup : List Nesting → List Char → Nat → Cursor
  | [], rest, offset => ⟨rest, offset⟩
  | _, [], offset => ⟨[], offset⟩
  | .quoted quote :: outer, '\\' :: c :: rest, offset =>
    skipGroup (.quoted quote :: outer) rest (offset + 1 + c.utf8Size)
  | .quoted quote :: outer, c :: rest, offset =>
    skipGroup (if c = quote then outer else .quoted quote :: outer) rest (offset + c.utf8Size)
  | .template :: outer, '\\' :: c :: rest, offset =>
    skipGroup (.template :: outer) rest (offset + 1 + c.utf8Size)
  | .template :: outer, '$' :: '\x7b' :: rest, offset =>
    skipGroup (.bracket :: .template :: outer) rest (offset + 2)
  | .template :: outer, c :: rest, offset =>
    skipGroup (if c = '\x60' then outer else .template :: outer) rest (offset + c.utf8Size)
  | .line :: outer, c :: rest, offset =>
    skipGroup (if c = '\n' then outer else .line :: outer) rest (offset + c.utf8Size)
  | .block :: outer, '*' :: '/' :: rest, offset => skipGroup outer rest (offset + 2)
  | .block :: outer, c :: rest, offset =>
    skipGroup (.block :: outer) rest (offset + c.utf8Size)
  | .bracket :: outer, '/' :: '/' :: rest, offset =>
    skipGroup (.line :: .bracket :: outer) rest (offset + 2)
  | .bracket :: outer, '/' :: '*' :: rest, offset =>
    skipGroup (.block :: .bracket :: outer) rest (offset + 2)
  | .bracket :: outer, c :: rest, offset =>
    let next :=
      if c = '(' || c = '[' || c = '\x7b' then .bracket :: .bracket :: outer
      else if c = ')' || c = ']' || c = '\x7d' then outer
      else if c = '"' || c = '\x27' then .quoted c :: .bracket :: outer
      else if c = '\x60' then .template :: .bracket :: outer
      else .bracket :: outer
    skipGroup next rest (offset + c.utf8Size)

/-- The place behind blanks and comments, and whether a line ended among them. -/
def behindBlanks (cursor : Cursor) : Cursor × Bool :=
  skipTrivia .code cursor.rest cursor.offset false

end Cursor

/-- Skips blanks and comments, and says whether a line ended among them. -/
def blank : Parse Bool := fun cursor =>
  some ⟨cursor.behindBlanks.2, [], cursor.behindBlanks.1⟩

/-- The characters behind blanks and comments, and whether a line ended among them. Nothing is
taken. -/
def peek : Parse (List Char × Bool) := fun cursor =>
  some ⟨(cursor.behindBlanks.1.rest, cursor.behindBlanks.2), [], cursor⟩

/-- The characters ahead. -/
def ahead : Parse (List Char) := fun cursor => some ⟨cursor.rest, [], cursor⟩

/-- The byte offset. -/
def offset : Parse Nat := fun cursor => some ⟨cursor.offset, [], cursor⟩

/-- Moves on by some characters. -/
def skip (count : Nat) : Parse Unit := fun cursor => some ⟨(), [], cursor.advance count⟩

/-- Takes a character and what it opens, without looking inside. -/
def skipThrough (opened : Cursor.Nesting) : Parse Unit := fun cursor =>
  match cursor.rest with
  | c :: rest => some ⟨(), [], Cursor.skipGroup [opened] rest (cursor.offset + c.utf8Size)⟩
  | [] => none

/-- Fails. -/
def fail {α : Type} : Parse α := fun _ => none

/-- Tries a reader; if it fails, nothing is taken. -/
def attempt {α : Type} (parse : Parse α) : Parse (Option α) := fun cursor =>
  match parse cursor with
  | some taken => some { taken with result := some taken.result }
  | none => some ⟨none, [], cursor⟩

/-- Runs a reader that may give nothing; then nothing is taken. -/
def optionally {α : Type} (parse : Parse (Option α)) : Parse (Option α) := fun cursor => do
  let taken ← parse cursor
  return if taken.result.isSome then taken else ⟨none, [], cursor⟩

/-- Runs a reader without taking anything. -/
def lookahead {α : Type} (parse : Parse α) : Parse (Option α) := fun cursor =>
  some ⟨(parse cursor).map Taken.result, [], cursor⟩

/-- Finds a node that was made before. -/
def emit (branch : Branch) : Parse Unit := fun cursor => some ⟨(), [branch], cursor⟩

/-- Puts what a reader finds into a node that starts behind the blanks here. The result of the reader
says of which kind. -/
def enclose {α : Type} (kind : α → String) (parse : Parse α) : Parse α := fun cursor => do
  let start := cursor.behindBlanks.1
  let taken ← parse start
  return { taken with
    found := [.grow (kind taken.result) start.offset taken.stop.offset taken.found] }

/-- Puts what a reader finds into a node of a kind. -/
def nodeOf {α : Type} (kind : String) (parse : Parse α) : Parse α :=
  enclose (fun _ => kind) parse

/-- Puts what a reader finds into a node of the kind that it gives. -/
def nodeBy (parse : Parse String) : Parse Unit := do
  let _ ← enclose id parse

/-- Puts a node and what a reader finds behind it into a node of a kind. -/
def nodeFrom {α : Type} (kind : String) (first : Branch) (parse : Parse α) : Parse α := fun cursor => do
  let taken ← parse cursor
  return { taken with found := [.grow kind first.start taken.stop.offset (first :: taken.found)] }

/-- Puts what a reader finds into a field of the node that it will stand in. -/
def inField {α : Type} (field : String) (parse : Parse α) : Parse α := fun cursor => do
  let taken ← parse cursor
  return { taken with found := taken.found.map (.inField field) }

/-- Whether a text stands here, behind blanks. -/
def isAt (text : String) : Parse Bool := do
  let _ ← blank
  return text.toList.isPrefixOf (← ahead)

/-- Takes a text. -/
def mark (text : String) : Parse Unit := do
  if ← isAt text then skip text.length else fail

/-- Takes a text if it stands here. -/
def optionalMark (text : String) : Parse Bool := do
  if ← isAt text then
    skip text.length
    return true
  else return false

/-- The name or keyword that stands here, if any. -/
def word? : Parse (Option String) := do
  let _ ← blank
  let chars ← ahead
  match chars with
  | c :: _ =>
    if Lexicon.isNameStart c then return some (String.ofList (chars.takeWhile Lexicon.isName))
    else return none
  | [] => return none

/-- Takes a name or keyword. -/
def anyWord : Parse String := do
  match ← word? with
  | some word =>
    skip word.length
    return word
  | none => fail

/-- Takes a name, which is not found but given as a node. -/
def identifier : Parse Branch := do
  let _ ← blank
  let start ← offset
  let _ ← anyWord
  return .grow "identifier" start (← offset) []

/-- Takes a given keyword. -/
def keyword (text : String) : Parse Unit := do
  if (← word?) = some text then skip text.length else fail

/-- Takes a given keyword if it stands here. -/
def optionalKeyword (text : String) : Parse Bool := do
  if (← word?) = some text then
    skip text.length
    return true
  else return false

/-- Repeats a reader until it says that there is no more. The bound is a number of rounds. -/
def repeated (parse : Parse Bool) : Nat → Parse Unit
  | 0 => return ()
  | rounds + 1 => do
    if ← parse then repeated parse rounds

/-- Repeats a reader until it says that there is no more. Every round takes a character or is the
last. -/
def many (parse : Parse Bool) : Parse Unit := do
  repeated parse ((← ahead).length + 1)

/-- Takes a bracketed stretch without looking inside. -/
def group : Parse Unit := do
  let _ ← blank
  match ← ahead with
  | c :: _ => if c = '(' || c = '[' || c = '\x7b' then skipThrough .bracket else fail
  | [] => fail

/-- Takes a quoted text and gives it as written. -/
def quoted : Parse String := do
  let _ ← blank
  match ← ahead with
  | c :: rest =>
    if c = '"' || c = '\x27' then
      let length := Lexicon.quotedLength c rest + 1
      skip length
      return String.ofList ((c :: rest).take length)
    else fail
  | [] => fail

/-- Takes the name of what is declared, of a kind. -/
def nameOf {α : Type} (kind : String) (parse : Parse α) : Parse α :=
  inField "name" (nodeOf kind parse)

/-- The length of a regular expression from behind its opening slash; a slash inside brackets does
not end it. -/
def regexLength (inClass : Bool) : List Char → Nat
  | [] => 0
  | '\\' :: _ :: rest => regexLength inClass rest + 2
  | c :: rest =>
    if c = '[' then regexLength true rest + 1
    else if c = ']' then regexLength false rest + 1
    else if (c = '/' && !inClass) || c = '\n' then 1
    else regexLength inClass rest + 1

/-- Takes a regular expression with its flags. -/
def regex : Parse Unit := do
  skip 1
  skip (regexLength false (← ahead))
  skip (Lexicon.runLength Lexicon.isName (← ahead))

/-- The length of a number. -/
def digitsLength : List Char → Nat
  | 'e' :: '+' :: rest | 'e' :: '-' :: rest | 'E' :: '+' :: rest | 'E' :: '-' :: rest =>
    digitsLength rest + 2
  | c :: rest => if Lexicon.isName c || c = '.' then digitsLength rest + 1 else 0
  | [] => 0

/-- Takes a number. -/
def number : Parse Unit := do
  skip (digitsLength (← ahead))

end SourceFacts.Grammar.Script

import SourceFacts.Grammar.Script.Rules

/-!
Markup elements inside script code. The text between elements is not code; what stands in braces is.
-/
namespace SourceFacts.Grammar.Script

open Syntax

/-- Characters of the names of elements and attributes. -/
def isElementName (c : Char) : Bool :=
  Lexicon.isName c || c = '-' || c = ':' || c = '.'

/-- Takes the name of an element or attribute. -/
def elementName : Parse Unit := do
  let _ ← blank
  let length := Lexicon.runLength isElementName (← ahead)
  if length = 0 then fail else skip length

/-- Takes code in braces; there may be none. -/
def embedded (rules : Rules) : Parse Unit := do
  mark "\x7b"
  let _ ← optionalMark "..."
  if ← optionalMark "\x7d" then return ()
  rules.expression .whole
  mark "\x7d"

/-- Takes a quoted attribute value. It has no escapes. -/
def attributeText (quote : Char) : Parse Unit := do
  skip 1
  skip (Lexicon.runLength (· ≠ quote) (← ahead) + 1)

/-- The value of an attribute. -/
def attributeValue (rules : Rules) : Parse Unit := do
  let _ ← blank
  match ← ahead with
  | '\x7b' :: _ => embedded rules
  | '<' :: _ => rules.element
  | c :: _ => if c = '"' || c = '\x27' then attributeText c else fail
  | [] => fail

/-- The next attribute of an element, unless its tag ends. -/
def nextAttribute (rules : Rules) : Parse Bool := do
  if (← isAt ">") || (← isAt "/") || (← ahead).isEmpty then return false
  if ← isAt "\x7b" then
    embedded rules
    return true
  elementName
  if ← optionalMark "=" then attributeValue rules
  return true

/-- Takes what stands inside an element, through its closing tag. -/
def elementContent (rules : Rules) : Nat → Parse Unit
  | 0 => fail
  | rounds + 1 => do
    match ← ahead with
    | [] => return ()
    | '<' :: '/' :: _ =>
      skip 2
      skip (Lexicon.runLength (· ≠ '>') (← ahead) + 1)
    | '<' :: _ =>
      rules.element
      elementContent rules rounds
    | '\x7b' :: _ =>
      embedded rules
      elementContent rules rounds
    | _ =>
      skip 1
      elementContent rules rounds

/-- Takes an element. -/
def element (rules : Rules) : Parse Unit :=
  nodeOf "jsx_element" do
    mark "<"
    if ← optionalMark ">" then elementContent rules ((← ahead).length + 1)
    else
      elementName
      let _ ← attempt typeArguments
      many (nextAttribute rules)
      if ← optionalMark "/" then mark ">"
      else
        mark ">"
        elementContent rules ((← ahead).length + 1)

end SourceFacts.Grammar.Script

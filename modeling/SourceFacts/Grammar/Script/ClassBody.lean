import SourceFacts.Grammar.Script.Rules

/-!
Members of classes and of object literals. The node of a member starts at its first modifier, behind any
decorators.
-/
namespace SourceFacts.Grammar.Script

open Syntax

/-- Words that may stand in front of a member's name. -/
def memberModifiers : List String :=
  ["public", "private", "protected", "static", "readonly", "abstract", "override", "declare",
   "accessor", "async", "get", "set"]

/-- Whether a name can go on here, so that the word before was a modifier. -/
def startsMemberName : List Char → Bool
  | c :: _ =>
    Lexicon.isNameStart c || c.isDigit || c = '[' || c = '"' || c = '\x27' || c = '#' || c = '*'
  | [] => false

/-- Takes a modifier of a member, or the mark of a generator. -/
def memberModifier : Parse Bool := do
  let taken ← attempt do
    if ← optionalMark "*" then return ()
    let name ← anyWord
    unless memberModifiers.contains name do fail
    let ended ← blank
    if ended && name = "async" then fail
    unless startsMemberName (← ahead) do fail
  return taken.isSome

/-- Takes an index signature. -/
def indexSignature : Parse Unit := do
  let named ← lookahead do
    mark "["
    let _ ← anyWord
    mark ":"
  if named.isNone then fail
  group
  annotation

/-- A member of a class. -/
def classMember (rules : Rules) : Parse Unit := do
  if ← optionalMark ";" then return ()
  decorators rules
  nodeBy do
    let opened ← attempt do
      keyword "static"
      unless ← isAt "\x7b" do fail
    if opened.isSome then
      block rules
      return "class_static_block"
    many memberModifier
    if (← attempt indexSignature).isSome then return "index_signature"
    memberName rules
    unless ← optionalMark "?" do
      let _ ← optionalMark "!"
    if (← isAt "(") || (← isAt "<") then
      let hasBody ← callable rules
      return if hasBody then "method_definition" else "method_signature"
    else
      annotation
      initializer rules
      return "public_field_definition"

/-- The next member of a class, unless the class ends. -/
def nextMember (rules : Rules) : Parse Bool := do
  if (← isAt "\x7d") || (← ahead).isEmpty then return false
  classMember rules
  return true

/-- Takes the body of a class. -/
def classBody (rules : Rules) : Parse Unit :=
  nodeOf "class_body" do
    mark "\x7b"
    many (nextMember rules)
    mark "\x7d"

/-- Takes types separated by commas. -/
def typeList : Nat → Parse Unit
  | 0 => return ()
  | rounds + 1 => do
    type
    if ← optionalMark "," then typeList rounds

/-- A property of an object literal. -/
def property (rules : Rules) : Parse Unit :=
  nodeBy do
    if ← optionalMark "..." then
      rules.expression .item
      return "spread_element"
    many memberModifier
    memberName rules
    if (← isAt "(") || (← isAt "<") then
      let _ ← callable rules
      return "method_definition"
    else if ← optionalMark ":" then
      rules.expression .item
      return "pair"
    else
      initializer rules
      return "shorthand_property_identifier"

/-- Takes an object literal. -/
def objectLiteral (rules : Rules) : Parse Unit :=
  nodeOf "object" (bracketed "\x7b" (property rules) "\x7d")

end SourceFacts.Grammar.Script

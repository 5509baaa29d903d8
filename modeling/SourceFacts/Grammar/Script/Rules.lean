import SourceFacts.Grammar.Script.TypeText

/-!
What the parts of script code need from one another. Expressions hold functions, functions hold
statements and statements hold expressions, so each part is written over a record of readers for the
others; the knot is tied at the end, one level of nesting at a time.
-/
namespace SourceFacts.Grammar.Script

open Syntax

/-- How far an expression may reach. -/
structure Context where
  /-- Whether commas join expressions. -/
  comma : Bool
  /-- Whether `in` is an operator. -/
  membership : Bool
  /-- Whether an arrow function may state its result type. -/
  resultType : Bool

/-- An expression between brackets or as a statement. -/
def Context.whole : Context := ⟨true, true, true⟩

/-- An expression between commas. -/
def Context.item : Context := ⟨false, true, true⟩

/-- Readers for the inner parts of code, and whether markup elements may stand in it. -/
structure Rules where
  hasElements : Bool
  expression : Context → Parse Unit
  statement : Parse Unit
  pattern : Parse Unit
  element : Parse Unit

/-- Words that never name a variable. -/
def reservedWords : List String :=
  ["break", "case", "catch", "class", "const", "continue", "debugger", "default", "delete", "do",
   "else", "enum", "export", "extends", "false", "finally", "for", "function", "if", "import",
   "in", "instanceof", "new", "null", "return", "super", "switch", "throw", "true", "try",
   "typeof", "var", "void", "while", "with"]

/-- Takes items separated by commas up to a closing mark; places may stay empty. -/
def listed (item : Parse Unit) (close : String) : Nat → Parse Unit
  | 0 => fail
  | rounds + 1 => do
    if ← optionalMark close then return ()
    if ← optionalMark "," then listed item close rounds
    else
      item
      if ← optionalMark "," then listed item close rounds
      else mark close

/-- Takes a bracketed list. -/
def bracketed (opening : String) (item : Parse Unit) (close : String) : Parse Unit := do
  mark opening
  listed item close ((← ahead).length + 1)

/-- The next statement of a block, unless the block ends. Where no statement can be read, one
character is left out. -/
def nextStatement (rules : Rules) : Parse Bool := do
  let _ ← blank
  match ← ahead with
  | [] => return false
  | '\x7d' :: _ => return false
  | _ =>
    let before ← offset
    let _ ← attempt rules.statement
    if (← offset) = before then skip 1
    return true

/-- Takes a block of statements. -/
def block (rules : Rules) : Parse Unit :=
  nodeOf "statement_block" do
    mark "\x7b"
    many (nextStatement rules)
    mark "\x7d"

/-- Takes an expression in parentheses. -/
def parenthesized (rules : Rules) : Parse Unit :=
  nodeOf "parenthesized_expression" do
    mark "("
    rules.expression .whole
    mark ")"

/-- An argument of a call, or an element of a list. A quoted text by itself is a node. -/
def argument (rules : Rules) : Parse Unit := do
  let text ← attempt do
    let _ ← nodeOf "string" quoted
    unless (← isAt ",") || (← isAt ")") || (← isAt "]") do fail
  if text.isNone then
    let _ ← optionalMark "..."
    rules.expression .item

/-- Takes the arguments of a call. -/
def arguments (rules : Rules) : Parse Unit :=
  nodeOf "arguments" (bracketed "(" (argument rules) ")")

/-- Takes the arguments of a call. If a plain name is called, the call is a node that starts at the
name. -/
def call (rules : Rules) (called : Option Branch) : Parse Unit :=
  match called with
  | some name =>
    nodeFrom "call_expression" (name.inField "function") (inField "arguments" (arguments rules))
  | none => arguments rules

/-- A decorator: a name with arguments, or an expression in parentheses. -/
def decorator (rules : Rules) : Parse Unit :=
  nodeOf "decorator" do
    mark "@"
    if ← isAt "(" then parenthesized rules
    else
      let name ← identifier
      let nameEnd ← offset
      dottedNames ((← ahead).length)
      let alone := (← offset) = nameEnd
      let _ ← attempt do
        typeArguments
        unless ← isAt "(" do fail
      if ← isAt "(" then call rules (if alone then some name else none)

/-- Takes the decorators that stand here. -/
def decorators (rules : Rules) : Parse Unit :=
  many do
    if ← isAt "@" then
      decorator rules
      return true
    else return false

/-- Words that may stand in front of a parameter. -/
def parameterModifiers : List String :=
  ["public", "private", "protected", "readonly", "override"]

/-- Takes a modifier of a parameter if the parameter follows it. -/
def parameterModifier : Parse Bool := do
  let taken ← attempt do
    let name ← anyWord
    unless parameterModifiers.contains name do fail
    unless (← word?).isSome || (← isAt "\x7b") || (← isAt "[") do fail
  return taken.isSome

/-- Takes a default value, if there is one. -/
def initializer (rules : Rules) : Parse Unit := do
  if ← isAt "=>" then return ()
  if ← optionalMark "=" then rules.expression .item

/-- A parameter of a function. -/
def parameter (rules : Rules) : Parse Unit :=
  nodeOf "required_parameter" do
    decorators rules
    many parameterModifier
    let _ ← optionalMark "..."
    rules.pattern
    let _ ← optionalMark "?"
    annotation
    initializer rules

/-- Takes the parameters of a function. -/
def parameters (rules : Rules) : Parse Unit :=
  nodeOf "formal_parameters" (bracketed "(" (parameter rules) ")")

/-- Takes parameters, result type and body of a function, and says whether there is a body. -/
def callable (rules : Rules) : Parse Bool := do
  if ← isAt "<" then typeParameters
  parameters rules
  annotation
  if ← isAt "\x7b" then
    block rules
    return true
  else return false

/-- Takes the pieces of a template behind its opening mark. -/
def templatePieces (rules : Rules) : Nat → Parse Unit
  | 0 => fail
  | rounds + 1 => do
    match ← ahead with
    | [] => return ()
    | '\x60' :: _ => skip 1
    | '\\' :: _ =>
      skip 2
      templatePieces rules rounds
    | '$' :: '\x7b' :: _ =>
      skip 2
      rules.expression .whole
      mark "\x7d"
      templatePieces rules rounds
    | _ =>
      skip 1
      templatePieces rules rounds

/-- Takes a template. -/
def template (rules : Rules) : Parse Unit :=
  nodeOf "template_string" do
    mark "\x60"
    templatePieces rules ((← ahead).length + 1)

/-- Takes the name of a member. -/
def memberName (rules : Rules) : Parse Unit :=
  inField "name" (nodeBy do
    let _ ← blank
    match ← ahead with
    | '[' :: _ =>
      skip 1
      rules.expression .whole
      mark "]"
      return "computed_property_name"
    | '"' :: _ | '\x27' :: _ =>
      let _ ← quoted
      return "string"
    | '#' :: _ =>
      skip 1
      let _ ← anyWord
      return "private_property_identifier"
    | c :: _ =>
      if c.isDigit || c = '.' then
        number
        return "number"
      else
        let _ ← anyWord
        return "property_identifier"
    | [] => fail)

/-- A property of an object pattern. -/
def patternProperty (rules : Rules) : Parse Unit :=
  nodeOf "pair_pattern" do
    if ← optionalMark "..." then rules.pattern
    else
      memberName rules
      if ← optionalMark ":" then rules.pattern
      initializer rules

/-- An element of a list pattern. -/
def patternElement (rules : Rules) : Parse Unit := do
  let _ ← optionalMark "..."
  rules.pattern
  initializer rules

/-- What a declaration or a parameter binds: a name, or names inside braces or brackets. -/
def pattern (rules : Rules) : Parse Unit :=
  nodeBy do
    let _ ← blank
    match ← ahead with
    | '\x7b' :: _ =>
      bracketed "\x7b" (patternProperty rules) "\x7d"
      return "object_pattern"
    | '[' :: _ =>
      bracketed "[" (patternElement rules) "]"
      return "array_pattern"
    | _ =>
      let name ← anyWord
      if reservedWords.contains name then fail
      return "identifier"

end SourceFacts.Grammar.Script

import SourceFacts.Grammar.Script.Cursor

/-!
Types in script sources. Types hold no facts, so they are only stepped over; the point is to know
where a type ends.
-/
namespace SourceFacts.Grammar.Script

open Syntax

/-- Words that stand in front of a type. -/
def typePrefixes : List String :=
  ["keyof", "typeof", "unique", "readonly", "infer", "asserts"]

/-- Takes the rest of a dotted name. -/
def dottedNames : Nat → Parse Unit
  | 0 => return ()
  | rounds + 1 => do
    let next ← attempt do
      mark "."
      optionalMark "#" *> anyWord
    match next with
    | some _ => dottedNames rounds
    | none => return ()

/-- Takes a list between angle brackets, separated by commas. -/
def angled (item : Parse Unit) : Nat → Parse Unit
  | 0 => fail
  | rounds + 1 => do
    if ← optionalMark ">" then return ()
    item
    if ← optionalMark "," then angled item rounds
    else mark ">"

/-- Takes any brackets right behind a type, as for a list or a component. -/
def typeSuffix : Nat → Parse Unit
  | 0 => return ()
  | rounds + 1 => do
    let (chars, ended) ← peek
    if !ended && chars.head? = some '[' then
      group
      typeSuffix rounds

/-- Takes a template without looking inside. -/
def templateText : Parse Unit := do
  let _ ← blank
  match ← ahead with
  | '\x60' :: _ => skipThrough .template
  | _ => fail

/-- Takes the name of a type parameter and the modifiers in front of it. -/
def typeParameterName : Nat → Parse Unit
  | 0 => fail
  | rounds + 1 => do
    let name ← anyWord
    if name = "const" || name = "in" || name = "out" then
      let next ← word?
      if next.isSome && next ≠ some "extends" then typeParameterName rounds

/-- A type parameter: its name, a bound and a default. -/
def typeParameter (type : Parse Unit) : Parse Unit := do
  typeParameterName 4
  if ← optionalKeyword "extends" then type
  if ← optionalMark "=" then type

/-- What follows the parameters of a function type. -/
def arrowType (type : Parse Unit) : Parse Unit := do
  mark "=>"
  type

/-- A type without operators. The argument reads a whole type. -/
def typeOperand (type : Parse Unit) : Nat → Parse Unit
  | 0 => fail
  | rounds + 1 => do
    let _ ← blank
    let chars ← ahead
    match chars with
    | [] => fail
    | c :: rest =>
      if c = '(' then
        group
        let _ ← attempt (arrowType type)
      else if c = '<' then
        skip 1
        angled (typeParameter type) (chars.length)
        group
        arrowType type
      else if c = '\x7b' || c = '[' then group
      else if c = '"' || c = '\x27' then
        let _ ← quoted
      else if c = '\x60' then templateText
      else if c = '-' then
        skip 1
        typeOperand type rounds
      else if c.isDigit || (c = '.' && rest.head?.any Char.isDigit) then number
      else
        let name ← anyWord
        if name = "new" then constructorType
        else if name = "abstract" && (← lookahead (keyword "new")).isSome then
          keyword "new"
          constructorType
        else if name = "import" && (← lookahead (mark "(")).isSome then
          group
          named chars.length
        else if typePrefixes.contains name && (← startsType) then
          typeOperand type rounds
          let _ ← attempt (predicate)
        else
          named chars.length
          let _ ← attempt (predicate)
      typeSuffix chars.length
where
  /-- The type of a constructor behind its keyword. -/
  constructorType : Parse Unit := do
    if ← optionalMark "<" then angled (typeParameter type) ((← ahead).length)
    group
    arrowType type
  /-- The rest of a name, and its arguments. -/
  named (bound : Nat) : Parse Unit := do
    dottedNames bound
    let _ ← attempt do
      mark "<"
      angled type bound
  /-- A test that a function makes on its argument. -/
  predicate : Parse Unit := do
    let ended ← blank
    if ended then fail
    keyword "is"
    type
  /-- Whether a type follows a word on the same line, so that the word is no name itself. -/
  startsType : Parse Bool := do
    let result ← lookahead do
      let ended ← blank
      if ended then fail
      match ← ahead with
      | c :: _ =>
        if Lexicon.isNameStart c || c = '(' || c = '[' || c = '\x7b' || c = '"' || c = '\x27'
          || c = '\x60' then
          if (← word?) = some "extends" || (← word?) = some "is" then fail
        else fail
      | [] => fail
    return result.isSome

/-- A union or intersection. -/
def typeUnion (type : Parse Unit) : Nat → Parse Unit
  | 0 => fail
  | rounds + 1 => do
    typeOperand type rounds
    let next ← attempt do
      let _ ← blank
      match ← ahead with
      | '|' :: '|' :: _ | '&' :: '&' :: _ | '|' :: '=' :: _ | '&' :: '=' :: _ => fail
      | '|' :: _ | '&' :: _ => skip 1
      | _ => fail
    if next.isSome then typeUnion type rounds

/-- A whole type; a union may start with its operator, and a condition may follow. -/
def typeText : Nat → Parse Unit
  | 0 => fail
  | depth + 1 => do
    let _ ← blank
    match ← ahead with
    | '|' :: _ | '&' :: _ => skip 1
    | _ => pure ()
    typeUnion (typeText depth) ((← ahead).length + 1)
    let _ ← attempt do
      let ended ← blank
      if ended && (← word?) ≠ some "extends" then fail
      keyword "extends"
      typeText depth
      mark "?"
      typeText depth
      mark ":"
      typeText depth

/-- Takes a type. -/
def type : Parse Unit := do
  typeText ((← ahead).length + 1)

/-- Takes the parameters of a generic declaration. -/
def typeParameters : Parse Unit := do
  mark "<"
  angled (typeParameter type) ((← ahead).length + 1)

/-- Takes the arguments of a generic name. -/
def typeArguments : Parse Unit := do
  mark "<"
  angled type ((← ahead).length + 1)

/-- Takes an annotation behind a colon, if there is one. -/
def annotation : Parse Unit := do
  if ← optionalMark ":" then type

end SourceFacts.Grammar.Script

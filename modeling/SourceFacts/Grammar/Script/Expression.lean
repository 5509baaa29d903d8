import SourceFacts.Grammar.Script.ClassBody

/-!
Expressions in script code. Precedence does not matter to facts, so an expression is a row of
operands with operators between them. What does matter is where an arrow function starts, where a
slash starts a regular expression, and whether a call loads a module.
-/
namespace SourceFacts.Grammar.Script

open Syntax

/-- Whether the angle bracket here opens the type parameters of an arrow function although elements
are allowed: then a comma or a bound follows the first name. -/
def opensTypeParameters : Parse Bool := do
  let result ← lookahead do
    mark "<"
    let _ ← optionalKeyword "const"
    let _ ← anyWord
    if ← isAt "," then return ()
    keyword "extends"
    if (← isAt "=") || (← isAt ">") || (← isAt "/") then fail
  return result.isSome

/-- Takes `async` in front of the parameters of an arrow function. -/
def asyncMark : Parse Unit := do
  keyword "async"
  let ended ← blank
  match ← ahead with
  | c :: _ =>
    if ended || !(c = '(' || c = '<' || Lexicon.isNameStart c) then fail
  | [] => fail

/-- The parameters of an arrow function. -/
def arrowParameters (rules : Rules) (context : Context) : Parse Unit := do
  if ← isAt "<" then
    if rules.hasElements && !(← opensTypeParameters) then fail
    typeParameters
  if ← isAt "(" then
    parameters rules
    if context.resultType then annotation
  else
    let name ← anyWord
    if reservedWords.contains name then fail

/-- An arrow function. -/
def arrow (rules : Rules) (context : Context) : Parse Unit := do
  let _ ← attempt asyncMark
  arrowParameters rules context
  mark "=>"
  if ← isAt "\x7b" then block rules
  else rules.expression { context with comma := false }

/-- Takes a function expression, and gives its kind. -/
def functionExpression (rules : Rules) : Parse String := do
  let _ ← optionalKeyword "async"
  let ended ← blank
  if ended then fail
  keyword "function"
  let generator ← optionalMark "*"
  let _ ← attempt anyWord
  let _ ← callable rules
  return if generator then "generator_function" else "function_expression"

/-- Whether a function expression starts here. -/
def startsFunction : Parse Bool := do
  let result ← lookahead do
    if ← optionalKeyword "async" then
      if ← blank then fail
    keyword "function"
  return result.isSome

/-- Takes what follows an operand: members, calls, indices, templates. The head is the name that is
called if a call follows directly. -/
def continued (rules : Rules) : Nat → Option Branch → Parse Unit
  | 0, _ => return ()
  | rounds + 1, head => do
    let (chars, ended) ← peek
    match chars with
    | '.' :: '.' :: _ => return ()
    | '.' :: _ =>
      mark "."
      let _ ← optionalMark "#"
      let _ ← anyWord
      continued rules rounds none
    | '?' :: '.' :: c :: _ =>
      if c.isDigit then return ()
      mark "?."
      if (← isAt "(") || (← isAt "[") || (← isAt "<") then continued rules rounds head
      else
        let _ ← optionalMark "#"
        let _ ← anyWord
        continued rules rounds none
    | '[' :: _ =>
      mark "["
      rules.expression .whole
      mark "]"
      continued rules rounds none
    | '(' :: _ =>
      call rules head
      continued rules rounds none
    | '\x60' :: _ =>
      template rules
      continued rules rounds none
    | '!' :: next =>
      if ended || next.head? = some '=' then return ()
      mark "!"
      continued rules rounds none
    | '+' :: '+' :: _ | '-' :: '-' :: _ =>
      unless ended do
        let _ ← blank
        skip 2
    | '<' :: _ =>
      let generic ← attempt do
        typeArguments
        let _ ← blank
        match ← ahead with
        | c :: _ => unless "(\x60)],;:\x7d.?".toList.contains c do fail
        | [] => return ()
      if generic.isSome then continued rules rounds head
    | _ => return ()

/-- Takes what follows an operand. -/
def continuation (rules : Rules) (head : Option Branch) : Parse Unit := do
  continued rules ((← ahead).length + 1) head

/-- What a class builds on: an expression without operators, with type arguments. -/
def superclass (rules : Rules) (operand : Parse (Option Branch)) : Parse Unit :=
  nodeOf "class_heritage" do
    continuation rules (← operand)
    let _ ← attempt typeArguments

/-- Takes a class from its type parameters on. -/
def classTail (rules : Rules) (operand : Parse (Option Branch)) : Parse Unit := do
  if ← isAt "<" then typeParameters
  if ← optionalKeyword "extends" then superclass rules operand
  if ← optionalKeyword "implements" then typeList ((← ahead).length)
  classBody rules

/-- Takes a class expression; the name may be missing. -/
def classExpression (rules : Rules) (operand : Parse (Option Branch)) : Parse Unit :=
  nodeOf "class" do
    keyword "class"
    let _ ← attempt do
      let name ← anyWord
      if name = "extends" || name = "implements" then fail
    classTail rules operand

/-- Takes an operand without signs in front of it and without what follows it. If it is a plain name,
its node is given back. The number bounds how deep class expressions stand in one another's heads. -/
def plainOperand (rules : Rules) : Nat → Parse (Option Branch)
  | 0 => fail
  | depth + 1 => do
    let _ ← blank
    match ← ahead with
    | '(' :: _ =>
      parenthesized rules
      return none
    | '[' :: _ =>
      nodeOf "array" (bracketed "[" (argument rules) "]")
      return none
    | '\x7b' :: _ =>
      objectLiteral rules
      return none
    | '"' :: _ | '\x27' :: _ =>
      let _ ← quoted
      return none
    | '\x60' :: _ =>
      template rules
      return none
    | '/' :: _ =>
      regex
      return none
    | '<' :: _ =>
      if rules.hasElements then rules.element else fail
      return none
    | '@' :: _ =>
      decorators rules
      classExpression rules (plainOperand rules depth)
      return none
    | '#' :: _ =>
      skip 1
      let _ ← anyWord
      return none
    | c :: _ =>
      if c.isDigit || c = '.' then
        number
        return none
      else if ← startsFunction then
        nodeBy (functionExpression rules)
        return none
      else if (← word?) = some "class" then
        classExpression rules (plainOperand rules depth)
        return none
      else return some (← identifier)
    | [] => fail

/-- An operand without signs in front of it. -/
def simpleOperand (rules : Rules) : Parse (Option Branch) := do
  plainOperand rules ((← ahead).length + 1)

/-- Whether an operand can start with these characters. -/
def startsOperand : List Char → Bool
  | '=' :: _ | ')' :: _ | ']' :: _ | '\x7d' :: _ => false
  | ',' :: _ | ';' :: _ | ':' :: _ | '?' :: _ => false
  | '.' :: c :: _ => c.isDigit
  | _ :: _ => true
  | [] => false

/-- Words that stand in front of an operand. -/
def signWords : List String := ["typeof", "void", "delete", "await", "yield", "new"]

/-- An operand with its signs. What is built by `new` is not called by its name. -/
def signedOperand (rules : Rules) (context : Context) : Nat → Parse Unit
  | 0 => fail
  | rounds + 1 => do
    if (← attempt (nodeOf "arrow_function" (arrow rules context))).isSome then return ()
    match ← ahead with
    | '!' :: _ | '~' :: _ | '+' :: _ | '-' :: _ =>
      skip 1
      signedOperand rules context rounds
    | '<' :: _ =>
      if rules.hasElements then whole
      else
        skip 1
        type
        mark ">"
        signedOperand rules context rounds
    | _ =>
      match ← word? with
      | some name =>
        if signWords.contains name then
          match ← attempt (sign name) with
          | some true =>
            if name = "new" then
              constructed rounds
              continuation rules none
            else signedOperand rules context rounds
          | some false => return ()
          | none => whole
        else whole
      | none => whole
where
  /-- An operand without signs and what follows it. -/
  whole : Parse Unit := do
    continuation rules (← simpleOperand rules)
  /-- Takes a word in front of an operand; says whether the operand is there. -/
  sign (name : String) : Parse Bool := do
    skip name.length
    let ended ← blank
    let next ← ahead
    if name = "yield" then
      if ended then return false
      if ← optionalMark "*" then return true
      return startsOperand (← ahead)
    else if startsOperand next then return true
    else fail
  /-- What stands behind `new`, which may stand there again. -/
  constructed : Nat → Parse Unit
    | 0 => fail
    | rounds + 1 => do
      let again ← attempt do
        keyword "new"
        let _ ← blank
        unless startsOperand (← ahead) do fail
      if again.isSome then constructed rounds
      else
        let _ ← simpleOperand rules

/-- Takes an operand. -/
def operand (rules : Rules) (context : Context) : Parse Unit := do
  let _ ← blank
  signedOperand rules context ((← ahead).length + 1)

/-- What joins two operands. -/
inductive Operator where
  | plain
  | conditional
  | cast

/-- Operators, longer ones before their beginnings. -/
def operatorMarks : List String :=
  [">>>=", "===", "!==", "**=", "<<=", ">>=", "&&=", "||=", "??=", ">>>", "==", "!=", "<=", ">=",
   "&&", "||", "??", "**", "<<", ">>", "+=", "-=", "*=", "/=", "%=", "&=", "|=", "^=",
   "=", "<", ">", "+", "-", "*", "/", "%", "&", "|", "^"]

/-- Takes an operator, if one stands here. -/
def operator? (context : Context) : Parse (Option Operator) := do
  let ended ← blank
  let chars ← ahead
  match chars with
  | ',' :: _ =>
    if context.comma then
      skip 1
      return some .plain
    else return none
  | '=' :: '>' :: _ | '+' :: '+' :: _ | '-' :: '-' :: _ => return none
  | _ =>
    match operatorMarks.find? (fun text => text.toList.isPrefixOf chars) with
    | some text =>
      skip text.length
      return some .plain
    | none =>
      if chars.head? = some '?' then
        skip 1
        return some .conditional
      match ← word? with
      | some "in" =>
        if context.membership then
          skip 2
          return some .plain
        else return none
      | some "instanceof" =>
        skip 10
        return some .plain
      | some "as" =>
        if ended then return none
        skip 2
        return some .cast
      | some "satisfies" =>
        if ended then return none
        skip 9
        return some .cast
      | _ => return none

/-- Takes both branches of a condition. What looks like a result type in the first one may be the
colon of the condition. -/
def branches (rules : Rules) (context : Context) : Parse Unit := do
  if (← attempt (branch true)).isNone then branch false
  rules.expression { context with comma := false }
where
  /-- The first branch and the colon. -/
  branch (resultType : Bool) : Parse Unit := do
    rules.expression ⟨false, true, resultType⟩
    mark ":"

/-- Takes an operator and the operand behind it, if there is one. -/
def nextOperand (rules : Rules) (context : Context) : Parse Bool := do
  match ← optionally (operator? context) with
  | none => return false
  | some .plain => operand rules context
  | some .conditional => branches rules context
  | some .cast => type
  return true

/-- Takes an expression. -/
def expression (rules : Rules) (context : Context) : Parse Unit := do
  operand rules context
  many (nextOperand rules context)

/-- Takes the value of a variable. A function that is called, or is part of a longer expression, is not
the value itself. -/
def variableValue (rules : Rules) (context : Context) : Parse Unit :=
  inField "value" (nodeBy do
    if (← attempt (arrow rules context)).isSome then return "arrow_function"
    if ← startsFunction then
      let kind ← functionExpression rules
      let stop ← offset
      continuation rules none
      many (nextOperand rules context)
      let alone := (← offset) = stop
      return if alone then kind else "expression"
    else
      expression rules context
      return "expression")

end SourceFacts.Grammar.Script

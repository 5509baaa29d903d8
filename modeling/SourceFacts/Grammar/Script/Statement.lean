import SourceFacts.Grammar.Script.Expression
import SourceFacts.Grammar.Script.Element

/-!
Statements and declarations in script code, and the reader for a whole file.
-/
namespace SourceFacts.Grammar.Script

open Syntax

/-- Takes the end of a statement, if it is written. -/
def semicolon : Parse Unit := do
  let _ ← optionalMark ";"

/-- Takes a word that names something declared. -/
def declaredName : Parse String := do
  let name ← anyWord
  if reservedWords.contains name then fail else return name

/-- Takes a function declaration. Without a body it is only a signature. -/
def functionDeclaration (rules : Rules) : Parse Unit :=
  nodeBy do
    let _ ← optionalKeyword "async"
    keyword "function"
    let generator ← optionalMark "*"
    let _ ← nameOf "identifier" anyWord
    if ← callable rules then
      return if generator then "generator_function_declaration" else "function_declaration"
    semicolon
    return "function_signature"

/-- Takes a class declaration. -/
def classDeclaration (rules : Rules) : Parse Unit :=
  nodeBy do
    let isAbstract ← optionalKeyword "abstract"
    keyword "class"
    let name ← nameOf "type_identifier" declaredName
    if name = "implements" then fail
    classTail rules (simpleOperand rules)
    return if isAbstract then "abstract_class_declaration" else "class_declaration"

/-- Takes an interface declaration. -/
def interfaceDeclaration : Parse Unit :=
  nodeOf "interface_declaration" do
    keyword "interface"
    let _ ← nameOf "type_identifier" declaredName
    if ← isAt "<" then typeParameters
    if ← optionalKeyword "extends" then typeList ((← ahead).length)
    unless ← isAt "\x7b" do fail
    group

/-- Takes a type alias. -/
def typeDeclaration : Parse Unit :=
  nodeOf "type_alias_declaration" do
    keyword "type"
    let ended ← blank
    if ended then fail
    let _ ← nameOf "type_identifier" declaredName
    if ← isAt "<" then typeParameters
    mark "="
    type
    semicolon

/-- A member of an enumeration. -/
def enumMember (rules : Rules) : Parse Unit :=
  nodeOf "enum_assignment" do
    memberName rules
    initializer rules

/-- Takes an enumeration. -/
def enumDeclaration (rules : Rules) : Parse Unit :=
  nodeOf "enum_declaration" do
    let _ ← optionalKeyword "const"
    keyword "enum"
    let _ ← nameOf "identifier" declaredName
    nodeOf "enum_body" (bracketed "\x7b" (enumMember rules) "\x7d")

/-- One variable of a declaration. -/
def oneVariable (rules : Rules) (context : Context) : Parse Unit :=
  nodeOf "variable_declarator" do
    inField "name" (pattern rules)
    let _ ← optionalMark "!"
    annotation
    if ← optionalMark "=" then variableValue rules context

/-- Takes variables separated by commas. -/
def bindings (rules : Rules) (context : Context) : Nat → Parse Unit
  | 0 => fail
  | rounds + 1 => do
    oneVariable rules context
    if ← optionalMark "," then bindings rules context rounds

/-- Words that declare variables. -/
def variableWords : List String := ["const", "let", "var"]

/-- Takes a word that declares variables. -/
def variableWord : Parse String := do
  let name ← anyWord
  if variableWords.contains name then return name else fail

/-- Takes a declaration of variables. -/
def variableDeclaration (rules : Rules) (context : Context) : Parse Unit :=
  nodeBy do
    let word ← variableWord
    bindings rules context ((← ahead).length + 1)
    return if word = "var" then "variable_declaration" else "lexical_declaration"

/-- Takes a namespace or a module with a body. -/
def namespaceDeclaration (rules : Rules) : Parse Unit :=
  nodeOf "internal_module" do
    let word ← anyWord
    unless word = "namespace" || word = "module" || word = "global" do fail
    unless word = "global" do
      let ended ← blank
      if ended then fail
      if (← attempt quoted).isNone then
        let _ ← declaredName
        dottedNames ((← ahead).length)
    if word = "module" && !(← isAt "\x7b") then semicolon
    else block rules

/-- Words that may follow `declare`. -/
def ambientWords : List String :=
  ["function", "async", "const", "let", "var", "class", "abstract", "interface", "type", "enum",
   "namespace", "module", "global", "import"]

/-- Takes a declaration of something that exists elsewhere. -/
def ambientDeclaration (rules : Rules) : Parse Unit :=
  nodeOf "ambient_declaration" do
    keyword "declare"
    let ended ← blank
    if ended then fail
    match ← word? with
    | some word =>
      unless ambientWords.contains word do fail
      if word = "global" then namespaceDeclaration rules else rules.statement
    | none => fail

/-- Takes a declaration that may be exported. -/
def declaration (rules : Rules) : Parse Unit := do
  match ← word? with
  | some "function" => functionDeclaration rules
  | some "async" =>
    if ← startsFunction then functionDeclaration rules else fail
  | some "class" | some "abstract" => classDeclaration rules
  | some "interface" => interfaceDeclaration
  | some "type" => typeDeclaration
  | some "enum" => enumDeclaration rules
  | some "const" => if (← attempt (enumDeclaration rules)).isNone then plainVariables
  | some "let" | some "var" => plainVariables
  | some "namespace" | some "module" => namespaceDeclaration rules
  | some "declare" => ambientDeclaration rules
  | _ => fail
where
  /-- A declaration of variables as a statement. -/
  plainVariables : Parse Unit := do
    variableDeclaration rules .item
    semicolon

/-- Takes the attributes of an import. -/
def importAttributes : Parse Unit := do
  let _ ← attempt do
    let word ← anyWord
    unless word = "with" || word = "assert" do fail
    if ← isAt "\x7b" then group else fail

/-- Takes the path of a module with its attributes. -/
def modulePath : Parse Unit := do
  let _ ← inField "source" (nodeOf "string" quoted)
  importAttributes

/-- Takes `from` and the path of a module. -/
def fromPath : Parse Unit := do
  keyword "from"
  modulePath

/-- Takes what an import binds, through the path of the module. -/
def importClause : Nat → Parse Unit
  | 0 => fail
  | rounds + 1 => do
    if (← attempt fromPath).isSome then return ()
    if ← isAt "\x7b" then group
    else if (← optionalMark "*") || (← optionalMark ",") then pure ()
    else
      let _ ← anyWord
    importClause rounds

/-- Takes the short name of a module or of something in a namespace. The path there is not an
import. -/
def importAlias : Parse Unit := do
  let _ ← attempt do
    keyword "type"
    if (← lookahead anyWord).isNone then fail
  let _ ← declaredName
  mark "="
  let _ ← anyWord
  if ← isAt "(" then group else dottedNames ((← ahead).length)

/-- Takes an import. -/
def importStatement : Parse Unit :=
  nodeOf "import_statement" do
    keyword "import"
    if (← isAt "(") || (← isAt ".") then fail
    if (← attempt modulePath).isNone then
      if (← attempt importAlias).isNone then importClause ((← ahead).length + 1)
    semicolon

/-- Takes a name in the braces of an export, and gives it with its node. -/
def specifierWord : Parse (String × Branch) := do
  let _ ← blank
  let start ← offset
  match ← attempt quoted with
  | some text => return (text, .grow "string" start (← offset) [])
  | none =>
    let name ← anyWord
    return (name, .grow "identifier" start (← offset) [])

/-- Takes the words between two commas in the braces of an export. -/
def specifierWords : Nat → Parse (List (String × Branch))
  | 0 => return []
  | rounds + 1 => do
    match ← attempt specifierWord with
    | some word => return word :: (← specifierWords rounds)
    | none => return []

/-- Which of the words names what is exported: the first one, or the one behind a `type` that is
not itself renamed. -/
def specifiedName : List (String × Branch) → Option Branch
  | [("type", node), ("as", _), _] => some node
  | ("type", _) :: (_, node) :: _ => some node
  | (_, node) :: _ => some node
  | [] => none

/-- A specifier in the braces of an export. -/
def exportSpecifier : Parse Unit :=
  nodeOf "export_specifier" do
    match specifiedName (← specifierWords 4) with
    | some name => emit (name.inField "name")
    | none => fail

/-- What is exported as the default: a declaration, or else a value. -/
def defaultExport (rules : Rules) : Parse Unit := do
  let declared ← attempt do
    match ← word? with
    | some "function" | some "async" =>
      if ← startsFunction then inField "declaration" (functionDeclaration rules) else fail
    | some "interface" => inField "declaration" interfaceDeclaration
    | _ =>
      decorators rules
      inField "declaration" (classDeclaration rules)
  if declared.isNone then
    inField "value" (nodeOf "expression" (expression rules .whole))
    semicolon

/-- What stands behind `export`. -/
def exported (rules : Rules) : Parse Unit := do
  if ← optionalKeyword "default" then defaultExport rules
  else if ← optionalMark "=" then
    nodeOf "expression" (expression rules .whole)
    semicolon
  else if (← attempt clause).isNone then
    match ← word? with
    | some "as" =>
      keyword "as"
      keyword "namespace"
      let _ ← anyWord
      semicolon
    | some "import" => importStatement
    | _ => inField "declaration" (declaration rules)
where
  /-- Names in braces or everything of a module. -/
  clause : Parse Unit := do
    let _ ← attempt do
      keyword "type"
      unless (← isAt "\x7b") || (← isAt "*") do fail
    if ← optionalMark "*" then
      if ← optionalKeyword "as" then
        if (← attempt quoted).isNone then
          let _ ← anyWord
      fromPath
    else
      nodeOf "export_clause" (bracketed "\x7b" exportSpecifier "\x7d")
      let _ ← attempt fromPath
    semicolon

/-- Takes an export with its decorators. -/
def exportStatement (rules : Rules) : Parse Unit :=
  nodeOf "export_statement" do
    decorators rules
    keyword "export"
    decorators rules
    exported rules

/-- Takes what a loop runs over, through the closing parenthesis. -/
def loopHead (rules : Rules) : Parse Unit := do
  mark "("
  let ofForm ← attempt do
    let bound ← attempt do
      let _ ← variableWord
      pattern rules
      annotation
    if bound.isNone then expression rules ⟨true, false, true⟩
    let word ← anyWord
    unless word = "of" || word = "in" do fail
    expression rules .whole
    mark ")"
  if ofForm.isNone then
    unless ← isAt ";" do
      if (← attempt (variableDeclaration rules ⟨false, false, true⟩)).isNone then
        expression rules ⟨true, false, true⟩
    mark ";"
    unless ← isAt ";" do expression rules .whole
    mark ";"
    unless ← isAt ")" do expression rules .whole
    mark ")"

/-- The next statement of a switch, or the label of a case. -/
def nextCase (rules : Rules) : Parse Bool := do
  if ← optionalKeyword "case" then
    expression rules ⟨true, true, false⟩
    mark ":"
    return true
  let other ← attempt do
    keyword "default"
    mark ":"
  if other.isSome then return true
  nextStatement rules

/-- Takes the value behind `return` or `throw`, if it stands on the same line. -/
def optionalValue (rules : Rules) : Parse Unit := do
  let ended ← blank
  let next := (← ahead).head?
  if ended || next = none || next = some ';' || next = some '\x7d' then
    unless ended do semicolon
  else
    expression rules .whole
    semicolon

/-- A statement that starts with a keyword of its own. -/
def controlStatement (rules : Rules) (word : String) : Parse Unit :=
  nodeOf (word ++ "_statement") do
    keyword word
    match word with
    | "if" =>
      parenthesized rules
      rules.statement
      if ← optionalKeyword "else" then rules.statement
    | "for" =>
      let _ ← optionalKeyword "await"
      loopHead rules
      rules.statement
    | "while" | "with" =>
      parenthesized rules
      rules.statement
    | "do" =>
      rules.statement
      keyword "while"
      parenthesized rules
      semicolon
    | "switch" =>
      parenthesized rules
      mark "\x7b"
      many (nextCase rules)
      mark "\x7d"
    | "try" =>
      block rules
      if ← optionalKeyword "catch" then
        if ← optionalMark "(" then
          pattern rules
          annotation
          mark ")"
        block rules
      if ← optionalKeyword "finally" then block rules
    | "return" | "throw" => optionalValue rules
    | "break" | "continue" =>
      let _ ← attempt do
        let ended ← blank
        if ended then fail
        declaredName
      semicolon
    | "debugger" => semicolon
    | _ => fail

/-- Words that start a statement of their own. -/
def controlWords : List String :=
  ["if", "for", "while", "with", "do", "switch", "try", "return", "throw", "break", "continue",
   "debugger"]

/-- Takes a label and its colon. -/
def label : Parse Unit := do
  let _ ← declaredName
  mark ":"

/-- Takes a statement that is an expression. -/
def expressionStatement (rules : Rules) : Parse Unit :=
  nodeOf "expression_statement" do
    expression rules .whole
    semicolon

/-- Takes a statement. -/
def statement (rules : Rules) : Parse Unit := do
  let _ ← blank
  match ← ahead with
  | '\x7b' :: _ => block rules
  | ';' :: _ => skip 1
  | '@' :: _ =>
    if (← attempt (exportStatement rules)).isNone then
      decorators rules
      classDeclaration rules
  | _ =>
    match ← word? with
    | none => expressionStatement rules
    | some "export" => exportStatement rules
    | some word =>
      if controlWords.contains word then controlStatement rules word
      else if (← attempt label).isSome then rules.statement
      else
        let found ← if word = "import" then attempt importStatement
          else attempt (declaration rules)
        if found.isNone then expressionStatement rules

/-- The readers of code in which parts nest to a given depth. -/
def rules (hasElements : Bool) : Nat → Rules
  | 0 => ⟨hasElements, fun _ => fail, fail, fail, fail⟩
  | depth + 1 =>
    let inner := rules hasElements depth
    ⟨hasElements, expression inner, statement inner, pattern inner, element inner⟩

/-- Takes the statements of a file; brackets without a partner are left out. -/
def statements (rules : Rules) : Nat → Parse Unit
  | 0 => return ()
  | rounds + 1 => do
    many (nextStatement rules)
    if (← ahead).isEmpty then return ()
    skip 1
    statements rules rounds

/-- The syntax tree of a file. A first line that names an interpreter is no code. -/
def tree (hasElements : Bool) (text : String) : SyntaxTree :=
  let chars := text.toList
  let start : Cursor := ⟨chars, 0⟩
  let start := match chars with
    | '#' :: '!' :: _ => start.advance (Lexicon.lineLength chars)
    | _ => start
  let found := statements (rules hasElements (chars.length + 1)) (chars.length + 1) start
  (Branch.grow "program" 0 text.utf8ByteSize ((found.map Taken.found).getD [])).tree

end SourceFacts.Grammar.Script

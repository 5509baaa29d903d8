import SourceFacts.Grammar
import SourceFacts.Syntax.Group
import SourceFacts.Text.CharClass
import SourceFacts.Text.Uppercase

/-!
The Go grammar. Line ends after a name, a literal or a closing bracket end a statement. Functions
are declared at file level only; variables, constants and types are declared there and in every
block, alone or in groups.
-/
namespace SourceFacts.Grammar.Go

open Syntax

/-- A quoted text, a raw text, a character, or a line end with the blanks after it. -/
def literal? : List Char → Option (TokenKind × Nat)
  | '\n' :: rest =>
    some (.mark, 1 + Lexicon.runLength (fun c => c = ' ' || c = '\t' || c = '\r') rest)
  | '"' :: rest => some (.string, Lexicon.quotedLength '"' rest + 1)
  | '\x60' :: rest => some (.literal, Lexicon.lengthThrough ['\x60'] rest + 1)
  | '\x27' :: rest => some (.literal, Lexicon.quotedLength '\x27' rest + 1)
  | _ => none

def lexicon : Lexicon where
  comment? := Lexicon.slashComment?
  literal? := literal?
  operators := [":=", "==", "!=", "<=", ">=", "+=", "-=", "*=", "/=", "%=", "&=", "|=", "^=",
    "<<=", ">>=", "&^=", "++", "--", "<-"]

/-- Keywords that no statement ends with. -/
def openWords : List String :=
  ["case", "chan", "const", "default", "defer", "else", "for", "func", "go", "goto", "if", "import",
    "interface", "map", "package", "range", "select", "struct", "switch", "type", "var"]

/-- Whether a line end after this token ends the statement. -/
def endsStatement (token : Token) : Bool :=
  match token.kind with
  | .word => !openWords.contains token.text
  | .mark => [")", "]", "\x7d", "++", "--"].contains token.text
  | .string | .literal => true

/-- Replaces line ends by semicolons where they end a statement and drops the others. `last` is the
token before. -/
def insertSemicolons : Option Token → List Token → List Token
  | _, [] => []
  | last, token :: rest =>
    if token.kind = .mark && token.text.startsWith "\n" then
      if last.any endsStatement then
        { token with text := ";" } :: insertSemicolons none rest
      else insertSemicolons last rest
    else token :: insertSemicolons (some token) rest

/-- Splits pieces at semicolons. -/
def statements (pieces : List Piece) : List (List Piece) :=
  let step (piece : Piece) (state : List Piece × List (List Piece)) :
      List Piece × List (List Piece) :=
    if piece.isMark ";" then ([], state.1 :: state.2) else (piece :: state.1, state.2)
  let (first, rest) := pieces.foldr step ([], [])
  first :: rest

/-- The node of an import path; a raw text has a kind of its own. -/
def path? : Piece → Option Branch
  | .leaf token =>
    match token.kind with
    | .string => some (.inField "path" (.grow "interpreted_string_literal" token.start token.stop []))
    | .literal => some (.inField "path" (.grow "raw_string_literal" token.start token.stop []))
    | .word | .mark => none
  | .group .. => none

/-- The node of one line of an import. -/
def importSpec (pieces : List Piece) : List Branch :=
  Piece.spanning "import_spec" pieces (pieces.filterMap path?)

/-- Whether brackets after the name of a type hold parameters rather than a length: a name and then
its constraint. -/
def isTypeParameters : List Piece → Bool
  | first :: second :: rest =>
    first.word?.isSome && match second with
      | .leaf token =>
        token.kind = .word || token.text = "," || token.text = "~"
          || (token.text = "*" && rest.head?.any fun piece => piece.word?.isSome)
      | .group .. => true
  | _ => false

/-- The kind of a type by its first piece. -/
def typeKind (first : Piece) : String :=
  if first.isWord "struct" then "struct_type"
  else if first.isWord "interface" then "interface_type"
  else "type"

/-- What a type is declared as, behind its parameters. -/
def target : List Piece → List Piece
  | [] => []
  | first :: rest =>
    if (first.inner? '[').any isTypeParameters then target rest else first :: rest

/-- The node of a type. -/
def typeNode (pieces : List Piece) : List Branch :=
  match pieces with
  | [] => []
  | first :: _ => (Piece.spanning (typeKind first) pieces []).map (.inField "type")

/-- The node of a name. -/
def nameNode (kind : String) (piece : Piece) : Branch :=
  .inField "name" (piece.leafNode kind)

/-- The node of one line of a type declaration. A second name for a type has a kind of its own. -/
def typeSpec : List Piece → List Branch
  | [] => []
  | first :: rest =>
    let target := target rest
    let kind := if target.head?.any (·.isMark "=") then "type_alias" else "type_spec"
    if first.word?.isNone then []
    else Piece.spanning kind (first :: rest) (nameNode "type_identifier" first :: typeNode target)

/-- The names in front of a declaration, separated by commas. -/
def names : List Piece → List Piece
  | first :: comma :: rest =>
    if first.word?.isNone then []
    else if comma.isMark "," then first :: names rest
    else [first]
  | [first] => if first.word?.isNone then [] else [first]
  | [] => []

/-- The node of one line of a declaration of variables. -/
def varSpec (pieces : List Piece) : List Branch :=
  Piece.spanning "var_spec" pieces ((names pieces).map (nameNode "identifier"))

/-- The node of one line of a declaration of constants. Of several names only the first stands in the
field for names. -/
def constSpec (pieces : List Piece) : List Branch :=
  match names pieces with
  | [] => []
  | first :: rest =>
    Piece.spanning "const_spec" pieces
      (nameNode "identifier" first :: rest.map (·.leafNode "identifier"))

/-- How the lines of a declaration are read that starts with a word. -/
def spec? : String → Option (List Piece → List Branch)
  | "var" => some varSpec
  | "const" => some constSpec
  | "type" => some typeSpec
  | _ => none

/-- The declarations inside a statement. The blocks of a group are read by `block`. -/
def inside (block : List Piece → List Branch) : List Piece → List Branch
  | [] => []
  | piece :: rest =>
    match piece with
    | .group _ start stop inner => .grow "block" start stop (block inner) :: inside block rest
    | .leaf token =>
      let found :=
        match if token.kind = .word then spec? token.text else none with
        | some spec =>
          match rest.head?.bind (·.inner? '(') with
          | some inner => (statements inner).flatMap spec
          | none => spec rest
        | none => []
      found ++ inside block rest

/-- The declarations of a block, statement by statement. As many steps as the block is deep are
enough. -/
def block : Nat → List Piece → List Branch
  | 0, _ => []
  | steps + 1, pieces => (statements pieces).flatMap (inside (block steps))

/-- A statement at file level. A method has its receiver in front of its name. -/
def topLevel (block : List Piece → List Branch) : List Piece → List Branch
  | first :: second :: rest =>
    if first.isWord "import" then
      match second.inner? '(' with
      | some inner => (statements inner).flatMap importSpec
      | none => importSpec (second :: rest)
    else if first.isWord "func" then
      match second.word?, rest with
      | some _, rest =>
        Piece.spanning "function_declaration" (first :: second :: rest)
          (nameNode "identifier" second :: inside block rest)
      | none, name :: body =>
        if name.word?.isSome then
          Piece.spanning "method_declaration" (first :: second :: rest)
            (nameNode "field_identifier" name :: inside block body)
        else inside block rest
      | none, [] => []
    else inside block (first :: second :: rest)
  | pieces => inside block pieces

/-- The syntax tree of a file. -/
def tree (source : String) : SyntaxTree :=
  let tokens := insertSemicolons none (lexicon.tokens source)
  let found := (statements (Piece.ofTokens tokens)).flatMap (topLevel (block (tokens.length + 1)))
  (Branch.grow "source_file" 0 source.utf8ByteSize found).tree

/-- Quoted import paths. -/
def imports : Query :=
  [{ shape := .of "import_spec"
      [.inField "path" (.named "source" (.of "interpreted_string_literal" []))] }]

/-- Whether a type as written starts with the word for a structure or an interface. -/
def isComposite (text : String) : Bool :=
  ["struct", "interface"].any fun word =>
    word.toList.isPrefixOf text.toList
      && !(text.toList.drop word.length).head?.any Text.isWordChar

/-- A declared type. -/
def declaredType (declared : String) (target : Shape) : Shape :=
  .named declared (.of "type_spec" [.name "type_identifier", .inField "type" target])

/-- Declarations of functions, types, constants and variables. -/
def exports : Query :=
  [{ shape := .declaring "function_declaration" "identifier" "function" },
    { shape := .declaring "method_declaration" "field_identifier" "function" },
    { shape := declaredType "struct" (.of "struct_type" []) },
    { shape := declaredType "interface" (.of "interface_type" []) },
    { shape := declaredType "type" (.named "_target" .any)
      conditions := [⟨"_target", fun text => !isComposite text⟩] },
    { shape := .declaring "const_spec" "identifier" "constant" },
    { shape := .declaring "var_spec" "identifier" "variable" }]

/-- Functions and methods. -/
def functions : Query :=
  [{ shape := .declaring "function_declaration" "identifier" "function" },
    { shape := .declaring "method_declaration" "field_identifier" "method" }]

/-- Whether a name starts with an upper-case letter. -/
def isCapitalized (name : String) : Bool :=
  name.toList.head?.any Text.isUppercase

end SourceFacts.Grammar.Go

namespace SourceFacts.Grammar

/-- Go. A capitalized name is exported. -/
def go : Grammar where
  name := "go"
  extensions := ["go"]
  engine := { tree := Go.tree }
  imports := .valid Go.imports
  exports := .valid Go.exports
  functions := .valid Go.functions
  isExported name _ _ := Go.isCapitalized name

end SourceFacts.Grammar

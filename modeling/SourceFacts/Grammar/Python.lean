import SourceFacts.Grammar
import SourceFacts.Syntax.Group

/-!
The Python grammar. A file is a sequence of lines with indentation; the deeper lines below a header
are its body. Line ends inside brackets do not count. Definitions, imports and plain assignments
are kept, all other statements only for what their bodies hold.
-/
namespace SourceFacts.Grammar.Python

open Syntax

/-- A comment up to the end of its line, or a line end that a backslash takes away. -/
def comment? : List Char → Option Nat
  | '#' :: rest => some (Lexicon.lineLength rest + 1)
  | '\\' :: '\n' :: _ => some 2
  | '\\' :: '\r' :: '\n' :: _ => some 3
  | _ => none

/-- Where a scan through a formatted text stands: in the text itself, or inside braces and there
perhaps inside another quoted text. -/
inductive Spot where
  | text
  | braces (depth : Nat)
  | quoted (depth : Nat) (quote : Char)

/-- The length of a formatted text from behind its opening quote. Between its braces stands code
that may hold texts of its own. -/
def formattedLength (quote : Char) (triple : Bool) : Spot → List Char → Nat
  | _, [] => 0
  | .text, '\\' :: _ :: rest => formattedLength quote triple .text rest + 2
  | .text, '\x7b' :: '\x7b' :: rest => formattedLength quote triple .text rest + 2
  | .text, a :: b :: c :: rest =>
    if a = '\x7b' then formattedLength quote triple (.braces 1) (b :: c :: rest) + 1
    else if a = quote && !triple then 1
    else if a = quote && b = quote && c = quote then 3
    else formattedLength quote triple .text (b :: c :: rest) + 1
  | .text, a :: rest =>
    if a = quote && !triple then 1 else formattedLength quote triple .text rest + 1
  | .braces depth, c :: rest =>
    if c = '\x7b' then formattedLength quote triple (.braces (depth + 1)) rest + 1
    else if c = '\x7d' then
      formattedLength quote triple (if depth ≤ 1 then .text else .braces (depth - 1)) rest + 1
    else if c = '"' || c = '\x27' then
      formattedLength quote triple (.quoted depth c) rest + 1
    else formattedLength quote triple (.braces depth) rest + 1
  | .quoted depth inner, '\\' :: _ :: rest =>
    formattedLength quote triple (.quoted depth inner) rest + 2
  | .quoted depth inner, c :: rest =>
    if c = inner then formattedLength quote triple (.braces depth) rest + 1
    else formattedLength quote triple (.quoted depth inner) rest + 1

/-- The length of a quoted text from its opening quote on. -/
def quoted? (formatted : Bool) : List Char → Option Nat
  | a :: b :: c :: rest =>
    if a = '"' || a = '\x27' then
      if a = b ∧ b = c then
        some (3 + if formatted then formattedLength a true .text rest
          else Lexicon.tripleLength a rest)
      else
        some (1 + if formatted then formattedLength a false .text (b :: c :: rest)
          else Lexicon.quotedLength a (b :: c :: rest))
    else none
  | a :: rest =>
    if a = '"' || a = '\x27' then some (1 + Lexicon.quotedLength a rest) else none
  | [] => none

def isFormat (c : Char) : Bool := c = 'f' || c = 'F' || c = 't' || c = 'T'

/-- The letters that may stand in front of a quoted text. -/
def isMark (c : Char) : Bool :=
  isFormat c || ['r', 'R', 'b', 'B', 'u', 'U'].contains c

/-- A quoted text with up to two letters in front, or a line end with the indentation after it. -/
def literal? : List Char → Option (TokenKind × Nat)
  | '\n' :: rest =>
    some (.mark,
      1 + Lexicon.runLength (fun c => c = ' ' || c = '\t' || c = '\r' || c = '\x0c') rest)
  | a :: b :: rest =>
    match quoted? false (a :: b :: rest) with
    | some length => some (.string, length)
    | none =>
      if isMark a then
        match quoted? (isFormat a) (b :: rest) with
        | some length => some (.string, length + 1)
        | none =>
          if isMark b then
            (quoted? (isFormat a || isFormat b) rest).map fun length => (.string, length + 2)
          else none
      else none
  | chars => (quoted? false chars).map fun length => (.string, length)

def lexicon : Lexicon where
  comment? := comment?
  literal? := literal?
  operators := ["+=", "-=", "*=", "/=", "//=", "%=", "@=", "&=", "|=", "^=", ">>=", "<<=", "**=",
    ":=", "->", "==", "!=", "<=", ">="]

/-- A line of code: how far it is indented, and its pieces. -/
structure Line where
  indent : Nat
  pieces : List Piece

/-- The width of the blanks in front of a line; a tabulator counts as eight, a form feed starts
over. -/
def width (blanks : List Char) : Nat :=
  blanks.foldl
    (fun width c =>
      if c = '\t' then width + 8 else if c = '\x0c' || c = '\n' then 0
      else if c = '\r' then width else width + 1)
    0

/-- The indentation that a line end announces. -/
def lineEnd? : Piece → Option Nat
  | .leaf token => if token.text.startsWith "\n" then some (width token.text.toList) else none
  | .group .. => none

/-- The lines that hold any code. `line` is the current one, last piece first. -/
def lines (indent : Nat) (line : List Piece) : List Piece → List Line
  | [] => if line.isEmpty then [] else [⟨indent, line.reverse⟩]
  | piece :: rest =>
    match lineEnd? piece with
    | some next =>
      if line.isEmpty then lines next [] rest
      else ⟨indent, line.reverse⟩ :: lines next [] rest
    | none => lines indent (piece :: line) rest

/-- Words that are never names. -/
def keywords : List String :=
  ["False", "None", "True", "and", "as", "assert", "async", "await", "break", "class", "continue",
    "def", "del", "elif", "else", "except", "finally", "for", "from", "global", "if", "import",
    "in", "is", "lambda", "nonlocal", "not", "or", "pass", "raise", "return", "try", "while",
    "with", "yield"]

/-- Words that open a statement with a body. -/
def openers : List String :=
  ["if", "elif", "else", "for", "while", "try", "except", "finally", "with", "def", "class",
    "async"]

/-- Splits pieces at a mark. -/
def splitAtMark (mark : String) (pieces : List Piece) : List (List Piece) :=
  let step (piece : Piece) (state : List Piece × List (List Piece)) :
      List Piece × List (List Piece) :=
    if piece.isMark mark then ([], state.1 :: state.2) else (piece :: state.1, state.2)
  let (first, rest) := pieces.foldr step ([], [])
  first :: rest

/-- What stands in front of the colon that ends a header, and behind it. The colons of nameless
functions do not count. -/
def splitHeader? : Nat → List Piece → Option (List Piece × List Piece)
  | _, [] => none
  | pending, piece :: rest =>
    if piece.isMark ":" && pending = 0 then some ([], rest)
    else
      let pending :=
        if piece.isWord "lambda" then pending + 1
        else if piece.isMark ":" then pending - 1 else pending
      (splitHeader? pending rest).map fun (header, body) => (piece :: header, body)

/-- Whether pieces open a statement with a body. Two of the words are names elsewhere. -/
def isOpener : List Piece → Bool
  | first :: second :: _ =>
    match first.word? with
    | some word =>
      openers.contains word
        || ((word = "match" || word = "case")
          && !(["=", ":", ".", ","].any second.isMark))
    | none => false
  | _ => false

/-- The node of one module that an import statement names, perhaps with a new name. -/
def importedModule (pieces : List Piece) : List Branch :=
  let path := pieces.takeWhile fun piece => !piece.isWord "as"
  let dotted := (Piece.spanning "dotted_name" path []).map (.inField "name")
  if path.length = pieces.length then dotted
  else (Piece.spanning "aliased_import" pieces dotted).map (.inField "name")

/-- The kind of a module path: one that starts with a dot is relative. -/
def pathKind (path : List Piece) : String :=
  if path.head?.any (·.isMark ".") then "relative_import" else "dotted_name"

/-- The node of an import of names from a module; the pieces are those behind the keyword. The module
of future features is no module. -/
def fromImport (first : Piece) (rest : List Piece) : List Branch :=
  let path := rest.takeWhile fun piece => !piece.isWord "import"
  let future := match path with
    | [only] => only.isWord "__future__"
    | _ => false
  if future then Piece.spanning "future_import_statement" (first :: rest) []
  else
    Piece.spanning "import_from_statement" (first :: rest)
      ((Piece.spanning (pathKind path) path []).map (.inField "module_name"))

/-- The node of an assignment to a plain name, if this is one. A name with a type is one, too. -/
def assignment (first : Piece) (rest : List Piece) : List Branch :=
  match first.word?, rest with
  | some name, second :: _ =>
    if !keywords.contains name && (second.isMark "=" || second.isMark ":") then
      Piece.spanning "expression_statement" (first :: rest)
        (Piece.spanning "assignment" (first :: rest) [.inField "left" (first.leafNode "identifier")])
    else []
  | _, _ => []

/-- A statement without a body. -/
def simple : List Piece → List Branch
  | first :: rest =>
    if first.isWord "import" then
      Piece.spanning "import_statement" (first :: rest)
        ((splitAtMark "," rest).flatMap importedModule)
    else if first.isWord "from" then fromImport first rest
    else assignment first rest
  | [] => []

/-- Statements without bodies, separated by semicolons. -/
def simples (pieces : List Piece) : List Branch :=
  (splitAtMark ";" pieces).flatMap simple

/-- The kind of a statement with a body by its header, and what it defines. -/
def headerKind : List Piece → String × Option Piece
  | first :: name :: rest =>
    if first.isWord "def" then ("function_definition", some name)
    else if first.isWord "class" then ("class_definition", some name)
    else if first.isWord "async" && name.isWord "def" then ("function_definition", rest.head?)
    else ("compound_statement", none)
  | _ => ("compound_statement", none)

/-- The node of a name, if the piece is one. -/
def nameNode (piece : Option Piece) : List Branch :=
  match piece with
  | some piece =>
    if piece.word?.isSome then [.inField "name" (piece.leafNode "identifier")] else []
  | none => []

/-- One line and the deeper lines below it. -/
def statement (block : List Line → List Branch) (line : Line) (body : List Line) : List Branch :=
  match if isOpener line.pieces then splitHeader? 0 line.pieces else none with
  | some (header, inline) =>
    let deeper := body.flatMap Line.pieces
    let (kind, name) := headerKind header
    Piece.spanning kind (line.pieces ++ deeper)
      (nameNode name ++ Piece.spanning "block" (inline ++ deeper) (simples inline ++ block body))
  | none => simples line.pieces ++ block body

def isDecorator (line : Line) : Bool :=
  line.pieces.head?.any (·.isMark "@")

/-- The statements of a block. Decorators belong to the definition below them. As many steps as
there are lines are enough. -/
def block : Nat → List Line → List Branch
  | 0, _ => []
  | _, [] => []
  | steps + 1, line :: rest =>
    if isDecorator line then
      match rest.dropWhile isDecorator with
      | [] => []
      | defined :: rest =>
        let body := rest.takeWhile fun deeper => defined.indent < deeper.indent
        let after := rest.dropWhile fun deeper => defined.indent < deeper.indent
        Piece.spanning "decorated_definition"
            (line.pieces ++ defined.pieces ++ body.flatMap Line.pieces)
            ((statement (block steps) defined body).map (.inField "definition"))
          ++ block steps after
    else
      let body := rest.takeWhile fun deeper => line.indent < deeper.indent
      let after := rest.dropWhile fun deeper => line.indent < deeper.indent
      statement (block steps) line body ++ block steps after

/-- The syntax tree of a file. -/
def tree (source : String) : SyntaxTree :=
  let found := lines (width (source.toList.takeWhile fun c => c = ' ' || c = '\t')) []
    (Piece.ofTokens (lexicon.tokens source))
  (Branch.grow "module" 0 source.utf8ByteSize (block (found.length + 1) found)).tree

/-- Modules that are imported, or that names are imported from. -/
def imports : Query :=
  [{ shape := .of "import_statement" [.inField "name" (.named "source" (.of "dotted_name" []))] },
    { shape := .of "import_statement" [.inField "name" (.of "aliased_import"
        [.inField "name" (.named "source" (.of "dotted_name" []))])] },
    { shape := .of "import_from_statement"
        [.inField "module_name" (.named "source" (.of "dotted_name" []))] },
    { shape := .of "import_from_statement"
        [.inField "module_name" (.named "source" (.of "relative_import" []))] }]

/-- A definition with decorators. -/
def decorated (kind declared : String) : Shape :=
  .named declared (.of "decorated_definition"
    [.inField "definition" (.of kind [.name "identifier"])])

/-- Definitions and assignments that stand directly in the file. -/
def exports : Query :=
  [{ shape := .of "module" [.declaring "function_definition" "identifier" "function"] },
    { shape := .of "module" [decorated "function_definition" "function"] },
    { shape := .of "module" [.declaring "class_definition" "identifier" "class"] },
    { shape := .of "module" [decorated "class_definition" "class"] },
    { shape := .of "module" [.named "variable" (.of "expression_statement"
        [.of "assignment" [.inField "left" (.named "name" (.of "identifier" []))]])] }]

/-- Functions. -/
def functions : Query :=
  [{ shape := .declaring "function_definition" "identifier" "function" }]

/-- Whether the innermost of some nodes is the body of a class; decorators do not count. -/
def isClassBody : List SyntaxTree → Bool
  | [] => false
  | node :: above =>
    match node.head.kind with
    | "decorated_definition" | "block" => isClassBody above
    | "class_definition" => true
    | _ => false

end SourceFacts.Grammar.Python

namespace SourceFacts.Grammar

/-- Python. A name is exported unless it starts with an underscore. A function directly in the body
of a class is a method. -/
def python : Grammar where
  name := "python"
  extensions := ["py", "pyi"]
  engine := { tree := Python.tree }
  imports := .valid Python.imports
  exports := .valid Python.exports
  functions := .valid Python.functions
  isExported name _ _ := name.toList.head? ≠ some '_'
  isMethod place := Python.isClassBody place.above

end SourceFacts.Grammar

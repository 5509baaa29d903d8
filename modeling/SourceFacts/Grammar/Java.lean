import SourceFacts.Grammar
import SourceFacts.Syntax.Group
import SourceFacts.Text.Blank

/-!
The Java grammar. Types are declared at file level, in types and in blocks, methods in the bodies of
types. A body may also come with an object that is being created or with a constant of an
enumeration.
-/
namespace SourceFacts.Grammar.Java

open Syntax

/-- A text block, a quoted text or a character. -/
def literal? : List Char → Option (TokenKind × Nat)
  | '"' :: '"' :: '"' :: rest => some (.string, Lexicon.tripleLength '"' rest + 3)
  | '"' :: rest => some (.string, Lexicon.quotedLength '"' rest + 1)
  | '\x27' :: rest => some (.literal, Lexicon.quotedLength '\x27' rest + 1)
  | _ => none

def lexicon : Lexicon where
  comment? := Lexicon.slashComment?
  literal? := literal?
  operators := ["::", "->", "==", "!=", "<=", ">="]

/-- The words that are modifiers. -/
def modifierWords : List String :=
  ["public", "protected", "private", "abstract", "static", "final", "strictfp", "default",
    "synchronized", "native", "transient", "volatile", "sealed"]

/-- Drops the rest of a dotted name. -/
def dropDotted : List Piece → List Piece
  | dot :: name :: rest =>
    if dot.isMark "." && name.word?.isSome then dropDotted rest else dot :: name :: rest
  | pieces => pieces

/-- What follows an annotation that starts here. The declaration of an annotation is none. -/
def afterAnnotation? : List Piece → Option (List Piece)
  | mark :: name :: rest =>
    if mark.isMark "@" && name.word?.isSome && !name.isWord "interface" then
      match dropDotted rest with
      | .group '(' _ _ _ :: rest => some rest
      | rest => some rest
    else none
  | _ => none

/-- What follows a modifier that starts here. -/
def afterModifier? (pieces : List Piece) : Option (List Piece) :=
  match afterAnnotation? pieces with
  | some rest => some rest
  | none =>
    match pieces with
    | first :: rest =>
      match first.word?, rest with
      | some "non", dash :: sealed :: rest =>
        if dash.isMark "-" && sealed.isWord "sealed" then some rest else none
      | some word, _ => if modifierWords.contains word then some rest else none
      | none, _ => none
    | [] => none

/-- Drops all modifiers in front. There are at most as many as pieces. -/
def dropModifiers : Nat → List Piece → List Piece
  | 0, pieces => pieces
  | steps + 1, pieces =>
    match afterModifier? pieces with
    | some rest => dropModifiers steps rest
    | none => pieces

/-- How a stretch of pieces is read. -/
inductive Mode where
  /-- Members of a type, or a whole file. -/
  | members
  /-- Members of an annotation, whose elements are no methods. -/
  | elements
  /-- The constants of an enumeration, and its members behind a semicolon. -/
  | constants
  /-- Statements and expressions; `fresh` says whether a declaration may start here. -/
  | code (fresh : Bool)

/-- The kinds of the nodes of a declared type and of its body, and how the body is read. -/
structure TypeKind where
  declaration : String
  body : String
  mode : Mode

/-- A declared type: its kind, the nodes of its header, its body, and what follows it. -/
structure Declared where
  kind : TypeKind
  header : List Branch
  body : Piece
  rest : List Piece

/-- The first braces, and what follows them. -/
def braces? : List Piece → Option (Piece × List Piece)
  | [] => none
  | piece :: rest =>
    if piece.isGroup '\x7b' then some (piece, rest)
    else if piece.isMark ";" then none
    else braces? rest

/-- The kind of a type by its keyword and what follows its name. A record is one only with its
components. -/
def typeKind? (keyword : Piece) (afterName : List Piece) : Option TypeKind :=
  match keyword.word? with
  | some "class" => some ⟨"class_declaration", "class_body", .members⟩
  | some "interface" => some ⟨"interface_declaration", "interface_body", .members⟩
  | some "enum" => some ⟨"enum_declaration", "enum_body", .constants⟩
  | some "record" =>
    if afterName.head?.any fun next => next.isGroup '(' || next.isMark "<" then
      some ⟨"record_declaration", "class_body", .members⟩
    else none
  | _ => none

/-- The node of a name. -/
def nameNode (piece : Piece) : Branch :=
  .inField "name" (piece.leafNode "identifier")

/-- The type that is declared here. -/
def declared? (pieces : List Piece) : Option Declared := do
  let after := dropModifiers pieces.length pieces
  let modifiers := Piece.spanning "modifiers" (Piece.before pieces after) []
  match after with
  | keyword :: name :: rest =>
    if keyword.isMark "@" then
      guard (name.isWord "interface")
      let (body, rest) ← braces? rest
      return ⟨⟨"annotation_type_declaration", "annotation_type_body", .elements⟩, modifiers, body, rest⟩
    else
      let kind ← typeKind? keyword rest
      guard name.word?.isSome
      let (body, rest) ← braces? rest
      return ⟨kind, modifiers ++ [nameNode name], body, rest⟩
  | _ => none

/-- What a member turns out to be behind its modifiers. -/
inductive Member where
  /-- A method, with its name and what follows its parameters. -/
  | method (name : Piece) (rest : List Piece)
  /-- A field, with what follows its first name. -/
  | field (rest : List Piece)
  /-- A constructor that only names its type. -/
  | compact (body : Piece) (rest : List Piece)

/-- Reads a member up to the point that decides what it is. `last` is the name right before. -/
def member : Nat → Nat → Option Piece → List Piece → Member
  | 0, _, _, pieces => .field pieces
  | _, _, _, [] => .field []
  | steps + 1, angles, last, piece :: rest =>
    match afterAnnotation? (piece :: rest) with
    | some rest => member steps angles none rest
    | none =>
      match piece with
      | .group '(' _ _ _ =>
        match last with
        | some name => .method name rest
        | none => member steps angles none rest
      | .group '\x7b' _ _ _ => .compact piece rest
      | .group .. => member steps angles none rest
      | .leaf token =>
        if token.isMark "<" then member steps (angles + 1) none rest
        else if token.isMark ">" then member steps (angles - 1) none rest
        else if token.isMark "=" || token.isMark ";" || (token.isMark "," && angles = 0) then
          .field (piece :: rest)
        else member steps angles (if token.kind = .word then some piece else none) rest

/-- Drops the type parameters in front of a member. -/
def dropTypeParameters : Nat → List Piece → List Piece
  | _, [] => []
  | angles, piece :: rest =>
    if piece.isMark "<" then dropTypeParameters (angles + 1) rest
    else if angles = 0 then piece :: rest
    else if piece.isMark ">" then dropTypeParameters (angles - 1) rest
    else dropTypeParameters angles rest

/-- The kind of a method by what follows its modifiers: a constructor has no result type. -/
def methodKind (after : List Piece) : String :=
  match dropTypeParameters 0 after with
  | _ :: .group '(' _ _ _ :: _ => "constructor_declaration"
  | _ => "method_declaration"

/-- The pieces up to a semicolon, and what follows it. -/
def throughSemicolon : List Piece → List Piece × List Piece
  | [] => ([], [])
  | piece :: rest =>
    if piece.isMark ";" then ([], rest)
    else
      let (before, after) := throughSemicolon rest
      (piece :: before, after)

/-- The braces that follow the header of a method, if it has a body, and what follows it. -/
def methodBody : List Piece → Option Piece × List Piece
  | [] => (none, [])
  | piece :: rest =>
    if piece.isMark ";" then (none, rest)
    else if piece.isGroup '\x7b' then (some piece, rest)
    else methodBody rest

/-- The arguments of an object creation whose type starts here, and what follows them. -/
def arguments? : Nat → List Piece → Option (Piece × List Piece)
  | _, [] => none
  | angles, piece :: rest =>
    match piece with
    | .group '(' _ _ _ => if angles = 0 then some (piece, rest) else arguments? angles rest
    | .group .. => if angles = 0 then none else arguments? angles rest
    | .leaf token =>
      if token.isMark "<" then arguments? (angles + 1) rest
      else if token.isMark ">" then arguments? (angles - 1) rest
      else if angles > 0 || token.kind = .word || token.isMark "." || token.isMark "@" then
        arguments? angles rest
      else none

/-- The node of an imported name. A star at its end is left out. -/
def importedName (pieces : List Piece) : List Branch :=
  let named := (pieces.dropWhile (·.isWord "static")).takeWhile fun piece => !piece.isMark "*"
  let named := (named.reverse.dropWhile (·.isMark ".")).reverse
  Piece.spanning (if named.length = 1 then "identifier" else "scoped_identifier") named []

/-- Whether a declaration may follow a token. -/
def isBreak (token : Token) : Bool :=
  token.isMark ";" || token.isMark ":"

/-- The node of a group, whose insides are read by `read`. -/
def bodyNode (kind : String) (read : List Piece → List Branch) : Piece → List Branch
  | .group _ start stop inner => [.grow kind start stop (read inner)]
  | .leaf _ => []

/-- The node of a declared type at the start of some pieces, whose body is read by `read`. -/
def typeNode (read : Mode → List Piece → List Branch) (pieces : List Piece) (found : Declared) :
    List Branch :=
  Piece.spanning found.kind.declaration (Piece.before pieces found.rest)
    (found.header ++ bodyNode found.kind.body (read found.kind.mode) found.body)

/-- Reads pieces in a mode. As many steps as there are tokens are enough. -/
def region : Nat → Mode → List Piece → List Branch
  | 0, _, _ => []
  | _, _, [] => []
  | steps + 1, .constants, piece :: rest =>
    if piece.isMark ";" then region steps .members rest
    else if piece.isGroup '(' then
      bodyNode "argument_list" (region steps (.code false)) piece ++ region steps .constants rest
    else if piece.isGroup '\x7b' then
      bodyNode "class_body" (region steps .members) piece ++ region steps .constants rest
    else region steps .constants rest
  | steps + 1, .code fresh, piece :: rest =>
    match if fresh then declared? (piece :: rest) else none with
    | some found =>
      typeNode (region steps) (piece :: rest) found ++ region steps (.code true) found.rest
    | none =>
      match piece with
      | .group bracket start stop inner =>
        .grow "block" start stop (region steps (.code (bracket = '\x7b')) inner)
          :: region steps (.code (bracket = '\x7b')) rest
      | .leaf token =>
        if token.isMark "::" then region steps (.code false) (rest.drop 1)
        else if token.isWord "new" then
          match arguments? 0 rest with
          | some (given, body :: after) =>
            if body.isGroup '\x7b' then
              bodyNode "argument_list" (region steps (.code false)) given
                ++ bodyNode "class_body" (region steps .members) body
                ++ region steps (.code false) after
            else region steps (.code false) rest
          | _ => region steps (.code false) rest
        else region steps (.code (isBreak token)) rest
  | steps + 1, mode, piece :: rest =>
    match declared? (piece :: rest) with
    | some found =>
      typeNode (region steps) (piece :: rest) found ++ region steps mode found.rest
    | none =>
      if piece.isMark ";" then region steps mode rest
      else if piece.isWord "import" then
        let (path, after) := throughSemicolon rest
        Piece.spanning "import_declaration" (piece :: path) (importedName path)
          ++ region steps mode after
      else if piece.isWord "package" then
        region steps mode (throughSemicolon rest).2
      else
        let start := dropModifiers (rest.length + 1) (piece :: rest)
        match member start.length 0 none start with
        | .compact body after =>
          Piece.spanning "compact_constructor_declaration" (Piece.before (piece :: rest) after)
              (bodyNode "block" (region steps (.code true)) body)
            ++ region steps mode after
        | .field value =>
          let (value, after) := throughSemicolon value
          Piece.spanning "field_declaration" (Piece.before (piece :: rest) after)
              (region steps (.code false) value)
            ++ region steps mode after
        | .method name afterParameters =>
          match mode with
          | .elements => region steps mode (throughSemicolon afterParameters).2
          | mode =>
            let (body, after) := methodBody afterParameters
            Piece.spanning (methodKind start) (Piece.before (piece :: rest) after)
                (nameNode name
                  :: body.toList.flatMap (bodyNode "block" (region steps (.code true))))
              ++ region steps mode after

/-- The syntax tree of a file. -/
def tree (source : String) : SyntaxTree :=
  let tokens := lexicon.tokens source
  (Branch.grow "program" 0 source.utf8ByteSize
    (region (tokens.length + 1) .members (Piece.ofTokens tokens))).tree

/-- Imported names. -/
def imports : Query :=
  [{ shape := .of "import_declaration" [.named "source" (.of "scoped_identifier" [])] },
    { shape := .of "import_declaration" [.named "source" (.of "identifier" [])] }]

/-- Declared types. -/
def exports : Query :=
  [{ shape := .declaring "class_declaration" "identifier" "class" },
    { shape := .declaring "interface_declaration" "identifier" "interface" },
    { shape := .declaring "enum_declaration" "identifier" "enum" },
    { shape := .declaring "record_declaration" "identifier" "record" }]

/-- Methods and constructors. -/
def functions : Query :=
  [{ shape := .declaring "method_declaration" "identifier" "method" },
    { shape := .declaring "constructor_declaration" "identifier" "method" }]

end SourceFacts.Grammar.Java

namespace SourceFacts.Grammar

/-- Java. A type is exported if `public` is one of the words of its modifiers as written. -/
def java : Grammar where
  name := "java"
  extensions := ["java"]
  engine := { tree := Java.tree }
  imports := .valid Java.imports
  exports := .valid Java.exports
  functions := .valid Java.functions
  isExported _ place source :=
    (place.childText? "modifiers" source).any fun modifiers =>
      (Text.words modifiers).contains "public"

end SourceFacts.Grammar

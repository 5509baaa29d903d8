import SourceFacts.Grammar
import SourceFacts.Syntax.Group

/-!
The Rust grammar. Items are found by their keywords, which are reserved, so an item may stand
anywhere a block may: at file level, in modules, implementations and traits, and inside function
bodies. The insides of macro calls and attributes are no code.
-/
namespace SourceFacts.Grammar.Rust

open Syntax

/-- The length of a comment between slash-star and star-slash that may hold others. -/
def nestedLength : Nat → List Char → Nat
  | depth, '*' :: '/' :: rest => if depth = 0 then 2 else nestedLength (depth - 1) rest + 2
  | depth, '/' :: '*' :: rest => nestedLength (depth + 1) rest + 2
  | depth, _ :: rest => nestedLength depth rest + 1
  | _, [] => 0

def comment? : List Char → Option Nat
  | '/' :: '/' :: rest => some (Lexicon.lineLength rest + 2)
  | '/' :: '*' :: rest => some (nestedLength 0 rest + 2)
  | _ => none

/-- The length of a raw string from its hash marks on, or of a raw name. -/
def raw? (chars : List Char) : Option (TokenKind × Nat) :=
  let hashes := Lexicon.runLength (· = '#') chars
  match chars.drop hashes with
  | '"' :: rest =>
    some (.string, hashes + 1 + Lexicon.lengthThrough ('"' :: List.replicate hashes '#') rest)
  | c :: rest =>
    if hashes = 1 ∧ Lexicon.isNameStart c then
      some (.word, 1 + Lexicon.runLength Lexicon.isName (c :: rest))
    else none
  | [] => none

/-- The length of a character behind its opening quote, or of the name of a lifetime. -/
def afterQuote (chars : List Char) : Nat :=
  match chars with
  | '\\' :: _ => Lexicon.quotedLength '\x27' chars
  | _ :: '\x27' :: _ => 2
  | _ => Lexicon.runLength Lexicon.isName chars

/-- Adds characters that were taken before. -/
def longer (count : Nat) (found : TokenKind × Nat) : TokenKind × Nat :=
  (found.1, found.2 + count)

def literal? : List Char → Option (TokenKind × Nat)
  | '"' :: rest => some (.string, Lexicon.quotedLength '"' rest + 1)
  | '\x27' :: rest => some (.literal, afterQuote rest + 1)
  | 'b' :: '"' :: rest | 'c' :: '"' :: rest => some (.literal, Lexicon.quotedLength '"' rest + 2)
  | 'b' :: '\x27' :: rest => some (.literal, afterQuote rest + 2)
  | 'b' :: 'r' :: rest | 'c' :: 'r' :: rest =>
    match raw? rest with
    | some (.string, length) => some (.literal, length + 2)
    | _ => none
  | 'r' :: rest => (raw? rest).map (longer 1)
  | _ => none

def lexicon : Lexicon where
  comment? := comment?
  literal? := literal?
  operators := ["->", "=>", "!=", "==", "::"]

/-- Keywords after which an exclamation mark negates. -/
def expressionKeywords : List String :=
  ["as", "await", "box", "break", "else", "if", "in", "let", "loop", "match", "move", "mut", "ref",
    "return", "unsafe", "while", "yield"]

/-- What follows a macro call that starts here: a name, an exclamation mark, perhaps another name,
and a group. -/
def afterMacro? : List Piece → Option (List Piece)
  | name :: bang :: Piece.group .. :: rest =>
    if isCall name bang then some rest else none
  | name :: bang :: defined :: Piece.group .. :: rest =>
    if isCall name bang && defined.word?.isSome then some rest else none
  | _ => none
where
  isCall (name bang : Piece) : Bool :=
    bang.isMark "!" && match name.word? with
      | some text => !expressionKeywords.contains text
      | none => false

/-- What follows an attribute that starts here. -/
def afterAttribute? : List Piece → Option (List Piece)
  | hash :: next :: rest =>
    if hash.isMark "#" then
      if next.isGroup '[' then some rest
      else match next.isMark "!", rest with
        | true, inner :: rest => if inner.isGroup '[' then some rest else none
        | _, _ => none
    else none
  | _ => none

/-- The node of the visibility in front of an item, if it is written, and what follows. -/
def visibility : List Piece → List Branch × List Piece
  | first :: scope :: rest =>
    if first.isWord "pub" then
      if scope.isGroup '(' then (Piece.spanning "visibility_modifier" [first, scope] [], rest)
      else ([first.leafNode "visibility_modifier"], scope :: rest)
    else ([], first :: scope :: rest)
  | pieces => ([], pieces)

/-- Words that may stand between the visibility of an item and its keyword. -/
def qualifiers : List String := ["default", "async", "unsafe", "safe", "auto"]

/-- Drops the qualifiers in front of an item's keyword. A constant may also be one. -/
def dropQualifiers : List Piece → List Piece
  | first :: second :: rest =>
    match first.word? with
    | some "extern" =>
      match second with
      | .leaf token =>
        if token.kind = .string ∧ (rest.head?.any (·.isWord "fn")) then dropQualifiers rest
        else if token.isWord "fn" then second :: rest
        else first :: second :: rest
      | _ => first :: second :: rest
    | some "const" =>
      if ["fn", "unsafe", "async", "extern"].any second.isWord then dropQualifiers (second :: rest)
      else first :: second :: rest
    | some word =>
      if qualifiers.contains word && second.word?.isSome then dropQualifiers (second :: rest)
      else first :: second :: rest
    | none => first :: second :: rest
  | pieces => pieces

/-- Looks for the end of an item's header: its braces, or a semicolon. Braces inside angle brackets
are arguments. The result is the braces, if any, and what follows. -/
def body? : Nat → List Piece → Option (Option Piece × List Piece)
  | _, [] => none
  | angles, piece :: rest =>
    if piece.isMark "<" then body? (angles + 1) rest
    else if piece.isMark ">" then body? (angles - 1) rest
    else if piece.isMark ";" then some (none, rest)
    else if piece.isGroup '\x7b' && angles = 0 then some (some piece, rest)
    else body? angles rest

/-- The pieces up to a semicolon, and what follows it. -/
def throughSemicolon : List Piece → List Piece × List Piece
  | [] => ([], [])
  | piece :: rest =>
    if piece.isMark ";" then ([], rest)
    else
      let (before, after) := throughSemicolon rest
      (piece :: before, after)

/-- An item: its kind, the nodes of its header, its body with the kind of its node, and what follows the
item. -/
structure Item where
  kind : String
  header : List Branch
  body : Option (String × Piece)
  rest : List Piece

/-- The kinds of the nodes of an item, of its name and of its body. -/
structure ItemKind where
  item : String
  name : String
  body : String

/-- The items that a keyword, a name and perhaps a body make up. -/
def itemKind? : String → Option ItemKind
  | "struct" => some ⟨"struct_item", "type_identifier", "field_declaration_list"⟩
  | "enum" => some ⟨"enum_item", "type_identifier", "enum_variant_list"⟩
  | "trait" => some ⟨"trait_item", "type_identifier", "declaration_list"⟩
  | "type" => some ⟨"type_item", "type_identifier", "block"⟩
  | "mod" => some ⟨"mod_item", "identifier", "declaration_list"⟩
  | _ => none

/-- The node of a name. -/
def nameNode? (kind : String) (piece : Piece) : Option Branch :=
  if piece.word?.isSome then some (.inField "name" (piece.leafNode kind)) else none

/-- The item that starts here, from its visibility on. -/
def item? (pieces : List Piece) : Option Item := do
  let (visible, afterVisibility) := visibility pieces
  match dropQualifiers afterVisibility with
  | [] => none
  | keyword :: rest =>
    match ← keyword.word?, rest with
    | "use", next :: _ =>
      guard (!next.isMark "<")
      let (path, rest) := throughSemicolon rest
      guard (!path.isEmpty)
      let argument := (Piece.spanning "use_tree" path []).map (.inField "argument")
      return ⟨"use_declaration", visible ++ argument, none, rest⟩
    | "extern", crate :: rest =>
      if crate.isWord "crate" then
        match rest with
        | name :: rest =>
          return ⟨"extern_crate_declaration",
            visible ++ [.inField "name" (name.leafNode "identifier")], none, rest⟩
        | [] => none
      else
        let (body, rest) ← body? 0 (crate :: rest)
        return ⟨"foreign_mod_item", visible, some ("declaration_list", ← body), rest⟩
    | "fn", name :: rest =>
      let name ← nameNode? "identifier" name
      match ← body? 0 rest with
      | (some body, rest) => return ⟨"function_item", visible ++ [name], some ("block", body), rest⟩
      | (none, rest) => return ⟨"function_signature_item", visible ++ [name], none, rest⟩
    | "const", name :: rest =>
      return ⟨"const_item", visible ++ [← nameNode? "identifier" name], none, rest⟩
    | "static", name :: rest =>
      match name.isWord "mut" || name.isWord "ref", rest with
      | true, name :: rest =>
        return ⟨"static_item", visible ++ [← nameNode? "identifier" name], none, rest⟩
      | _, _ => return ⟨"static_item", visible ++ [← nameNode? "identifier" name], none, rest⟩
    | "impl", rest =>
      let (body, rest) ← body? 0 rest
      return ⟨"impl_item", visible, some ("declaration_list", ← body), rest⟩
    | word, name :: rest =>
      let kind ← itemKind? word
      let name ← nameNode? kind.name name
      let (body, rest) ← body? 0 rest
      return ⟨kind.item, visible ++ [name], body.map (kind.body, ·), rest⟩
    | _, [] => none

/-- The items among some pieces. As many steps as there are tokens are enough. -/
def items : Nat → List Piece → List Branch
  | 0, _ => []
  | _, [] => []
  | steps + 1, piece :: rest =>
    match afterAttribute? (piece :: rest) with
    | some rest => items steps rest
    | none =>
      match afterMacro? (piece :: rest) with
      | some rest => items steps rest
      | none =>
        match item? (piece :: rest) with
        | some item =>
          let body := match item.body with
            | some (kind, .group _ start stop inner) => [.grow kind start stop (items steps inner)]
            | _ => []
          Piece.spanning item.kind (Piece.before (piece :: rest) item.rest) (item.header ++ body)
            ++ items steps item.rest
        | none =>
          match piece with
          | .group _ start stop inner =>
            .grow "block" start stop (items steps inner) :: items steps rest
          | .leaf _ => items steps rest

/-- The syntax tree of a file. -/
def tree (source : String) : SyntaxTree :=
  let tokens := lexicon.tokens source
  (Branch.grow "source_file" 0 source.utf8ByteSize
    (items (tokens.length + 1) (Piece.ofTokens tokens))).tree

/-- Paths of imports, and names of packages. -/
def imports : Query :=
  [{ shape := .of "use_declaration" [.inField "argument" (.named "source" .any)] },
    { shape := .of "extern_crate_declaration"
        [.inField "name" (.named "source" (.of "identifier" []))] }]

/-- An item with a visibility. -/
def visibleItem (kind nameKind declared : String) : Shape :=
  .named declared (.of kind [.of "visibility_modifier" [], .name nameKind])

/-- Items with a visibility. -/
def exports : Query :=
  [{ shape := visibleItem "function_item" "identifier" "function" },
    { shape := visibleItem "struct_item" "type_identifier" "struct" },
    { shape := visibleItem "enum_item" "type_identifier" "enum" },
    { shape := visibleItem "trait_item" "type_identifier" "trait" },
    { shape := visibleItem "type_item" "type_identifier" "type_alias" },
    { shape := visibleItem "const_item" "identifier" "constant" },
    { shape := visibleItem "static_item" "identifier" "constant" },
    { shape := visibleItem "mod_item" "identifier" "module" }]

/-- Functions with and without a body. -/
def functions : Query :=
  [{ shape := .declaring "function_item" "identifier" "function" },
    { shape := .declaring "function_signature_item" "identifier" "function" }]

/-- Whether an item stands at file level or directly in a module. -/
def isModuleLevel (place : Place) : Bool :=
  match place.parent? with
  | none => true
  | some parent =>
    parent.kind = "source_file"
      || (parent.kind = "declaration_list" && parent.parent?.any (·.kind = "mod_item"))

/-- Whether an item stands directly in an implementation or a trait. -/
def isMember (place : Place) : Bool :=
  match place.parent? with
  | none => false
  | some parent =>
    parent.kind = "declaration_list"
      && parent.parent?.any fun owner => owner.kind = "impl_item" || owner.kind = "trait_item"

end SourceFacts.Grammar.Rust

namespace SourceFacts.Grammar

/-- Rust. An item is exported if it is plainly public, at file level or directly in a module. A
function directly in an implementation or a trait is a method. -/
def rust : Grammar where
  name := "rust"
  extensions := ["rs"]
  engine := { tree := Rust.tree }
  imports := .valid Rust.imports
  exports := .valid Rust.exports
  functions := .valid Rust.functions
  isExported _ place source :=
    place.childText? "visibility_modifier" source = some "pub" && Rust.isModuleLevel place
  isMethod := Rust.isMember

end SourceFacts.Grammar

import SourceFacts.Fact
import SourceFacts.Syntax.Query

/-!
Grammars: what the program knows about a language. A grammar has an engine, which makes a tree of a text
and finds the matches of queries in it; a query for each kind of fact; and two tests of what no query can
say. `Grammar.extract` makes facts of what the queries match in a tree.
-/
namespace SourceFacts

/-- What reads the texts of a language. -/
structure Engine where
  /-- The tree of a text. -/
  tree : String → SyntaxTree
  /-- The matches of a query in the tree of a text. -/
  find : Query → SyntaxTree → String → List Captures := Query.find

/-- An engine finds exactly what a query matches, in any tree. -/
def Engine.Exact (engine : Engine) : Prop :=
  ∀ query tree source captures,
    captures ∈ engine.find query tree source ↔ query.Matches tree source captures

/-- A query as a grammar states it. -/
inductive QueryText where
  /-- There is none. -/
  | blank
  /-- It cannot be understood. -/
  | invalid
  | valid (query : Query)

/-- A language: its name, its file extensions, and how facts are had from its texts. -/
structure Grammar where
  name : String
  extensions : List String
  engine : Engine
  imports : QueryText
  exports : QueryText
  functions : QueryText
  /-- Whether a name that may be an export is one, by its declaration in a source text. -/
  isExported : String → Place → String → Bool := fun _ _ _ => true
  /-- Whether a plain function is a method of what encloses it. -/
  isMethod : Place → Bool := fun _ => false

namespace Grammar

/-- The line of a byte offset, counted from one. -/
def lineOf (text : String) (offset : Nat) : Nat :=
  Text.linesBefore text offset + 1

/-- The three quotation marks that module paths are written in. -/
def isQuote (c : Char) : Bool :=
  c = '"' || c = '\x27' || c = '\x60'

/-- A module path without the quotes at its ends. -/
def unquote (text : String) : String :=
  String.ofList ((text.toList.dropWhile isQuote).reverse.dropWhile isQuote).reverse

/-- The fact of a named node, if it is a module path that is not empty. -/
def importFact? (source : String) (capture : String × Place) : Option ImportFact :=
  let path := unquote (capture.2.text source)
  if capture.1 = "source" && !path.isEmpty then
    some ⟨path, lineOf source capture.2.start⟩
  else none

/-- What a match says of a declaration: its name, and its kind and place. -/
structure Declared (κ : Type) where
  name : Option String
  declaration : Option (κ × Place)

namespace Declared

variable {κ : Type}

/-- What one more named node says. It names the declaration, or it is the declaration if its name stands
for a kind. -/
def note (kind? : String → Place → Option κ) (source : String) (declared : Declared κ)
    (capture : String × Place) : Declared κ :=
  if capture.1 = "name" then { declared with name := some (capture.2.text source) }
  else match kind? capture.1 capture.2 with
    | some kind => { declared with declaration := some (kind, capture.2) }
    | none => declared

/-- What all named nodes of a match say; of several that say the same thing, the last one counts. -/
def ofCaptures (kind? : String → Place → Option κ) (source : String) (captures : Captures) :
    Declared κ :=
  captures.foldl (note kind? source) ⟨none, none⟩

end Declared

/-- The kind of an export by the name of its declaration in a query. -/
def exportKind? (name : String) (_ : Place) : Option ExportKind :=
  ExportKind.ofDeclaration? name

/-- The name that something is exported by. What is exported as the default may have none. -/
def exportName? (name : Option String) (kind : ExportKind) : Option String :=
  match name, kind with
  | some name, _ => some name
  | none, .default => some ExportKind.default.word
  | none, _ => none

/-- The fact of a match of the query for exports, if it is visible outside. -/
def exportFact? (grammar : Grammar) (source : String) (captures : Captures) : Option ExportFact := do
  let declared := Declared.ofCaptures exportKind? source captures
  let (kind, place) ← declared.declaration
  let name ← exportName? declared.name kind
  if grammar.isExported name place source then some ⟨name, kind, lineOf source place.start⟩ else none

/-- The kind of a function by the name of its declaration in a query. -/
def functionKind? (grammar : Grammar) (name : String) (place : Place) : Option FunctionKind :=
  match name with
  | "function" => some (if grammar.isMethod place then .method else .function)
  | "method" => some .method
  | "arrow" => some .arrow
  | _ => none

/-- The fact of a match of the query for functions. -/
def functionFact? (grammar : Grammar) (source : String) (captures : Captures) :
    Option FunctionFact := do
  let declared := Declared.ofCaptures grammar.functionKind? source captures
  let name ← declared.name
  let (kind, place) ← declared.declaration
  return ⟨name, kind, lineOf source place.start⟩

/-- The matches of a query in the tree of a text. A query that is missing or cannot be understood has
none. -/
def found (grammar : Grammar) (query : QueryText) (tree : SyntaxTree) (source : String) :
    List Captures :=
  match query with
  | .blank | .invalid => []
  | .valid query => grammar.engine.find query tree source

/-- The facts in a tree of a text, in canonical order. -/
def extract (grammar : Grammar) (tree : SyntaxTree) (source : String) : Facts :=
  Facts.normalize
    { imports := (grammar.found grammar.imports tree source).flatMap fun captures =>
        captures.filterMap (importFact? source)
      exports := (grammar.found grammar.exports tree source).filterMap (grammar.exportFact? source)
      functions :=
        (grammar.found grammar.functions tree source).filterMap (grammar.functionFact? source) }

/-- The facts of a source text. -/
def facts (grammar : Grammar) (source : String) : Facts :=
  grammar.extract (grammar.engine.tree source) source

end Grammar

end SourceFacts

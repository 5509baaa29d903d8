import SourceFacts.Text.Bytes

/-!
Facts about a source file: what it imports, what it exports and which functions it holds.
`Facts.normalize` puts them in their canonical order.
-/
namespace SourceFacts

/-- What an exported name stands for. -/
inductive ExportKind where
  | function
  | classDecl
  | interfaceDecl
  | typeDecl
  | enumDecl
  | binding
  | moduleDecl
  | default
  deriving DecidableEq, Repr, Inhabited

namespace ExportKind

/-- The word for a kind. -/
def word : ExportKind → String
  | function => "function"
  | classDecl => "class"
  | interfaceDecl => "interface"
  | typeDecl => "type"
  | enumDecl => "enum"
  | binding => "variable"
  | moduleDecl => "module"
  | default => "default"

/-- All kinds. -/
def all : List ExportKind :=
  [function, classDecl, interfaceDecl, typeDecl, enumDecl, binding, moduleDecl, default]

/-- The kind that a word stands for. -/
def ofWord? (word : String) : Option ExportKind :=
  all.find? fun kind => kind.word = word

/-- The kind of a declaration by the word that its language has for it. Several languages have words
of their own for the same kind. -/
def ofDeclaration? : String → Option ExportKind
  | "function" => some function
  | "class" | "struct" | "record" => some classDecl
  | "interface" | "trait" => some interfaceDecl
  | "type" | "type_alias" => some typeDecl
  | "enum" => some enumDecl
  | "variable" | "constant" => some binding
  | "module" => some moduleDecl
  | "default" => some default
  | _ => none

end ExportKind

/-- What kind of function a name stands for. -/
inductive FunctionKind where
  | function
  | method
  | arrow
  deriving DecidableEq, Repr, Inhabited

namespace FunctionKind

/-- The word for a kind. -/
def word : FunctionKind → String
  | function => "function"
  | method => "method"
  | arrow => "arrow"

/-- All kinds. -/
def all : List FunctionKind := [function, method, arrow]

/-- The kind that a word stands for. -/
def ofWord? (word : String) : Option FunctionKind :=
  all.find? fun kind => kind.word = word

end FunctionKind

/-- A module named as a source of names. Lines count from one. -/
structure ImportFact where
  source : String
  line : Nat
  deriving DecidableEq, Repr, Inhabited

/-- A name offered to other modules. -/
structure ExportFact where
  name : String
  kind : ExportKind
  line : Nat
  deriving DecidableEq, Repr, Inhabited

/-- A named function. -/
structure FunctionFact where
  name : String
  kind : FunctionKind
  line : Nat
  deriving DecidableEq, Repr, Inhabited

/-- A fact is ordered by its line, then by the bytes of its name. -/
structure FactKey where
  line : Nat
  name : List UInt8

namespace FactKey

/-- The order of keys. -/
def le (a b : FactKey) : Bool :=
  a.line < b.line || (a.line = b.line && decide (a.name ≤ b.name))

end FactKey

def ImportFact.key (fact : ImportFact) : FactKey := ⟨fact.line, Text.bytes fact.source⟩

def ExportFact.key (fact : ExportFact) : FactKey := ⟨fact.line, Text.bytes fact.name⟩

def FunctionFact.key (fact : FunctionFact) : FactKey := ⟨fact.line, Text.bytes fact.name⟩

/-- Drops every item that equals the one right before it. -/
def dropRepeats {α : Type} [DecidableEq α] : List α → List α
  | [] => []
  | [item] => [item]
  | item :: next :: rest =>
    if item = next then dropRepeats (next :: rest) else item :: dropRepeats (next :: rest)

/-- Sorts by a key, keeping the order of equal keys, and drops repeats. -/
def arrange {α : Type} [DecidableEq α] (key : α → FactKey) (items : List α) : List α :=
  dropRepeats (items.mergeSort fun a b => (key a).le (key b))

/-- All facts about one file. -/
structure Facts where
  imports : List ImportFact
  exports : List ExportFact
  functions : List FunctionFact
  deriving DecidableEq, Repr, Inhabited

namespace Facts

/-- No facts at all. -/
def empty : Facts := ⟨[], [], []⟩

/-- How many facts there are. -/
def count (facts : Facts) : Nat :=
  facts.imports.length + facts.exports.length + facts.functions.length

def isEmpty (facts : Facts) : Bool :=
  facts.imports.isEmpty && facts.exports.isEmpty && facts.functions.isEmpty

/-- Puts each list in order of line and name and drops repeats. -/
def normalize (facts : Facts) : Facts :=
  { imports := arrange ImportFact.key facts.imports
    exports := arrange ExportFact.key facts.exports
    functions := arrange FunctionFact.key facts.functions }

end Facts

end SourceFacts

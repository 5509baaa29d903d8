import SourceFacts.Edit
import SourceFacts.Error
import SourceFacts.Grammar

/-!
What the rest of the program asks of a language: to read a text, and to read it again after an edit.
Reading gives facts and may give a tree to keep; the tree is handed back, unseen, with the next
edit.
-/
namespace SourceFacts

/-- The facts of a text, and the tree to keep for its next edit. -/
structure Parsed (τ : Type) where
  facts : Facts
  tree : Option τ

/-- A way to read texts. The path only names the text. -/
structure Parser (τ : Type) where
  parse (content path : String) : Except Error (Parsed τ)
  reparse (content path : String) (previous : Option τ) (span : EditSpan) :
    Except Error (Parsed τ)

namespace Grammar

/-- Reads a text and keeps its tree. -/
def parsed (grammar : Grammar) (content : String) : Parsed SyntaxTree :=
  let tree := grammar.engine.tree content
  ⟨grammar.extract tree content, some tree⟩

/-- A grammar as a parser. The tree of a text does not depend on the texts before it, so an edited text
is read from its start. -/
def parser (grammar : Grammar) : Parser SyntaxTree where
  parse content _ := .ok (grammar.parsed content)
  reparse content _ _ _ := .ok (grammar.parsed content)

end Grammar

end SourceFacts

import SourceFacts.Grammar.Script
import SourceFacts.Grammar.Rust
import SourceFacts.Grammar.Python
import SourceFacts.Grammar.Go
import SourceFacts.Grammar.Java
import SourceFacts.Router

/-!
The languages that the program knows.
-/
namespace SourceFacts

/-- Every known grammar, in the order of registration. -/
def Grammar.all : List Grammar :=
  [.typescript, .tsx, .rust, .python, .go, .java]

/-- The router of every known grammar. -/
def Router.standard : Router Grammar :=
  Grammar.all.foldl (fun router grammar => router.register grammar.registration) .empty

end SourceFacts

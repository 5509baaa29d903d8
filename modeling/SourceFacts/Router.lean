import SourceFacts.Path
import SourceFacts.Text.Quoted
import SourceFacts.Grammar

/-!
Which reader takes a file. Readers are registered under a name and for some extensions; later
registrations win, both for a name and for an extension. An extension leads to a name, and the name
to what is registered under it now.
-/
namespace SourceFacts

/-- A reader with its name and its extensions. -/
structure Registration (α : Type) where
  name : String
  extensions : List String
  reader : α

/-- Registered readers: by name, and which name an extension leads to. Names and extensions keep the
order of their first registration. -/
structure Router (α : Type) where
  byName : List (String × Registration α)
  byExtension : List (String × String)

/-- Sets what a key leads to: in its place if it is there, else at the end. -/
def assign {β : Type} (key : String) (value : β) : List (String × β) → List (String × β)
  | [] => [(key, value)]
  | entry :: rest =>
    if entry.1 = key then (key, value) :: rest else entry :: assign key value rest

namespace Router

variable {α : Type}

/-- No readers. -/
def empty : Router α := ⟨[], []⟩

/-- Registers a reader. -/
def register (router : Router α) (registration : Registration α) : Router α :=
  { byName := assign registration.name registration router.byName
    byExtension := registration.extensions.foldl
      (fun table extension => assign (Path.lowerCase extension) registration.name table)
      router.byExtension }

/-- Forgets every reader. -/
def dispose (_ : Router α) : Router α := empty

/-- What is registered under a name. -/
def get? (router : Router α) (name : String) : Option (Registration α) :=
  router.byName.lookup name

/-- What takes files with an extension. -/
def forExtension? (router : Router α) (extension : String) : Option (Registration α) := do
  router.get? (← router.byExtension.lookup (Path.lowerCase extension))

/-- What takes the file at a path. -/
def forPath? (router : Router α) (path : String) : Option (Registration α) := do
  router.forExtension? (← Path.extension? path)

/-- Whether the file at a path is taken. -/
def supports (router : Router α) (path : String) : Bool :=
  (router.forPath? path).isSome

/-- The order of texts by their bytes, which is the order by code points. -/
def textLe (a b : String) : Bool := !decide (b < a)

/-- The extensions that lead somewhere, in order. -/
def extensions (router : Router α) : List String :=
  (router.byExtension.map Prod.fst).mergeSort textLe

/-- The registered names, in order. -/
def names (router : Router α) : List String :=
  (router.byName.map Prod.fst).mergeSort textLe

/-- The number of registered names. -/
def size (router : Router α) : Nat := router.byName.length

/-- A one-line description. -/
def describe (router : Router α) : String :=
  "LanguageRouter \x7b languages: [" ++ ", ".intercalate (router.names.map Text.quoted) ++ "] \x7d"

end Router

/-- A grammar as a registration. -/
def Grammar.registration (grammar : Grammar) : Registration Grammar :=
  ⟨grammar.name, grammar.extensions, grammar⟩

end SourceFacts

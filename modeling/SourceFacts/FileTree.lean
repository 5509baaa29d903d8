import SourceFacts.Path

/-!
Files as a value: directories, files and symbolic links. A file that is not text has none. Paths are
given by their components from the top; on the way links are followed.
-/
namespace SourceFacts

/-- Something that a directory holds. -/
inductive FileTree where
  | file (text : Option String)
  | directory (entries : List (String × FileTree))
  | link (target : String)
  deriving Inhabited

/-- Why a file cannot be used. -/
inductive FileError where
  | notFound
  | notDirectory
  | isDirectory
  | tooManyLinks
  | notText
  deriving DecidableEq, Repr, Inhabited

/-- How a failure is worded. -/
def FileError.message : FileError → String
  | notFound => "No such file or directory (os error 2)"
  | notDirectory => "Not a directory (os error 20)"
  | isDirectory => "Is a directory (os error 21)"
  | tooManyLinks => "Too many levels of symbolic links (os error 40)"
  | notText => "stream did not contain valid UTF-8"

namespace FileTree

/-- A directory without entries. -/
def empty : FileTree := directory []

/-- The entries of a directory; nothing else has any. -/
def entries : FileTree → List (String × FileTree)
  | directory entries => entries
  | _ => []

/-- Whether something is a directory. -/
def isDirectory : FileTree → Bool
  | directory _ => true
  | _ => false

/-- Sets an entry: in its place if it is there, else at the end. -/
def setEntry (name : String) (node : FileTree) :
    List (String × FileTree) → List (String × FileTree)
  | [] => [(name, node)]
  | entry :: rest =>
    if entry.1 = name then (name, node) :: rest else entry :: setEntry name node rest

/-- Puts something at a path, and makes the directories that lead to it. -/
def insert (node : FileTree) : List String → FileTree → FileTree
  | [], _ => node
  | name :: rest, tree =>
    let below := (tree.entries.lookup name).getD empty
    directory (setEntry name (insert node rest below) tree.entries)

/-- Makes a directory, unless there is one already. -/
def makeDirectory (tree : FileTree) : List String → FileTree
  | [] => directory tree.entries
  | name :: rest =>
    let below := (tree.entries.lookup name).getD empty
    directory (setEntry name (makeDirectory below rest) tree.entries)

/-- Takes away what is at a path. -/
def remove : List String → FileTree → FileTree
  | [], tree => tree
  | [name], tree => directory (tree.entries.filter (·.1 ≠ name))
  | name :: rest, tree =>
    match tree.entries.lookup name with
    | some below => directory (setEntry name (remove rest below) tree.entries)
    | none => tree

/-- What is at a path, without following links. -/
def node? : List String → FileTree → Option FileTree
  | [], tree => some tree
  | name :: rest, tree => (tree.entries.lookup name).bind (node? rest)

/-- How many links may lead to a file. -/
def maxLinks : Nat := 40

/-- The place that a path leads to when every link on the way is followed. `here` is where the walk
stands, and the number bounds its steps. -/
def resolveFrom (tree : FileTree) : Nat → Nat → List String → List String →
    Except FileError (List String)
  | 0, _, _, _ => .error .tooManyLinks
  | _ + 1, _, here, [] => .ok here
  | steps + 1, links, here, name :: rest =>
    match tree.node? here with
    | some (directory entries) =>
      if name = "" || name = "." then resolveFrom tree steps links here rest
      else if name = ".." then resolveFrom tree steps links here.dropLast rest
      else
        match entries.lookup name with
        | none => .error .notFound
        | some (link target) =>
          match links with
          | 0 => .error .tooManyLinks
          | links + 1 =>
            let start := if target.toList.head? = some '/' then [] else here
            resolveFrom tree steps links start (Path.parts target ++ rest)
        | some _ => resolveFrom tree steps links (here ++ [name]) rest
    | some _ => .error .notDirectory
    | none => .error .notFound

/-- The place that a path leads to. -/
def resolve (tree : FileTree) (path : List String) : Except FileError (List String) :=
  resolveFrom tree (100000 + path.length) maxLinks [] path

/-- What a path leads to. -/
def find (tree : FileTree) (path : List String) : Except FileError FileTree := do
  match tree.node? (← tree.resolve path) with
  | some node => .ok node
  | none => .error .notFound

/-- Whether a path ends in a link. -/
def isLink (tree : FileTree) (path : List String) : Bool :=
  match tree.resolve path.dropLast, path.getLast? with
  | .ok place, some name =>
    match tree.node? (place ++ [name]) with
    | some (link _) => true
    | _ => false
  | _, _ => false

/-- Whether a path leads to a file. -/
def isFile (tree : FileTree) (path : List String) : Bool :=
  match tree.find path with
  | .ok (file _) => true
  | _ => false

/-- Whether a path leads anywhere. -/
def exists? (tree : FileTree) (path : List String) : Bool :=
  match tree.find path with
  | .ok _ => true
  | .error _ => false

/-- The text of the file that a path leads to. -/
def readText (tree : FileTree) (path : List String) : Except FileError String := do
  match ← tree.find path with
  | file (some text) => .ok text
  | file none => .error .notText
  | directory _ => .error .isDirectory
  | link _ => .error .notFound

end FileTree

end SourceFacts

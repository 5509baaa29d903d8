import SourceFacts.FileTree
import SourceFacts.Ignore
import SourceFacts.Router

/-!
Listing the files below a directory that some reader takes. Hidden files and what ignore files leave
out are not listed; links are neither listed nor followed. The directory itself is never left out.
-/
namespace SourceFacts.Walk

/-- The rules of the ignore files in a directory. -/
def rulesOf (tree : FileTree) (directory : List String) : DirectoryRules :=
  let read (path : List String) : List IgnoreRule :=
    match tree.readText (directory ++ path) with
    | .ok text => IgnoreRule.ofText text
    | .error _ => []
  { base := directory
    ignore := read [".ignore"]
    gitIgnore := read [".gitignore"]
    gitExclude := read [".git", "info", "exclude"] }

/-- The rules of the directories above one, innermost first. -/
def rulesAbove (tree : FileTree) (directory : List String) : List DirectoryRules :=
  (List.range directory.length).reverse.map fun length => rulesOf tree (directory.take length)

/-- Whether a name is hidden. -/
def isHidden (name : String) : Bool := name.toList.head? = some '.'

/-- Whether an entry of a directory is left out. A hidden one is, unless rules let it in. -/
def isLeftOut (rules : List DirectoryRules) (path : List String) (name : String)
    (isDirectory : Bool) : Bool :=
  match judge? rules path isDirectory with
  | some .ignored => true
  | some .admitted => false
  | none => isHidden name

mutual

/-- The files in a part of a tree that is not left out, as components below the start. `place` is
where the part stands, `below` is the same below the start. -/
def filesOf (tree : FileTree) (rules : List DirectoryRules) (place below : List String) :
    FileTree → List (List String)
  | .file _ => [below]
  | .link _ => []
  | .directory entries => filesIn tree (rulesOf tree place :: rules) place below entries

/-- The files in the entries of a directory. -/
def filesIn (tree : FileTree) (rules : List DirectoryRules) (place below : List String) :
    List (String × FileTree) → List (List String)
  | [] => []
  | (name, node) :: rest =>
    let here := if isLeftOut rules (place ++ [name]) name node.isDirectory then []
      else filesOf tree rules (place ++ [name]) (below ++ [name]) node
    here ++ filesIn tree rules place below rest

end

/-- Whether a path comes before another one or is the same, by the first component that differs. -/
def isBefore (first second : List String) : Bool :=
  !second.lex first fun left right => decide (left < right)

/-- The files below a path, in order of their components. The path may be a link to a directory, but
not to a file. -/
def list (tree : FileTree) (path : List String) : List (List String) :=
  match tree.resolve path with
  | .error _ => []
  | .ok place =>
    match tree.node? place with
    | none => []
    | some node =>
      if tree.isLink path && !node.isDirectory then []
      else (filesOf tree (rulesAbove tree place) place [] node).mergeSort isBefore

/-- The files below a path that a router has a reader for, each by the path as given. -/
def files {α : Type} (tree : FileTree) (router : Router α) (current : List String) (root : String) :
    List String :=
  let found := list tree (current ++ Path.parts root)
  (found.map fun below => below.foldl Path.join root).filter router.supports

end SourceFacts.Walk

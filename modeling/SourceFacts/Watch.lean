import SourceFacts.Error
import SourceFacts.FileTree

/-!
Changes to files and what a watcher tells about them. Several changes at once are told by what is
there in the end, each path once: a file is modified, what is gone is deleted, and directories are
passed over.
-/
namespace SourceFacts

/-- A change to files. -/
inductive FileChange where
  | write (path : List String) (text : String)
  | delete (path : List String)
  | rename (path target : List String)
  | makeDirectory (path : List String)
  deriving DecidableEq, Repr, Inhabited

/-- What is told about a path. -/
inductive FileEvent where
  | modified
  | deleted
  deriving DecidableEq, Repr, Inhabited

/-- The word for an event. -/
def FileEvent.word : FileEvent → String
  | modified => "modified"
  | deleted => "deleted"

mutual

/-- Every path below a place, and the place itself. -/
def FileTree.places (place : List String) : FileTree → List (List String)
  | .directory entries => place :: placesIn place entries
  | _ => [place]

/-- Every path below the entries of a directory. -/
def placesIn (place : List String) : List (String × FileTree) → List (List String)
  | [] => []
  | (name, node) :: rest => node.places (place ++ [name]) ++ placesIn place rest

/-- The files at and below a place, with their texts. -/
def FileTree.texts (place : List String) : FileTree → List (List String × Option String)
  | .directory entries => textsIn place entries
  | .file text => [(place, text)]
  | .link _ => []

/-- The files below the entries of a directory, with their texts. -/
def textsIn (place : List String) : List (String × FileTree) → List (List String × Option String)
  | [] => []
  | (name, node) :: rest => node.texts (place ++ [name]) ++ textsIn place rest

end

namespace FileChange

/-- Carries a change out. -/
def apply (tree : FileTree) : FileChange → FileTree
  | write path text => FileTree.insert (.file (some text)) path tree
  | delete path => tree.remove path
  | rename path target =>
    match tree.node? path with
    | some node => FileTree.insert node target (tree.remove path)
    | none => tree
  | makeDirectory path => tree.makeDirectory path

/-- The paths that a change touches. With a directory goes all that is in it. -/
def touched (tree : FileTree) : FileChange → List (List String)
  | write path _ => [path]
  | delete path => ((tree.node? path).map (·.places path)).getD [path]
  | rename path target => [path, target]
  | makeDirectory path => [path]

/-- Carries changes out one after the other, and collects the paths that they touch. -/
def applyAll (tree : FileTree) : List FileChange → FileTree × List (List String)
  | [] => (tree, [])
  | change :: rest =>
    let (final, paths) := applyAll (change.apply tree) rest
    (final, change.touched tree ++ paths)

end FileChange

namespace Watch

/-- What is told about a path in the end. -/
def eventOf? (tree : FileTree) (path : List String) : Option FileEvent :=
  if tree.isFile path then some .modified
  else if tree.exists? path then none
  else some .deleted

/-- What a watcher on a directory tells about changes made at once. A directory that is not there
cannot be watched. -/
def events (tree : FileTree) (root : List String) (changes : List FileChange) :
    Except Error (List (List String × FileEvent)) :=
  match tree.resolve root with
  | .error error => .error (.watcher error.message)
  | .ok root =>
    let (final, paths) := FileChange.applyAll tree changes
    let below := paths.eraseDups.filter fun path =>
      root.isPrefixOf path && root.length < path.length
    let sorted := below.mergeSort fun a b => decide ("/".intercalate a ≤ "/".intercalate b)
    .ok (sorted.filterMap fun path => (eventOf? final path).map (path, ·))

/-- What has changed between two looks at the same files. -/
def compare (old new : List (List String × Option String)) : List (List String × FileEvent) :=
  let modified := new.filter fun (path, text) => old.lookup path ≠ some text
  let deleted := old.filter fun (path, _) => (new.lookup path).isNone
  modified.map (fun (path, _) => (path, .modified)) ++ deleted.map fun (path, _) => (path, .deleted)

end Watch

end SourceFacts

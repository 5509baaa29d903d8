/-!
Paths. A path is a text; only the slash separates its components, and empty components and single
dots between slashes do not count.
-/
namespace SourceFacts.Path

/-- The parts between slashes, as written. -/
def parts (path : String) : List String :=
  (path.toList.splitOn '/').map String.ofList

/-- The components that lead somewhere. -/
def components (path : String) : List String :=
  (parts path).filter fun part => part ≠ "" && part ≠ "."

/-- The last component, unless it leads upwards. -/
def fileName? (path : String) : Option String :=
  (components path).getLast?.filter (· ≠ "..")

/-- What stands behind the last dot of a name. A name without a dot has none, nor has one whose only
dot comes first. -/
def nameExtension? (name : String) : Option String :=
  let chars := name.toList.reverse
  let behind := chars.takeWhile (· ≠ '.')
  match chars.drop behind.length with
  | '.' :: _ :: _ => some (String.ofList behind.reverse)
  | _ => none

/-- The extension of a path. -/
def extension? (path : String) : Option String :=
  (fileName? path).bind nameExtension?

/-- Letters in lower case; only ASCII letters have one. -/
def lowerCase (text : String) : String :=
  String.ofList (text.toList.map Char.toLower)

/-- A path below a directory. -/
def join (directory name : String) : String :=
  if directory.isEmpty then name
  else if directory.toList.getLast? = some '/' then directory ++ name
  else directory ++ "/" ++ name

end SourceFacts.Path

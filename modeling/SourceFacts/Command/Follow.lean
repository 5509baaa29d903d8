import SourceFacts.Command.Stats
import SourceFacts.Watch

/-!
The `watch` command: every file below a directory is read once, and then again whenever it changes.
Files go by their full paths.
-/
namespace SourceFacts.Command

/-- Where a watch stands: the directory, and the coordinator that has read its files. -/
structure Following where
  root : List String
  coordinator : Coordinator SyntaxTree

/-- A path from the top. -/
def fullPath (place : List String) : String := "/" ++ "/".intercalate place

/-- Begins a watch over a directory: reads its files. -/
def follow (world : World) (root : String) (config : Option String) :
    Except Error (Report × Following) := do
  let config ← loadConfig world root config
  match world.tree.resolve (world.place root) with
  | .error error => .error (.io error.message)
  | .ok place =>
    let files := Walk.files world.tree Router.standard [] (fullPath place)
    let (coordinator, errors) := pass world (.new config.parser) files
    let lines := ["Parsed " ++ toString files.length ++ " files", "Watching for changes..."]
    return (⟨0, lines.map .plain, errors⟩, ⟨place, coordinator⟩)

/-- The word for how a file was read. -/
def routeWord : Route → String
  | .cached => "unchanged"
  | .incremental => "incremental"
  | .full => "full"

/-- The line about a file that has changed. -/
def updateLine (path : String) (outcome : Outcome) (elapsed : Float) : String :=
  "Updated " ++ path ++ " (" ++ routeWord outcome.route ++ ", " ++ Decimal.fixed 2 elapsed
    ++ "ms): " ++ toString outcome.facts.imports.length ++ " imports, "
    ++ toString outcome.facts.exports.length ++ " exports, "
    ++ toString outcome.facts.functions.length ++ " functions"

/-- What is written about a change, and where the watch stands after it. -/
def Following.update (following : Following) (world : World) (elapsed : Float)
    (place : List String) : FileEvent → Report × Following
  | .modified =>
    let path := fullPath place
    match parseOne world following.coordinator path with
    | (.ok (some outcome), coordinator) =>
      (⟨0, [.plain (updateLine path outcome elapsed)], []⟩, { following with coordinator })
    | (.ok none, coordinator) => (⟨0, [], []⟩, { following with coordinator })
    | (.error error, coordinator) =>
      (⟨0, [], [parseErrorLine path error]⟩, { following with coordinator })
  | .deleted =>
    let path := fullPath place
    if following.coordinator.isCached path then
      (⟨0, [.plain ("Removed " ++ path)], []⟩,
        { following with coordinator := following.coordinator.invalidate [path] })
    else (⟨0, [], []⟩, following)

end SourceFacts.Command

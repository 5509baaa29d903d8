import SourceFacts.Command.World
import SourceFacts.Coordinator
import SourceFacts.Json.Printer
import SourceFacts.Language
import SourceFacts.Walk

/-!
The `stats` command: every file below a directory is read twice through one coordinator, first with
empty caches and then with what the first pass left in them.
-/
namespace SourceFacts.Command

/-- Reads one file through a coordinator. A file that no grammar takes is passed over. -/
def parseOne (world : World) (coordinator : Coordinator SyntaxTree) (path : String) :
    Except Error (Option Outcome) × Coordinator SyntaxTree :=
  match Router.standard.forPath? path with
  | none => (.ok none, coordinator)
  | some registration =>
    match world.readText path with
    | .error error => (.error error, coordinator)
    | .ok content =>
      let answered := coordinator.parse Digest.ofText registration.reader.parser path content
      (answered.outcome.map some, answered.state)

/-- What is said about a file that could not be read. -/
def parseErrorLine (path : String) (error : Error) : String :=
  "Error parsing " ++ path ++ ": " ++ error.message

/-- Reads files one after the other through a coordinator. -/
def pass (world : World) : Coordinator SyntaxTree → List String → Coordinator SyntaxTree × List String
  | coordinator, [] => (coordinator, [])
  | coordinator, path :: rest =>
    let (outcome, coordinator) := parseOne world coordinator path
    let (coordinator, errors) := pass world coordinator rest
    (coordinator, match outcome with
      | .ok _ => errors
      | .error error => parseErrorLine path error :: errors)

/-- The counts of a cache as a structured value. -/
def cacheJson (stats : TreeCache.Stats) : Json :=
  .object [("hits", .nat stats.hits), ("misses", .nat stats.misses),
    ("evictions", .nat stats.evictions), ("size", .nat stats.size),
    ("max_trees", .nat stats.capacity)]

/-- The counts of a coordinator as a structured value. -/
def statsJson (stats : Coordinator.Stats) : Json :=
  .object [("tree_cache", cacheJson stats.treeCache),
    ("incremental_parses", .nat stats.incrementalParses),
    ("full_parses", .nat stats.fullParses), ("cached_parses", .nat stats.cachedParses),
    ("total_incremental_ms", .float stats.incrementalTime),
    ("total_full_ms", .float stats.fullTime),
    ("content_cache_size", .nat stats.contentCount)]

/-- The counts of a coordinator as lines. -/
def statsLines (fileCount : Nat) (stats : Coordinator.Stats) : List String :=
  ["Files:               " ++ toString fileCount,
    "Full parses:         " ++ toString stats.fullParses,
    "Incremental parses:  " ++ toString stats.incrementalParses,
    "Cached parses:       " ++ toString stats.cachedParses,
    "Avg full parse:      " ++ Decimal.fixed 2 stats.averageFull ++ "ms",
    "Avg incremental:     " ++ Decimal.fixed 2 stats.averageIncremental ++ "ms",
    "Tree cache:          " ++ toString stats.treeCache.size ++ "/"
      ++ toString stats.treeCache.capacity ++ " trees, "
      ++ Decimal.fixed 1 (stats.treeCache.hitRate * 100) ++ "% hit rate, "
      ++ toString stats.treeCache.evictions ++ " evictions"]

/-- What two passes over a directory leave. -/
structure Scan where
  fileCount : Nat
  coordinator : Coordinator SyntaxTree
  errors : List String

/-- Reads files twice through one coordinator. -/
def scan (world : World) (options : CoordinatorOptions) (files : List String) : Scan :=
  let (coordinator, cold) := pass world (.new options) files
  let (coordinator, warm) := pass world coordinator files
  ⟨files.length, coordinator, cold ++ warm⟩

/-- Reads every file below a directory twice. -/
def scanBelow (world : World) (root : String) (config : Option String) : Except Error Scan := do
  let config ← loadConfig world root config
  return scan world config.parser (Walk.files world.tree Router.standard world.current root)

/-- What is written about a scan. -/
def Scan.report (scan : Scan) (json : Bool) : Report :=
  let stats := scan.coordinator.stats
  let lines := if json then [(statsJson stats).pretty] else statsLines scan.fileCount stats
  ⟨0, lines.map .plain, scan.errors⟩

end SourceFacts.Command

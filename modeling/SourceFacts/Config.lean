import SourceFacts.Coordinator
import SourceFacts.Pool.Options
import SourceFacts.Record
import SourceFacts.Text.Blank
import SourceFacts.Text.Quoted
import SourceFacts.Toml

/-!
Settings: what a settings file may say, and which of it can be overridden from outside. Every
setting has a default.
-/
namespace SourceFacts

/-- Settings of the worker pool. Without a size the number of processors decides. -/
structure PoolConfig where
  poolSize : Option Nat := none
  minBatch : Nat := defaultMinBatch
  timeoutMs : Nat := defaultTimeout
  logMetrics : Bool := false
  deriving DecidableEq, Repr, Inhabited

/-- All settings. -/
structure Config where
  parser : CoordinatorOptions := {}
  pool : PoolConfig := {}
  deriving DecidableEq, Repr, Inhabited

/-- The options of a pool with these settings, where no size is given of a given size. It has room
for at least one worker. -/
def PoolConfig.toOptions (config : PoolConfig) (defaultSize : Nat) : PoolOptions :=
  { poolSize := max 1 (config.poolSize.getD defaultSize)
    minBatch := config.minBatch
    timeout := .ofMillis config.timeoutMs
    metrics := config.logMetrics }

namespace CoordinatorOptions

def toJson (options : CoordinatorOptions) : Json :=
  .object [("max_trees", .nat options.maxTrees), ("cache_content", .bool options.cacheContent)]

def ofJson? (json : Json) : Option CoordinatorOptions := do
  let default : CoordinatorOptions := {}
  match ← json.optionalComponents? ["max_trees", "cache_content"] with
  | [maxTrees, cacheContent] =>
    return ⟨← Json.withDefault default.maxTrees readWord maxTrees,
      ← Json.withDefault default.cacheContent Json.toBool? cacheContent⟩
  | _ => none

end CoordinatorOptions

namespace PoolConfig

def toJson (config : PoolConfig) : Json :=
  .object [("pool_size", .ofOption .nat config.poolSize),
    ("min_batch_for_workers", .nat config.minBatch),
    ("worker_timeout_ms", .nat config.timeoutMs), ("log_metrics", .bool config.logMetrics)]

def ofJson? (json : Json) : Option PoolConfig := do
  let default : PoolConfig := {}
  match ← json.optionalComponents? ["pool_size", "min_batch_for_workers", "worker_timeout_ms",
      "log_metrics"] with
  | [poolSize, minBatch, timeoutMs, logMetrics] =>
    return ⟨← Json.withDefault default.poolSize (Json.nullable readWord) poolSize,
      ← Json.withDefault default.minBatch readWord minBatch,
      ← Json.withDefault default.timeoutMs readWord timeoutMs,
      ← Json.withDefault default.logMetrics Json.toBool? logMetrics⟩
  | _ => none

end PoolConfig

namespace Config

def toJson (config : Config) : Json :=
  .object [("parser", config.parser.toJson), ("pool", config.pool.toJson)]

def ofJson? (json : Json) : Option Config := do
  let default : Config := {}
  match ← json.optionalComponents? ["parser", "pool"] with
  | [parser, pool] =>
    return ⟨← Json.withDefault default.parser CoordinatorOptions.ofJson? parser,
      ← Json.withDefault default.pool PoolConfig.ofJson? pool⟩
  | _ => none

/-- Cuts an array to a length. -/
def cut (length : Nat) : Json → Json
  | .array items => .array (items.take length)
  | json => json

/-- In a settings file a section may be written as an array, and items past its last setting are
passed over. -/
def cutSections : Json → Json
  | .object fields =>
    .object (fields.map fun (name, json) =>
      if name = "parser" then (name, cut 2 json)
      else if name = "pool" then (name, cut 4 json)
      else (name, json))
  | json => json

/-- The settings that a settings file makes. -/
def ofText? (text : String) : Option Config :=
  (Toml.read? text).bind fun json => ofJson? (cutSections json)

/-- What is said about a settings file that cannot be read. -/
def malformed : String := "TOML parse error"

/-- The settings of a text. -/
def ofText (text : String) : Except Error Config :=
  match ofText? text with
  | some config => .ok config
  | none => .error (.config malformed)

/-- The settings of a file, whose path is told if it cannot be read. -/
def ofFile (path text : String) : Except Error Config :=
  match ofText? text with
  | some config => .ok config
  | none => .error (.config (path ++ ": " ++ malformed))

/-- The name of the settings file of a directory. -/
def fileName : String := ".code-facts.toml"

/-- The variable that overrides the size of the pool. -/
def poolSizeVariable : String := "CODE_FACTS_POOL_SIZE"

/-- The variable that overrides the number of trees. -/
def maxTreesVariable : String := "CODE_FACTS_MAX_TREES"

/-- Leaves out a leading plus sign. -/
def dropPlus : List Char → List Char
  | '+' :: rest => rest
  | chars => chars

/-- The count that a text stands for: decimal digits, perhaps behind a plus sign, that make a 64-bit
number; blanks around it do not matter. -/
def count? (text : String) : Option Nat :=
  let digits := dropPlus (Text.trim text).toList
  if digits.isEmpty || !digits.all Char.isDigit then none
  else
    let value := digits.foldl (fun value c => value * 10 + (c.toNat - 48)) 0
    if value < wordBound then some value else none

/-- The count that a variable is set to. -/
def countOf (name text : String) : Except Error Nat :=
  match count? text with
  | some value => .ok value
  | none => .error (.config (name ++ " must be a non-negative integer, got " ++ Text.quoted text))

/-- Overrides one setting, if its variable is set. -/
def override (name : String) (lookup : String → Option String) (change : Nat → Config → Config)
    (config : Config) : Except Error Config :=
  match lookup name with
  | none => .ok config
  | some text => do return change (← countOf name text) config

/-- Applies what is set from outside. A variable that is not a count stops it; what was applied
before stays. -/
def applyOverrides (lookup : String → Option String) (config : Config) :
    Config × Option Error :=
  let setPoolSize (size : Nat) (config : Config) : Config :=
    { config with pool := { config.pool with poolSize := some size } }
  let setMaxTrees (count : Nat) (config : Config) : Config :=
    { config with parser := { config.parser with maxTrees := count } }
  match override poolSizeVariable lookup setPoolSize config with
  | .error error => (config, some error)
  | .ok config =>
    match override maxTreesVariable lookup setMaxTrees config with
    | .error error => (config, some error)
    | .ok config => (config, none)

end Config

end SourceFacts

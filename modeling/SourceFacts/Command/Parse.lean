import SourceFacts.Command.Log
import SourceFacts.Json.Printer
import SourceFacts.Language
import SourceFacts.Pool
import SourceFacts.Progress
import SourceFacts.Walk

/-!
The `parse` command: every file below a directory is read by a pool, a batch at a time, and the
results are written in the order of the files.
-/
namespace SourceFacts.Command

/-- The size of a pool on so many processors. -/
def defaultPoolSize (processors : Nat) : Nat := max 1 (processors - 1)

/-- Files handed to the pool at a time. -/
def batchSize : Nat := 256

/-- The router of every known grammar, for the pool. -/
def readers : Router Reader :=
  Grammar.all.foldl
    (fun router grammar => router.register ⟨grammar.name, grammar.extensions, grammar.reader⟩)
    .empty

/-- Building the readers never fails. -/
def buildReaders : RouterFactory := fun _ => .done readers

/-- The tasks for the files that can be read, and what is said about the others. -/
def tasksOf (world : World) : List String → List Task × List String
  | [] => ([], [])
  | path :: rest =>
    let (tasks, errors) := tasksOf world rest
    match world.tree.readText (world.place path) with
    | .ok content => (⟨path, content, none⟩ :: tasks, errors)
    | .error error => (tasks, ("Error reading " ++ path ++ ": " ++ error.message) :: errors)

/-- What a pool delivers over a run: the results, and the batches they came in. -/
structure Delivery where
  results : List TaskResult
  batches : List Pool.Batch
  deriving Inhabited

/-- Hands tasks to a pool, a batch at a time, each under circumstances of its own. The number bounds
how many batches there are. A crash that leaves the pool ends the run. -/
def feed (factory : RouterFactory) :
    (Nat → Circumstances) → Nat → Pool → List Task → Attempt (Except Error Delivery)
  | _, 0, _, _ => .done (.ok ⟨[], []⟩)
  | around, rounds + 1, pool, tasks =>
    if tasks.isEmpty then .done (.ok ⟨[], []⟩)
    else
      match pool.parseFiles factory (around 0) (tasks.take batchSize) with
      | (.done (.ok batch), pool) =>
        let later number := around (number + 1)
        (feed factory later rounds pool (tasks.drop batchSize)).map fun more => do
          let more ← more
          return ⟨batch.results ++ more.results, batch :: more.batches⟩
      | (.done (.error error), _) => .done (.error error)
      | (.crash message, _) => .crash message

/-- Reads tasks with a pool of their own. -/
def deliver (factory : RouterFactory) (around : Nat → Circumstances) (options : PoolOptions)
    (tasks : List Task) : Attempt (Except Error Delivery) :=
  feed factory around tasks.length (.new options) tasks

/-- Counts the results of a run. -/
def progressOf (results : List TaskResult) : Progress :=
  (results.foldl Progress.record (Progress.new.start results.length)).finish

/-- What is logged about a batch. Only what the level lets through is written. -/
def logLines (level : LogLevel) (metrics : Bool) (elapsed : Float) (batch : Pool.Batch) :
    List Line :=
  let warnings := if LogLevel.warning.rank ≤ level.rank then batch.warnings.map Line.warning else []
  let report := match batch.metrics with
    | some report =>
      if metrics && LogLevel.info.rank ≤ level.rank then
        [Line.info (report.describe (Decimal.fixed 1 elapsed))]
      else []
    | none => []
  warnings ++ report

/-- The line about one result. -/
def resultLine (result : TaskResult) : String :=
  match result.error with
  | some error => result.path ++ "  error: " ++ error
  | none =>
    result.path ++ "  imports=" ++ toString result.facts.imports.length
      ++ " exports=" ++ toString result.facts.exports.length
      ++ " functions=" ++ toString result.facts.functions.length

/-- The line that sums a run up. -/
def summaryLine (progress : Progress) (elapsed : Nat) : String :=
  "Extracted " ++ toString progress.facts ++ " facts from " ++ toString progress.done ++ " files ("
    ++ toString progress.failed ++ " errors) in " ++ toString elapsed ++ "ms"

/-- What comes of a run: how many files there were, what could not be read, and the rest. -/
structure Run where
  fileCount : Nat
  unread : List String
  delivery : Delivery
  logMetrics : Bool
  level : LogLevel
  deriving Inhabited

/-- Reads every file below a directory. Each batch finds the clock at another moment. -/
def parseBelow (world : World) (clock : Nat → Clock) (root : String) (config : Option String) :
    Attempt (Except Error Run) :=
  match loadConfig world root config with
  | .error error => .done (.error error)
  | .ok config =>
    let files := Walk.files world.tree readers world.current root
    let (tasks, unread) := tasksOf world files
    let options := config.pool.toOptions (defaultPoolSize world.processors)
    (deliver buildReaders (fun number => .calm (clock number)) options tasks).map fun delivery => do
      return ⟨files.length, unread, ← delivery, config.pool.logMetrics, world.logLevel⟩

/-- What is written about a run that took so many milliseconds. -/
def Run.report (run : Run) (elapsed : Float) (json : Bool) : Report :=
  let results := run.delivery.results
  let found := [.plain ("Found " ++ toString run.fileCount ++ " files to parse")]
  let logged := run.delivery.batches.flatMap (logLines run.level run.logMetrics elapsed)
  let summary := .plain (summaryLine (progressOf results) elapsed.toUInt64.toNat)
  let output :=
    if json then logged ++ [.plain (Json.ofList TaskResult.toJson results).pretty]
    else found ++ logged ++ results.map (.plain <| resultLine ·) ++ [summary]
  ⟨0, output, run.unread⟩

end SourceFacts.Command

import SourceFacts.Time

/-!
How a pool of workers is set up, and how that is described in a line.
-/
namespace SourceFacts

/-- Smaller batches are not worth sharing out. -/
def defaultMinBatch : Nat := 10

/-- How long a chunk may take, in milliseconds. -/
def defaultTimeout : Nat := 30000

/-- The size of a pool, the least batch that is shared out, how long a chunk may take, and whether
batches are reported. -/
structure PoolOptions where
  poolSize : Nat
  minBatch : Nat := defaultMinBatch
  timeout : Duration := .ofMillis defaultTimeout
  metrics : Bool := false
  deriving DecidableEq, Repr

/-- A one-line description. -/
def PoolOptions.describe (options : PoolOptions) : String :=
  "WorkerPoolOptions \x7b pool_size: " ++ toString options.poolSize ++ ", min_batch_for_workers: "
    ++ toString options.minBatch ++ ", timeout: " ++ options.timeout.text
    ++ ", metrics: " ++ (if options.metrics then "true" else "false") ++ " \x7d"

end SourceFacts

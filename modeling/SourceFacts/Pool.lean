import SourceFacts.Pool.Options
import SourceFacts.Task

/-!
A pool of workers. A small batch is read by the caller; a larger one is split into chunks, one for
each worker, and the results are put together in the order of the chunks. Workers run at the same
time, so everything that the pool counts is changed in single steps, which may follow one another in
any order; `Pool.parseFiles` takes them in the order of the chunks.
-/
namespace SourceFacts

/-- A pool: its options, the router for small batches once it is built, and what is counted. -/
structure Pool where
  options : PoolOptions
  inlineRouter : Option (Router Reader)
  /-- How often a router was asked for. -/
  routersBuilt : Nat
  disposed : Bool
  activeWorkers : Nat
  queuedTasks : Nat
  workersSpawned : Nat
  batchesInline : Nat
  batchesDispatched : Nat

/-- Builds a router; told how many were built before. -/
abbrev RouterFactory := Nat → Attempt (Router Reader)

/-- What a worker is up to. -/
inductive WorkerState where
  | starting
  | running (router : Router Reader)
  | ended
  | crashed (message : Option String)
  deriving Inhabited

/-- A worker with its chunk: the results it has, in order, and the tasks it has not finished. -/
structure Worker where
  paths : List String
  finished : List TaskResult
  remaining : List Task
  state : WorkerState
  deriving Inhabited

/-- What befalls a chunk from outside. -/
inductive Fate where
  /-- Nothing. -/
  | undisturbed
  /-- The pool is shut down before the task with this number. -/
  | cancelled (before : Nat)
  /-- The caller gives up waiting before the task with this number is begun. -/
  | timedOut (before : Nat)
  /-- The worker ends without a word. -/
  | lost
  /-- There never is a worker. -/
  | notStarted (reason : Option String)
  deriving DecidableEq, Repr, Inhabited

/-- What befalls a chunk that nobody waits for: nobody gives up waiting for it either. -/
def Fate.unawaited : Fate → Fate
  | .timedOut _ => .undisturbed
  | fate => fate

/-- A report on a batch. No chunks means that the caller read it. -/
structure BatchMetrics where
  taskCount : Nat
  errorCount : Nat
  chunks : Nat
  deriving DecidableEq, Repr, Inhabited

/-- Whether the caller read the batch. -/
def BatchMetrics.isInline (metrics : BatchMetrics) : Bool := metrics.chunks = 0

/-- The line that reports a batch and the time it took. -/
def BatchMetrics.describe (metrics : BatchMetrics) (elapsed : String) : String :=
  "Parsed " ++ toString metrics.taskCount ++ " files (" ++ toString metrics.errorCount
    ++ " errors, " ++ (if metrics.isInline then "inline" else "dispatched") ++ ", "
    ++ toString metrics.chunks ++ " chunks) in " ++ elapsed ++ "ms"

/-- What a call meets with: the clock, what befalls each chunk, and what becomes of a report that is
handed over. -/
structure Circumstances where
  clock : Clock
  fates : Nat → Fate
  record : BatchMetrics → Attempt Unit

/-- Nothing befalls any chunk, and reports are heard. -/
def Circumstances.calm (clock : Clock) : Circumstances :=
  ⟨clock, fun _ => .undisturbed, fun _ => .done ()⟩

/-- What one of several places gets of a number of items: the quotient, and one more for the first
places while the remainder lasts. -/
def shareOf (total count place : Nat) : Nat :=
  total / count + if place < total % count then 1 else 0

/-- Takes runs of these sizes off a list, one after the other. -/
def takeRuns {α : Type} : List Nat → List α → List (List α)
  | [], _ => []
  | size :: sizes, items => items.take size :: takeRuns sizes (items.drop size)

/-- Splits a list into a number of runs whose sizes differ by one at most, longer ones first. -/
def split {α : Type} (items : List α) (count : Nat) : List (List α) :=
  takeRuns ((List.range count).map (shareOf items.length count)) items

/-- The chunks of a batch: as many as there are workers, but none is empty. -/
def chunksOf {α : Type} (items : List α) (poolSize : Nat) : List (List α) :=
  split items (min (max 1 poolSize) items.length)

namespace Worker

/-- A worker with a chunk to do. -/
def new (chunk : List Task) : Worker := ⟨chunk.map Task.path, [], chunk, .starting⟩

/-- Whether the worker has ended, one way or the other. -/
def hasEnded (worker : Worker) : Bool :=
  match worker.state with
  | .ended | .crashed _ => true
  | _ => false

/-- The reason given for a worker that crashed. -/
def crashReason : Option String → String
  | some message => "worker panicked: " ++ message
  | none => "worker panicked"

/-- The reason given for a task that was not begun any more. -/
def cancelReason : String := "worker cancelled"

/-- What is said about a chunk that did not deliver. -/
def failure? (worker : Worker) (chunk timeoutMs : Nat) : Fate → Option Error
  | .timedOut _ => some (.workerTimeout chunk timeoutMs)
  | .lost => some (.workerFailed chunk "worker exited before signalling completion")
  | .notStarted reason => some (.workerFailed chunk (reason.getD "worker was not started"))
  | .undisturbed | .cancelled _ =>
    match worker.state with
    | .crashed message => some (.workerFailed chunk (crashReason message))
    | _ => none

/-- The results of a chunk: one for each of its paths. -/
def report (worker : Worker) (chunk timeoutMs : Nat) (fate : Fate) : List TaskResult :=
  match worker.failure? chunk timeoutMs fate with
  | some error => worker.paths.map (TaskResult.failed · error.message)
  | none => worker.finished

end Worker

namespace Pool

/-- A pool that has done nothing. It has room for at least one worker. -/
def new (options : PoolOptions) : Pool :=
  ⟨{ options with poolSize := max 1 options.poolSize }, none, 0, false, 0, 0, 0, 0, 0⟩

/-- Takes tasks off the queue. -/
def dequeue (pool : Pool) (count : Nat) : Pool :=
  { pool with queuedTasks := pool.queuedTasks - count }

/-- Counts a worker in, with its chunk. -/
def enlist (pool : Pool) (chunk : List Task) : Pool :=
  { pool with
    queuedTasks := pool.queuedTasks + chunk.length
    activeWorkers := pool.activeWorkers + 1 }

/-- Counts a worker out. -/
def release (pool : Pool) : Pool := { pool with activeWorkers := pool.activeWorkers - 1 }

/-- Gives a chunk to a new worker. -/
def spawn (pool : Pool) (chunk : List Task) : Pool × Worker :=
  let pool := pool.enlist chunk
  ({ pool with workersSpawned := pool.workersSpawned + 1 }, .new chunk)

/-- Fails to give a chunk to a worker. -/
def failSpawn (pool : Pool) (chunk : List Task) : Pool × Worker :=
  ((pool.enlist chunk).release.dequeue chunk.length, .new chunk)

/-- A worker begins: it builds its own router. -/
def begin (factory : RouterFactory) (pool : Pool) (worker : Worker) : Pool × Worker :=
  let built := { pool with routersBuilt := pool.routersBuilt + 1 }
  match worker.state with
  | .starting =>
    match factory pool.routersBuilt with
    | .done router => (built, { worker with state := .running router })
    | .crash message => (built.release, { worker with state := .crashed message })
  | _ => (pool, worker)

/-- A worker does its next task. -/
def work (pool : Pool) (worker : Worker) : Pool × Worker :=
  match worker.state, worker.remaining with
  | .running router, task :: rest =>
    match task.run router with
    | .done result =>
      (pool.dequeue 1, { worker with finished := worker.finished ++ [result], remaining := rest })
    | .crash message => (pool.release, { worker with state := .crashed message })
  | _, _ => (pool, worker)

/-- A worker does its next tasks, as many as are asked for and there are. -/
def workMany : Nat → Pool → Worker → Pool × Worker
  | 0, pool, worker => (pool, worker)
  | count + 1, pool, worker =>
    let (pool, worker) := work pool worker
    workMany count pool worker

/-- A worker notices that it is to stop, and gives up the tasks that it has not begun. -/
def giveUp (pool : Pool) (worker : Worker) : Pool × Worker :=
  match worker.state with
  | .running _ =>
    (pool.dequeue worker.remaining.length,
      { worker with
        finished := worker.finished ++
          worker.remaining.map fun task => .failed task.path Worker.cancelReason
        remaining := [] })
  | _ => (pool, worker)

/-- A worker with nothing left to do ends. -/
def finish (pool : Pool) (worker : Worker) : Pool × Worker :=
  match worker.state with
  | .running _ => (pool.release, { worker with state := .ended })
  | _ => (pool, worker)

/-- A worker goes through its chunk to the end. -/
def complete (factory : RouterFactory) (pool : Pool) (worker : Worker) : Fate → Pool × Worker
  | .notStarted _ => (pool, worker)
  | .undisturbed | .lost =>
    let (pool, worker) := begin factory pool worker
    let (pool, worker) := workMany worker.remaining.length pool worker
    finish pool worker
  | .cancelled before | .timedOut before =>
    let (pool, worker) := begin factory pool worker
    let (pool, worker) := workMany before pool worker
    let (pool, worker) := giveUp pool worker
    finish pool worker

/-- Does something with each worker in turn. -/
def forEach (act : Pool → Worker → Fate → Pool × Worker) (pool : Pool) :
    List (Worker × Fate) → Pool × List (Worker × Fate)
  | [] => (pool, [])
  | (worker, fate) :: rest =>
    let (pool, worker) := act pool worker fate
    let (pool, workers) := forEach act pool rest
    (pool, (worker, fate) :: workers)

/-- Gives each chunk to a worker of its own, as far as fate allows. -/
def spawnAll (pool : Pool) : List (List Task × Fate) → Pool × List (Worker × Fate)
  | [] => (pool, [])
  | (chunk, fate) :: rest =>
    let (pool, worker) := match fate with
      | .notStarted _ => pool.failSpawn chunk
      | _ => pool.spawn chunk
    let (pool, workers) := spawnAll pool rest
    (pool, (worker, fate) :: workers)

/-- Shares a batch out to workers. -/
def launch (pool : Pool) (fates : Nat → Fate) (tasks : List Task) : Pool × List (Worker × Fate) :=
  let chunks := chunksOf tasks pool.options.poolSize
  let fated := chunks.zipIdx.map fun (chunk, index) => (chunk, fates index)
  spawnAll { pool with batchesDispatched := pool.batchesDispatched + 1 } fated

/-- The results of all chunks, in the order of the chunks. -/
def collect (timeoutMs : Nat) (workers : List (Worker × Fate)) : List TaskResult :=
  workers.zipIdx.flatMap fun ((worker, fate), chunk) => worker.report chunk timeoutMs fate

/-- What is logged about chunks that did not deliver. -/
def warnings (timeoutMs : Nat) (workers : List (Worker × Fate)) : List String :=
  workers.zipIdx.filterMap fun ((worker, fate), chunk) =>
    (worker.failure? chunk timeoutMs fate).map fun error =>
      error.message ++ " (" ++ toString worker.paths.length ++ " files)"

/-- The report on a batch. -/
def metricsOf (results : List TaskResult) (chunks : Nat) : BatchMetrics :=
  ⟨results.length, (results.filter (!·.isOk)).length, chunks⟩

/-- What comes of a batch: its results, a report on it unless it was empty, and what is logged. -/
structure Batch where
  results : List TaskResult
  metrics : Option BatchMetrics
  warnings : List String
  deriving Inhabited

/-- The router for small batches, which is built once. -/
def inlineRouterOf (factory : RouterFactory) (pool : Pool) : Attempt (Router Reader) × Pool :=
  match pool.inlineRouter with
  | some router => (.done router, pool)
  | none =>
    let built := { pool with routersBuilt := pool.routersBuilt + 1 }
    match factory pool.routersBuilt with
    | .done router => (.done router, { built with inlineRouter := some router })
    | .crash message => (.crash message, built)

/-- Reads a batch on the spot. A crash ends the call. -/
def runInline (factory : RouterFactory) (pool : Pool) (tasks : List Task) :
    Attempt Batch × Pool :=
  let pool := { pool with batchesInline := pool.batchesInline + 1 }
  match inlineRouterOf factory pool with
  | (.crash message, pool) => (.crash message, pool)
  | (.done router, pool) =>
    match Task.runAll router tasks with
    | .crash message => (.crash message, pool)
    | .done results => (.done ⟨results, some (metricsOf results 0), []⟩, pool)

/-- Puts a batch together when its workers are done. -/
def conclude (pool : Pool) (workers : List (Worker × Fate)) : Batch :=
  let results := collect pool.options.timeout.millis workers
  ⟨results, some (metricsOf results workers.length), warnings pool.options.timeout.millis workers⟩

/-- Shares a batch out to workers, which go through their chunks. -/
def share (factory : RouterFactory) (pool : Pool) (fates : Nat → Fate) (tasks : List Task) :
    Batch × Pool :=
  let (pool, workers) := pool.launch fates tasks
  let (pool, workers) := forEach (complete factory) pool workers
  (pool.conclude workers, pool)

/-- Reads a batch with workers, which are waited for until a deadline. Where the clock has no such
moment the call ends, and the workers go on with nobody to wait for them. -/
def dispatch (factory : RouterFactory) (pool : Pool) (around : Circumstances) (tasks : List Task) :
    Attempt Batch × Pool :=
  match around.clock.deadline pool.options.timeout with
  | .done _ =>
    let (batch, pool) := share factory pool around.fates tasks
    (.done batch, pool)
  | .crash message =>
    let (_, pool) := share factory pool (fun index => (around.fates index).unawaited) tasks
    (.crash message, pool)

/-- Whether a batch is read on the spot. -/
def isSmall (pool : Pool) (tasks : List Task) : Bool := tasks.length < pool.options.minBatch

/-- Reads a batch that is not empty. -/
def readBatch (factory : RouterFactory) (pool : Pool) (around : Circumstances) (tasks : List Task) :
    Attempt Batch × Pool :=
  if pool.isSmall tasks then runInline factory pool tasks
  else dispatch factory pool around tasks

/-- The report on a batch, where reports are wanted. -/
def report? (pool : Pool) (batch : Batch) : Option BatchMetrics :=
  if pool.options.metrics then batch.metrics else none

/-- Hands the report on a batch over, where reports are wanted. -/
def announce (pool : Pool) (record : BatchMetrics → Attempt Unit) (batch : Batch) : Attempt Batch :=
  match pool.report? batch with
  | none => .done batch
  | some report => (record report).map fun _ => batch

/-- Reads a batch. Only a disposed pool refuses; an empty batch changes nothing. -/
def parseFiles (factory : RouterFactory) (pool : Pool) (around : Circumstances) (tasks : List Task) :
    Attempt (Except Error Batch) × Pool :=
  if pool.disposed then (.done (.error .poolDisposed), pool)
  else if tasks.isEmpty then (.done (.ok ⟨[], none, []⟩), pool)
  else
    let read := readBatch factory pool around tasks
    ((read.1.bind (pool.announce around.record)).map .ok, read.2)

/-- Shuts the pool down: queued tasks are forgotten and no batch is taken any more. -/
def dispose (pool : Pool) : Pool :=
  if pool.disposed then pool
  else { pool with disposed := true, queuedTasks := 0, inlineRouter := none }

/-- The share of workers that are at work. -/
def utilization (pool : Pool) : Float :=
  pool.activeWorkers.toFloat / pool.options.poolSize.toFloat

end Pool

end SourceFacts

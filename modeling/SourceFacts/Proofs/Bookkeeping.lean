import SourceFacts.Proofs.Delivery

/-! What a pool writes down. Every batch that it takes on is counted, as one that is read on the spot
or as one that is shared out, and reported once; the report does not say which of the two it was, but
how many chunks there were. Workers are counted when they are given their chunks, and routers when
they are built, one for each worker and one for all small batches together. -/
namespace SourceFacts

/-! ## Workers -/

/-- Whether a worker has still to build its router. -/
def Worker.waits (worker : Worker) : Bool :=
  match worker.state with
  | .starting => true
  | _ => false

theorem Worker.waits_of_hasEnded {worker : Worker} (ended : worker.hasEnded = true) :
    worker.waits = false := by
  unfold hasEnded at ended
  unfold waits
  cases state : worker.state with
  | starting | running router => simp [state] at ended
  | ended | crashed message => rfl

namespace Pool

/-- How many workers have still to build their routers. -/
def waiting (workers : List (Worker × Fate)) : Nat := workers.countP (·.1.waits)

/-- What workers leave as it is: the counts of batches and of workers, and the routers that are built
together with those that are still to be built. -/
structure SameBooks (batch later : Pool × List (Worker × Fate)) : Prop where
  inline : later.1.batchesInline = batch.1.batchesInline
  dispatched : later.1.batchesDispatched = batch.1.batchesDispatched
  spawned : later.1.workersSpawned = batch.1.workersSpawned
  routers : later.1.routersBuilt + waiting later.2 = batch.1.routersBuilt + waiting batch.2

theorem SameBooks.refl (batch : Pool × List (Worker × Fate)) : SameBooks batch batch :=
  ⟨rfl, rfl, rfl, rfl⟩

theorem SameBooks.trans {batch later last : Pool × List (Worker × Fate)}
    (first : SameBooks batch later) (second : SameBooks later last) : SameBooks batch last :=
  ⟨second.inline.trans first.inline, second.dispatched.trans first.dispatched,
    second.spawned.trans first.spawned, second.routers.trans first.routers⟩

/-- A step of a worker on its own. -/
theorem Step.books {lot : Lot} {pool : Pool} {worker : Worker} {after : Pool × Worker}
    (step : Step lot pool worker after) (fate : Fate) :
    SameBooks (pool, [(worker, fate)]) (after.1, [(after.2, fate)]) := by
  cases step with
  | idle rests => exact .refl _
  | begins state _ | failsToBegin state _ =>
    refine ⟨rfl, rfl, rfl, ?_⟩
    simp [waiting, Worker.waits, state, release]
  | works state _ _ _ | crashes state _ _ _ | givesUp state _ _ | ends state _ =>
    refine ⟨rfl, rfl, rfl, ?_⟩
    simp [waiting, Worker.waits, state, release, dequeue]

theorem waiting_set {workers : List (Worker × Fate)} {index : Nat} {held : Worker × Fate}
    (found : workers[index]? = some held) (other : Worker × Fate) :
    waiting (workers.set index other) + waiting [held] = waiting workers + waiting [other] := by
  obtain ⟨bound, here⟩ := List.getElem?_eq_some_iff.mp found
  have counted := List.boole_getElem_le_countP (p := fun held => held.1.waits) bound
  simp only [waiting, List.countP_set bound, List.countP_singleton, here] at counted ⊢
  omega

theorem turn_books (lots : Nat → Lot) (batch : Pool × List (Worker × Fate)) (index : Nat) :
    SameBooks batch (turn lots batch index) := by
  unfold turn
  split
  · exact .refl batch
  next worker fate found =>
    have step := (advance_step (lots index) batch.1 worker).books fate
    have placed := waiting_set found ((advance (lots index) batch.1 worker).2, fate)
    refine ⟨step.inline, step.dispatched, step.spawned, ?_⟩
    have routers := step.routers
    simp only at routers placed ⊢
    omega

/-- In whatever order the workers take turns, they leave the books as they are. -/
theorem interleave_books (lots : Nat → Lot) (schedule : List Nat)
    (batch : Pool × List (Worker × Fate)) : SameBooks batch (interleave lots schedule batch) := by
  induction schedule generalizing batch with
  | nil => exact .refl batch
  | cons index rest ih => exact (turn_books lots batch index).trans (ih _)

/-- Where every chunk has its worker, all of these are counted, and none has its router yet. -/
theorem spawnAll_books (pool : Pool) (fated : List (List Task × Fate))
    (started : ∀ held ∈ fated, held.2.starts = true) :
    (pool.spawnAll fated).1.batchesInline = pool.batchesInline ∧
      (pool.spawnAll fated).1.batchesDispatched = pool.batchesDispatched ∧
      (pool.spawnAll fated).1.workersSpawned = pool.workersSpawned + fated.length ∧
      (pool.spawnAll fated).1.routersBuilt = pool.routersBuilt := by
  induction fated generalizing pool with
  | nil => exact ⟨rfl, rfl, rfl, rfl⟩
  | cons held rest ih =>
    obtain ⟨chunk, fate⟩ := held
    obtain ⟨first, others⟩ := List.forall_mem_cons.mp started
    obtain ⟨inline, dispatched, spawned, routers⟩ := ih (pool.spawn chunk).1 others
    have head : (pool.spawnAll ((chunk, fate) :: rest)).1 =
        ((pool.spawn chunk).1.spawnAll rest).1 := by
      cases fate with
      | notStarted reason => cases first
      | undisturbed | lost | cancelled before | timedOut before => rfl
    rw [head]
    refine ⟨inline, dispatched, ?_, routers⟩
    rw [spawned, List.length_cons]
    simp only [spawn, enlist]
    omega

theorem launch_waiting (pool : Pool) (fates : Nat → Fate) (tasks : List Task) :
    waiting (pool.launch fates tasks).2 = min (max 1 pool.options.poolSize) tasks.length := by
  have all : ∀ held ∈ (pool.launch fates tasks).2, held.1.waits = true := by
    intro held member
    obtain ⟨chunk, fresh⟩ := launch_fresh pool fates tasks held member
    rw [fresh]
    rfl
  rw [waiting, List.countP_eq_length.mpr all, launch_workers, List.length_map, List.length_zipIdx,
    length_chunksOf]

theorem forEach_fates (act : Pool → Worker → Fate → Pool × Worker) (pool : Pool)
    (workers : List (Worker × Fate)) :
    (forEach act pool workers).2.map Prod.snd = workers.map Prod.snd := by
  induction workers generalizing pool with
  | nil => rfl
  | cons held rest ih => rw [forEach, List.map_cons, List.map_cons, ih]

section

variable {fates : Nat → Fate}

theorem launch_books (pool : Pool) (started : ∀ index, (fates index).starts = true)
    (tasks : List Task) :
    let launched := (pool.launch fates tasks).1
    launched.batchesInline = pool.batchesInline ∧
      launched.batchesDispatched = pool.batchesDispatched + 1 ∧
      launched.workersSpawned =
        pool.workersSpawned + min (max 1 pool.options.poolSize) tasks.length ∧
      launched.routersBuilt = pool.routersBuilt := by
  let chunks := chunksOf tasks pool.options.poolSize
  let fated := chunks.zipIdx.map fun numbered => (numbered.1, fates numbered.2)
  have size : fated.length = min (max 1 pool.options.poolSize) tasks.length := by
    rw [List.length_map, List.length_zipIdx, length_chunksOf]
  have fine : ∀ held ∈ fated, held.2.starts = true := by
    intro held member
    obtain ⟨numbered, -, rfl⟩ := List.mem_map.mp member
    exact started numbered.2
  rw [← size]
  exact spawnAll_books { pool with batchesDispatched := pool.batchesDispatched + 1 } fated fine

/-- Once all workers have gone through their chunks, no router is left to be built. -/
theorem forEach_waiting (factory : RouterFactory) (pool : Pool)
    (started : ∀ index, (fates index).starts = true) (tasks : List Task) :
    waiting (forEach (complete factory) (pool.launch fates tasks).1
      (pool.launch fates tasks).2).2 = 0 := by
  rw [waiting, List.countP_eq_zero]
  intro held member
  have fate : held.2 ∈ (pool.launch fates tasks).2.map Prod.snd := by
    rw [← forEach_fates (complete factory) (pool.launch fates tasks).1]
    exact List.mem_map_of_mem member
  have starts : held.2.starts = true := by
    rw [launch_workers, List.map_map] at fate
    obtain ⟨numbered, -, same⟩ := List.mem_map.mp fate
    rw [← same]
    exact started numbered.2
  have ended := forEach_ended factory _ _ (launch_fresh pool fates tasks) held member starts
  simp [Worker.waits_of_hasEnded ended]

theorem share_books (factory : RouterFactory) (pool : Pool)
    (started : ∀ index, (fates index).starts = true) (tasks : List Task) :
    let later := (share factory pool fates tasks).2
    let workers := min (max 1 pool.options.poolSize) tasks.length
    later.batchesInline = pool.batchesInline ∧
      later.batchesDispatched = pool.batchesDispatched + 1 ∧
      later.workersSpawned = pool.workersSpawned + workers ∧
      later.routersBuilt = pool.routersBuilt + workers := by
  intro later workers
  obtain ⟨inline, dispatched, spawned, built⟩ := launch_books pool started tasks
  obtain ⟨schedule, inOrder⟩ := launch_interleaves factory pool fates tasks
  have books := interleave_books (lotsInOrder factory pool fates tasks) schedule
    (pool.launch fates tasks)
  rw [inOrder] at books
  have routers := books.routers
  rw [forEach_waiting factory pool started, launch_waiting, built] at routers
  have left : later = (forEach (complete factory) (pool.launch fates tasks).1
      (pool.launch fates tasks).2).1 := rfl
  clear_value later
  rw [left]
  exact ⟨books.inline.trans inline, books.dispatched.trans dispatched, books.spawned.trans spawned,
    routers⟩

/-- A batch that is shared out is counted, and so is a worker for each chunk, and a router for each
worker. This is so even where nobody waits for them. -/
theorem dispatch_books (factory : RouterFactory) (pool : Pool) {around : Circumstances}
    (started : ∀ index, (around.fates index).starts = true) (tasks : List Task) :
    let later := (dispatch factory pool around tasks).2
    let workers := min (max 1 pool.options.poolSize) tasks.length
    later.batchesInline = pool.batchesInline ∧
      later.batchesDispatched = pool.batchesDispatched + 1 ∧
      later.workersSpawned = pool.workersSpawned + workers ∧
      later.routersBuilt = pool.routersBuilt + workers := by
  obtain ⟨fates, starts, left⟩ := dispatch_pool factory pool around tasks
  rw [left]
  exact share_books factory pool (fun index => (starts index).trans (started index)) tasks

end

end Pool

/-! ## Calls -/

/-- A report tells what a batch came to: its tasks, the errors among its results and its chunks. That
it was read on the spot is told if and only if it was. -/
structure BatchMetrics.Fits (report : BatchMetrics) (options : PoolOptions) (tasks : List Task)
    (results : List TaskResult) : Prop where
  taskCount : report.taskCount = tasks.length
  errorCount : report.errorCount = results.countP (·.error.isSome)
  chunks : report.chunks = options.chunkCount tasks
  isInline : report.isInline = decide (tasks.length < options.minBatch)

namespace Pool

theorem metricsOf_fits {options : PoolOptions} {tasks : List Task} {results : List TaskResult}
    (filled : tasks ≠ []) (length : results.length = tasks.length) :
    (metricsOf results (options.chunkCount tasks)).Fits options tasks results := by
  refine ⟨length, ?_, rfl, ?_⟩
  · have same : (fun result : TaskResult => !result.isOk) = fun result => result.error.isSome := by
      funext result
      simp [TaskResult.isOk]
    rw [metricsOf, same, List.countP_eq_length_filter]
  · have positive := List.length_pos_iff.mpr filled
    have none : options.chunkCount tasks = 0 ↔ tasks.length < options.minBatch := by
      unfold PoolOptions.chunkCount
      split <;> omega
    exact decide_eq_decide.mpr none

/-- The factory builds every router that it is asked for, and no reader crashes. -/
def Reliable (factory : RouterFactory) : Prop :=
  ∀ number, ∃ router, factory number = .done router ∧ router.Throughout Registration.Steady

/-- No reader crashes that is at hand for small batches. -/
def Ready (pool : Pool) : Prop :=
  ∀ router, pool.inlineRouter = some router → router.Throughout Registration.Steady

section

variable {factory : RouterFactory} {pool : Pool}

/-- A small batch is counted. A router is built for it if none is at hand, and then kept. -/
theorem runInline_reliable (reliable : Reliable factory) (ready : pool.Ready) (tasks : List Task) :
    ∃ router results, router.Throughout Registration.Steady ∧ results.length = tasks.length ∧
      runInline factory pool tasks =
        (.done ⟨results, some (metricsOf results 0), []⟩,
          { pool with
            inlineRouter := some router
            routersBuilt := pool.routersBuilt + if pool.inlineRouter.isSome then 0 else 1
            batchesInline := pool.batchesInline + 1 }) := by
  have read : ∀ router : Router Reader, router.Throughout Registration.Steady →
      ∃ results, Task.runAll router tasks = .done results ∧ results.length = tasks.length := by
    intro router steady
    obtain ⟨results, ran⟩ := Task.runAll_of_each fun task (_ : task ∈ tasks) =>
      Task.run_done steady task
    refine ⟨results, ran, ?_⟩
    simpa using congrArg List.length (Task.runAll_paths ran)
  cases kept : pool.inlineRouter with
  | some router =>
    have steady := ready router kept
    obtain ⟨results, ran, length⟩ := read router steady
    refine ⟨router, results, steady, length, ?_⟩
    simp [runInline, inlineRouterOf, kept, ran]
  | none =>
    obtain ⟨router, built, steady⟩ := reliable pool.routersBuilt
    obtain ⟨results, ran, length⟩ := read router steady
    refine ⟨router, results, steady, length, ?_⟩
    simp [runInline, inlineRouterOf, kept, built, ran]

end

/-- In whatever order the workers of a batch take turns, the report fits. -/
theorem conclude_fits {options : PoolOptions} {pool : Pool} {tasks : List Task}
    (size : max 1 pool.options.poolSize = max 1 options.poolSize) (filled : tasks ≠ [])
    (large : options.minBatch ≤ tasks.length) (lots : Nat → Lot) (schedule : List Nat) :
    let last := interleave lots schedule (pool.launch (fun index => (lots index).fate) tasks)
    Settled last.2 →
      (last.1.conclude last.2).results.length = tasks.length ∧
      ∃ report, (last.1.conclude last.2).metrics = some report ∧
        report.Fits options tasks (last.1.conclude last.2).results := by
  intro last settled
  have gathers : pool.Gathers tasks lots (last.1.conclude last.2).results :=
    ⟨schedule, settled, rfl⟩
  have length : (last.1.conclude last.2).results.length = tasks.length := by
    simpa using congrArg List.length gathers.aligned.1
  have chunks : last.2.length = options.chunkCount tasks := by
    rw [(interleave_shared (launch_shared pool lots tasks) schedule).length, length_chunksOf, size,
      PoolOptions.chunkCount, if_neg (Nat.not_lt.mpr large)]
  refine ⟨length, _, rfl, ?_⟩
  rw [chunks]
  exact metricsOf_fits filled length

/-- A batch that comes back has one result for each task, and a report that fits. -/
theorem readBatch_fits {factory : RouterFactory} {options : PoolOptions} {pool : Pool}
    {around : Circumstances} {tasks : List Task} (reliable : Reliable factory) (ready : pool.Ready)
    (least : pool.options.minBatch = options.minBatch)
    (size : max 1 pool.options.poolSize = max 1 options.poolSize) (filled : tasks ≠ [])
    (inTime : ¬ pool.Overdue around.clock tasks) :
    ∃ batch report, (readBatch factory pool around tasks).1 = .done batch ∧
      batch.results.length = tasks.length ∧ batch.metrics = some report ∧
      report.Fits options tasks batch.results := by
  unfold readBatch
  by_cases small : tasks.length < options.minBatch
  · obtain ⟨router, results, -, length, ran⟩ := runInline_reliable reliable ready tasks
    rw [if_pos (by simpa [isSmall, least] using small), ran]
    refine ⟨_, _, rfl, length, rfl, ?_⟩
    have none : options.chunkCount tasks = 0 := if_pos small
    rw [← none]
    exact metricsOf_fits filled length
  · have large : pool.isSmall tasks = false := by simpa [isSmall, least] using small
    have reached : around.clock.reaches pool.options.timeout = true :=
      Bool.not_eq_false _ ▸ fun late => inTime ⟨filled, large, late⟩
    rw [if_neg (by simp [large]), dispatch_in_time reached]
    obtain ⟨schedule, settled, shared⟩ := share_interleaves factory pool around.fates tasks
    have same : (fun index => (lotsInOrder factory pool around.fates tasks index).fate) =
        around.fates :=
      funext fun index => (lotsInOrder_drawn factory pool around.fates tasks index).1
    have fits := conclude_fits size filled (Nat.not_lt.mp small)
      (lotsInOrder factory pool around.fates tasks) schedule
    rw [same] at fits
    obtain ⟨length, report, told, fit⟩ := fits settled
    rw [shared]
    exact ⟨_, report, rfl, length, told, fit⟩

/-! ## Runs -/

/-- Whether a use is a disposal. -/
def Use.disposes : Use → Bool
  | .dispose => true
  | .parse _ _ => false

/-- The batches that a pool took on, the latest first: those with any tasks in them, up to the first
disposal. -/
def taken : List Use → List (List Task)
  | [] => []
  | .dispose :: past => taken past
  | .parse _ tasks :: past =>
    if past.any Use.disposes || tasks.isEmpty then taken past else tasks :: taken past

/-- How many workers it takes to share these batches out. -/
def workersFor (options : PoolOptions) : List (List Task) → Nat
  | [] => 0
  | tasks :: rest => min (max 1 options.poolSize) tasks.length + workersFor options rest

/-- The batches that are read on the spot. -/
def smallOf (options : PoolOptions) (batches : List (List Task)) : List (List Task) :=
  batches.filter (·.length < options.minBatch)

/-- The batches that are shared out. -/
def largeOf (options : PoolOptions) (batches : List (List Task)) : List (List Task) :=
  batches.filter (options.minBatch ≤ ·.length)

/-- A pool has counted these batches. It has built a router for each worker, and one more once a
batch was read on the spot; this one is kept until the pool is disposed of. -/
structure HasCounted (options : PoolOptions) (batches : List (List Task)) (pool : Pool) : Prop where
  setting : pool.options = { options with poolSize := max 1 options.poolSize }
  inline : pool.batchesInline = (smallOf options batches).length
  dispatched : pool.batchesDispatched = (largeOf options batches).length
  spawned : pool.workersSpawned = workersFor options (largeOf options batches)
  built : pool.routersBuilt = pool.workersSpawned + if smallOf options batches = [] then 0 else 1
  kept : pool.disposed = false → (pool.inlineRouter = none ↔ smallOf options batches = [])
  ready : pool.Ready

namespace HasCounted

variable {factory : RouterFactory} {options : PoolOptions} {batches : List (List Task)} {pool : Pool}
  {tasks : List Task} {around : Circumstances}

theorem new (options : PoolOptions) : HasCounted options [] (.new options) := by
  refine ⟨rfl, rfl, rfl, rfl, rfl, fun _ => iff_of_true rfl rfl, ?_⟩
  intro router kept
  cases kept

theorem size (counted : HasCounted options batches pool) :
    max 1 pool.options.poolSize = max 1 options.poolSize := by
  rw [counted.setting]
  exact Nat.max_eq_right (Nat.le_max_left 1 options.poolSize)

theorem runInline (counted : HasCounted options batches pool) (accepts : pool.disposed = false)
    (reliable : Reliable factory) (small : tasks.length < options.minBatch) :
    HasCounted options (tasks :: batches) (runInline factory pool tasks).2 := by
  have more : smallOf options (tasks :: batches) = tasks :: smallOf options batches :=
    List.filter_cons_of_pos (by simpa using small)
  have same : largeOf options (tasks :: batches) = largeOf options batches :=
    List.filter_cons_of_neg (by simpa using small)
  obtain ⟨router, results, steady, -, ran⟩ := runInline_reliable reliable counted.ready tasks
  rw [ran]
  refine ⟨counted.setting, ?_, ?_, ?_, ?_, ?_, ?_⟩
  · rw [more, List.length_cons, counted.inline]
  · rw [same, counted.dispatched]
  · rw [same, counted.spawned]
  · have before := counted.built
    rw [more, if_neg (List.cons_ne_nil _ _)]
    by_cases first : smallOf options batches = []
    · simp [(counted.kept accepts).mpr first, before, first]
    · have held : pool.inlineRouter.isSome = true :=
        Option.isSome_iff_ne_none.mpr fun none => first ((counted.kept accepts).mp none)
      simp [held, before, first]
  · intro _
    simp [more]
  · intro other kept
    cases kept
    exact steady

theorem dispatch (counted : HasCounted options batches pool)
    (started : ∀ index, (around.fates index).starts = true)
    (large : ¬ tasks.length < options.minBatch) :
    HasCounted options (tasks :: batches) (dispatch factory pool around tasks).2 := by
  have same : smallOf options (tasks :: batches) = smallOf options batches :=
    List.filter_cons_of_neg (by simpa using large)
  have more : largeOf options (tasks :: batches) = tasks :: largeOf options batches :=
    List.filter_cons_of_pos (by simpa using large)
  have recounted := dispatch_recounts factory pool around tasks
  obtain ⟨inline, dispatched, spawned, built⟩ := dispatch_books factory pool started tasks
  refine ⟨recounted.options.trans counted.setting, ?_, ?_, ?_, ?_, ?_, ?_⟩
  · rw [same, inline, counted.inline]
  · rw [more, dispatched, counted.dispatched, List.length_cons]
  · rw [more, spawned, counted.spawned, counted.size, workersFor, Nat.add_comm]
  · rw [same, built, spawned, counted.built]
    omega
  · rw [same, recounted.disposed, recounted.inlineRouter]
    exact counted.kept
  · intro router kept
    exact counted.ready router (recounted.inlineRouter ▸ kept)

theorem dispose (counted : HasCounted options batches pool) :
    HasCounted options batches pool.dispose := by
  unfold Pool.dispose
  split
  · exact counted
  · refine ⟨counted.setting, counted.inline, counted.dispatched, counted.spawned, counted.built,
      ?_, ?_⟩
    · intro accepts
      cases accepts
    · intro router kept
      cases kept

end HasCounted

theorem disposed_after (factory : RouterFactory) (options : PoolOptions) (past : List Use) :
    (after factory options past).disposed = past.any Use.disposes := by
  induction past with
  | nil => rfl
  | cons use past ih =>
    rw [after, List.any_cons, ← ih]
    cases use with
    | parse around tasks => exact (parseFiles_keeps factory _ around tasks).2
    | dispose =>
      simp only [serve, dispose, Use.disposes, Bool.true_or]
      split
      · assumption
      · rfl

/-- What a use of a pool reports: one report at most, and none where none are wanted or the batch does
not come back. There is a report even if whoever is told of it crashes. -/
def reported (factory : RouterFactory) (pool : Pool) : Use → List BatchMetrics
  | .dispose => []
  | .parse around tasks =>
    if pool.disposed || tasks.isEmpty then []
    else
      match (readBatch factory pool around tasks).1 with
      | .done batch => (pool.report? batch).toList
      | .crash _ => []

/-- Whether a pool has a moment until which to wait, if it waits at all. -/
def Use.inTime (options : PoolOptions) : Use → Bool
  | .dispose => true
  | .parse around tasks =>
    decide (tasks.length < options.minBatch) || around.clock.reaches options.timeout

section

variable {factory : RouterFactory} {options : PoolOptions} {pool : Pool} {tasks : List Task}
  {around : Circumstances}

theorem HasCounted.overdue_iff {batches : List (List Task)}
    (counted : HasCounted options batches pool) (filled : tasks ≠ []) :
    pool.Overdue around.clock tasks ↔ Use.inTime options (.parse around tasks) = false := by
  simp [Overdue, filled, isSmall, counted.setting, Use.inTime]

/-- A call that is taken on and comes back is reported once, and the answer hangs on how the report is
received. -/
theorem HasCounted.reports {batches : List (List Task)} (counted : HasCounted options batches pool)
    (reliable : Reliable factory) (accepts : pool.disposed = false) (filled : tasks ≠ [])
    (inTime : Use.inTime options (.parse around tasks) = true) :
    ∃ batch report, batch.results.length = tasks.length ∧ report.Fits options tasks batch.results ∧
      pool.reported factory (.parse around tasks) = (if options.metrics then [report] else []) ∧
      (parseFiles factory pool around tasks).1 =
        (if options.metrics then around.record report else .done ()).map fun _ => .ok batch := by
  have least : pool.options.minBatch = options.minBatch := by rw [counted.setting]
  have wanted : pool.options.metrics = options.metrics := by rw [counted.setting]
  have reached : ¬ pool.Overdue around.clock tasks := by simp [counted.overdue_iff filled, inTime]
  obtain ⟨batch, report, read, length, told, fits⟩ :=
    readBatch_fits reliable counted.ready least counted.size filled reached
  refine ⟨batch, report, length, fits, ?_, ?_⟩
  · rw [reported, if_neg (by simp [accepts, filled])]
    simp only [read, report?, wanted, told]
    cases options.metrics <;> rfl
  · rw [parseFiles, if_neg (by simp [accepts]), if_neg (by simpa using filled)]
    simp only [read, Attempt.bind_done, announce, report?, wanted, told]
    cases options.metrics with
    | false => rfl
    | true => cases received : around.record report <;> simp [received]

end

end Pool

end SourceFacts

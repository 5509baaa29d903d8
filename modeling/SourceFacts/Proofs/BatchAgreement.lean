import SourceFacts.Proofs.Dispatch

/-! Small batches and shared ones give the same results. A small batch is read with the one
router that the pool keeps, a shared one with a router for each chunk; where the factory
always builds the same router and every chunk is completed, either way the results are those of the
tasks done one after the other. How many workers there are, and from which size on a batch is
shared out, cannot be told from them. -/
namespace SourceFacts

namespace Task

/-- Tasks are done one after the other if each of them is done. -/
theorem runAll_eq_done_iff {router : Router Reader} {tasks : List Task}
    {results : List TaskResult} :
    runAll router tasks = .done results ↔ tasks.map (run router) = results.map .done := by
  induction tasks generalizing results with
  | nil => cases results <;> simp [runAll]
  | cons task rest ih =>
    rw [runAll, List.map_cons]
    cases results with
    | nil =>
      cases task.run router with
      | crash message => simp
      | done result => cases runAll router rest <;> simp
    | cons result others =>
      rw [List.map_cons, List.cons.injEq, ← ih]
      cases task.run router with
      | crash message => simp
      | done first => cases runAll router rest <;> simp

theorem runAll_of_each {router : Router Reader} {tasks : List Task}
    (each : ∀ task ∈ tasks, ∃ result, task.run router = .done result) :
    ∃ results, runAll router tasks = .done results := by
  induction tasks with
  | nil => exact ⟨[], rfl⟩
  | cons task rest ih =>
    obtain ⟨result, first⟩ := each task List.mem_cons_self
    obtain ⟨others, later⟩ := ih fun task member => each task (List.mem_cons_of_mem _ member)
    exact ⟨result :: others, by simp only [runAll, first, later]⟩

theorem runAll_flatten {router : Router Reader} {chunks : List (List Task)}
    {parts : List (List TaskResult)} (length : parts.length = chunks.length)
    (ran : ∀ (index : Nat) (chunk : List Task), chunks[index]? = some chunk →
      ∃ part, parts[index]? = some part ∧ runAll router chunk = .done part) :
    runAll router chunks.flatten = .done parts.flatten := by
  have each : chunks.map (List.map (run router)) = parts.map (List.map .done) := by
    apply List.ext_getElem?
    intro index
    cases inside : chunks[index]? with
    | some chunk =>
      obtain ⟨part, found, done⟩ := ran index chunk inside
      simp [inside, found, runAll_eq_done_iff.mp done]
    | none =>
      have beyond : parts[index]? = none := by
        rw [List.getElem?_eq_none_iff, length]
        exact List.getElem?_eq_none_iff.mp inside
      simp [inside, beyond]
  rw [runAll_eq_done_iff, List.map_flatten, List.map_flatten, each]

end Task

/-- How many chunks a batch is shared out in. There are none if it is read on the spot. -/
def PoolOptions.chunkCount (options : PoolOptions) (tasks : List Task) : Nat :=
  if tasks.length < options.minBatch then 0 else min (max 1 options.poolSize) tasks.length

namespace Pool

/-- Every chunk is completed, with a router of this kind, if the batch is shared out at all. -/
def Calm (pool : Pool) (router : Router Reader) (fates : Nat → Fate) (tasks : List Task) : Prop :=
  pool.isSmall tasks = false → ∀ index chunk,
    (chunksOf tasks pool.options.poolSize)[index]? = some chunk →
      Lot.ending ⟨.done router, fates index⟩ chunk = .completed router

/-- Where every chunk is completed with one router, the results are those of all tasks done one
after the other, in whatever order the workers take turns. -/
theorem Gathers.runs_all {pool : Pool} {router : Router Reader} {tasks : List Task}
    {lots : Nat → Lot} {results : List TaskResult} (gathers : pool.Gathers tasks lots results)
    (completed : ∀ index chunk, (chunksOf tasks pool.options.poolSize)[index]? = some chunk →
      (lots index).ending chunk = .completed router) :
    Task.runAll router tasks = .done results := by
  obtain ⟨parts, rfl, paths, yields⟩ := gathers.parts
  have length := congrArg List.length paths
  simp only [List.length_map] at length
  rw [← flatten_chunksOf tasks pool.options.poolSize]
  apply Task.runAll_flatten length
  intro index chunk inside
  obtain ⟨part, found, own⟩ := yields index chunk inside
  rw [completed index chunk inside] at own
  cases own with
  | completed ran => exact ⟨part, found, ran⟩
  | failed told => cases told

/-- A router that is kept for small batches is this one. -/
def Prepared (router : Router Reader) (pool : Pool) : Prop :=
  ∀ kept, pool.inlineRouter = some kept → kept = router

/-- The router for a small batch: the one that is kept, or else what the factory comes to now. -/
def routerAtHand (factory : RouterFactory) (pool : Pool) : Attempt (Router Reader) :=
  match pool.inlineRouter with
  | some router => .done router
  | none => factory pool.routersBuilt

/-- A batch is to be waited for until a moment that the clock does not have. -/
def Overdue (pool : Pool) (clock : Clock) (tasks : List Task) : Prop :=
  tasks ≠ [] ∧ pool.isSmall tasks = false ∧ clock.reaches pool.options.timeout = false

/-- Whoever is told of batches does not crash. -/
def Heard (pool : Pool) (record : BatchMetrics → Attempt Unit) : Prop :=
  pool.options.metrics = true → ∀ report, record report = .done ()

/-- What becomes of the report on a batch with these results. -/
def reception (pool : Pool) (record : BatchMetrics → Attempt Unit) (tasks : List Task)
    (results : List TaskResult) : Attempt Unit :=
  if pool.options.metrics && !tasks.isEmpty then
    record (metricsOf results (pool.options.chunkCount tasks))
  else .done ()

theorem Heard.reception {pool : Pool} {record : BatchMetrics → Attempt Unit}
    (heard : pool.Heard record) (tasks : List Task) (results : List TaskResult) :
    pool.reception record tasks results = .done () := by
  unfold Pool.reception
  split
  next wanted => exact heard (Bool.and_eq_true_iff.mp wanted).1 _
  · rfl

theorem Heard.announce {pool : Pool} {record : BatchMetrics → Attempt Unit}
    (heard : pool.Heard record) (batch : Batch) : pool.announce record batch = .done batch := by
  unfold Pool.announce report?
  cases wanted : pool.options.metrics with
  | false => rfl
  | true =>
    rw [if_pos rfl]
    cases batch.metrics with
    | none => rfl
    | some report => simp only [heard wanted report, Attempt.map_done]

theorem inlineRouterOf_fst (factory : RouterFactory) (pool : Pool) :
    (inlineRouterOf factory pool).1 = pool.routerAtHand factory := by
  obtain ⟨options, inlineRouter, built⟩ := pool
  cases inlineRouter with
  | some router => rfl
  | none =>
    simp only [inlineRouterOf, routerAtHand]
    cases factory built <;> rfl

/-- What a batch comes to that is read on the spot. -/
theorem runInline_fst (factory : RouterFactory) (pool : Pool) (tasks : List Task) :
    (runInline factory pool tasks).1 =
      (pool.routerAtHand factory).bind fun router =>
        (Task.runAll router tasks).map fun results =>
          ⟨results, some (metricsOf results 0), []⟩ := by
  have drawn : (inlineRouterOf factory { pool with batchesInline := pool.batchesInline + 1 }).1 =
      pool.routerAtHand factory := inlineRouterOf_fst factory _
  rw [← drawn, runInline]
  obtain ⟨attempt, later⟩ :=
    inlineRouterOf factory { pool with batchesInline := pool.batchesInline + 1 }
  cases attempt with
  | crash message => rfl
  | done router => cases ran : Task.runAll router tasks <;> simp [ran]

section

variable {factory : RouterFactory} {router : Router Reader}

theorem routerAtHand_eq (same : ∀ number, factory number = .done router) {pool : Pool}
    (prepared : Prepared router pool) : pool.routerAtHand factory = .done router := by
  cases kept : pool.inlineRouter with
  | some other => simp only [routerAtHand, kept, prepared other kept]
  | none => simp only [routerAtHand, kept, same]

theorem inlineRouterOf_prepared (same : ∀ number, factory number = .done router) {pool : Pool}
    (prepared : Prepared router pool) : Prepared router (inlineRouterOf factory pool).2 := by
  cases kept : pool.inlineRouter with
  | some other =>
    simp only [inlineRouterOf, kept]
    exact prepared
  | none =>
    simp only [inlineRouterOf, kept, same]
    exact fun other found => (Option.some.inj found).symm

theorem runInline_snd (factory : RouterFactory) (pool : Pool) (tasks : List Task) :
    (runInline factory pool tasks).2 =
      (inlineRouterOf factory { pool with batchesInline := pool.batchesInline + 1 }).2 := by
  rcases call : inlineRouterOf factory { pool with batchesInline := pool.batchesInline + 1 } with
    ⟨attempt, later⟩
  simp only [runInline, call]
  cases attempt with
  | crash message => rfl
  | done router => cases ran : Task.runAll router tasks <;> simp only [ran]

theorem runInline_prepared (same : ∀ number, factory number = .done router) {pool : Pool}
    (prepared : Prepared router pool) (tasks : List Task) :
    Prepared router (runInline factory pool tasks).2 := by
  rw [runInline_snd]
  exact inlineRouterOf_prepared same prepared

theorem parseFiles_prepared (same : ∀ number, factory number = .done router) {pool : Pool}
    (prepared : Prepared router pool) (around : Circumstances) (tasks : List Task) :
    Prepared router (parseFiles factory pool around tasks).2 := by
  have inline := runInline_prepared same prepared tasks
  have shared := (dispatch_recounts factory pool around tasks).inlineRouter
  unfold parseFiles
  split
  · exact prepared
  · split
    · exact prepared
    · unfold readBatch
      split
      · exact inline
      · exact fun other found => prepared other (shared ▸ found)

/-- With a factory that always builds the same router, every chunk has that one. -/
theorem share_gathers_same (same : ∀ number, factory number = .done router) (pool : Pool)
    (fates : Nat → Fate) (tasks : List Task) :
    pool.Gathers tasks (fun index => ⟨.done router, fates index⟩)
      (share factory pool fates tasks).1.results := by
  have lots : lotsInOrder factory pool fates tasks =
      fun index => ⟨.done router, fates index⟩ := by
    funext index
    obtain ⟨fate, number, drawn⟩ := lotsInOrder_drawn factory pool fates tasks index
    rw [same] at drawn
    rw [← fate, ← drawn]
  rw [← lots]
  exact share_gathers factory pool fates tasks

variable {pool : Pool} {around : Circumstances} {tasks : List Task}

/-- Unless there is no moment to wait until, a batch has the results of its tasks done one after the
other, and a report that tells how many chunks there were. -/
theorem readBatch_eq (same : ∀ number, factory number = .done router)
    (prepared : Prepared router pool) (some : tasks ≠ [])
    (calm : pool.Calm router around.fates tasks) (inTime : ¬ pool.Overdue around.clock tasks) :
    (readBatch factory pool around tasks).1.map (fun batch => (batch.results, batch.metrics)) =
      (Task.runAll router tasks).map fun results =>
        (results, .some (metricsOf results (pool.options.chunkCount tasks))) := by
  unfold readBatch PoolOptions.chunkCount
  cases small : pool.isSmall tasks with
  | true =>
    have few : tasks.length < pool.options.minBatch := by simpa [isSmall] using small
    rw [if_pos rfl, if_pos few, runInline_fst, routerAtHand_eq same prepared, Attempt.bind_done]
    cases Task.runAll router tasks <;> rfl
  | false =>
    have many : ¬ tasks.length < pool.options.minBatch := by simpa [isSmall] using small
    have reached : around.clock.reaches pool.options.timeout = true :=
      Bool.not_eq_false _ ▸ fun late => inTime ⟨some, small, late⟩
    have ran := (share_gathers_same same pool around.fates tasks).runs_all (calm small)
    rw [if_neg Bool.false_ne_true, if_neg many, dispatch_in_time reached, ran, Attempt.map_done,
      Attempt.map_done, share_metrics, length_chunksOf]

theorem parseFiles_eq (same : ∀ number, factory number = .done router)
    (prepared : Prepared router pool) (accepts : pool.disposed = false)
    (calm : pool.Calm router around.fates tasks) (inTime : ¬ pool.Overdue around.clock tasks) :
    (parseFiles factory pool around tasks).1.map (Except.map Batch.results) =
      (Task.runAll router tasks).bind fun results =>
        (pool.reception around.record tasks results).map fun _ => .ok results := by
  rw [parseFiles, accepts, if_neg Bool.false_ne_true]
  cases tasks with
  | nil => simp [Task.runAll, reception, Except.map]
  | cons task rest =>
    rw [if_neg (by simp)]
    have read := readBatch_eq same prepared (List.cons_ne_nil task rest) calm inTime
    generalize readBatch factory pool around (task :: rest) = call at read ⊢
    obtain ⟨attempt, later⟩ := call
    cases ran : Task.runAll router (task :: rest) with
    | crash message =>
      rw [ran] at read
      cases attempt with
      | done batch => cases read
      | crash other =>
        cases read
        rfl
    | done results =>
      rw [ran] at read
      cases attempt with
      | crash other => cases read
      | done batch =>
        simp only [Attempt.map_done, Attempt.done.injEq, Prod.mk.injEq] at read
        obtain ⟨rfl, metrics⟩ := read
        simp only [Attempt.bind_done, announce, report?, metrics, reception, List.isEmpty_cons,
          Bool.not_false, Bool.and_true]
        cases pool.options.metrics with
        | false => rfl
        | true =>
          simp only [if_true]
          cases around.record (metricsOf batch.results (pool.options.chunkCount (task :: rest))) <;>
            rfl

/-- Where whoever is told of the batch does not crash, only the tasks decide the answer. -/
theorem parseFiles_heard (same : ∀ number, factory number = .done router)
    (prepared : Prepared router pool) (accepts : pool.disposed = false)
    (calm : pool.Calm router around.fates tasks) (inTime : ¬ pool.Overdue around.clock tasks)
    (heard : pool.Heard around.record) :
    (parseFiles factory pool around tasks).1.map (Except.map Batch.results) =
      (Task.runAll router tasks).map .ok := by
  rw [parseFiles_eq same prepared accepts calm inTime]
  simp only [heard.reception, Attempt.map_done]
  rfl

/-- Where there is no moment to wait until, the call crashes. -/
theorem parseFiles_overdue (factory : RouterFactory) (accepts : pool.disposed = false)
    (overdue : pool.Overdue around.clock tasks) :
    (parseFiles factory pool around tasks).1 = .crash (.some Clock.overflow) := by
  obtain ⟨some, large, late⟩ := overdue
  rw [parseFiles, if_neg (by simp [accepts]), if_neg (by simpa using some), readBatch,
    if_neg (by simp [large]), dispatch_too_late late]
  rfl

end

/-- A use of a pool. -/
inductive Use where
  | parse (around : Circumstances) (tasks : List Task)
  | dispose

/-- A pool after a use of it. -/
def serve (factory : RouterFactory) (pool : Pool) : Use → Pool
  | .parse around tasks => (parseFiles factory pool around tasks).2
  | .dispose => pool.dispose

/-- A pool after some uses of it, the latest first. -/
def after (factory : RouterFactory) (options : PoolOptions) : List Use → Pool
  | [] => .new options
  | use :: past => (after factory options past).serve factory use

theorem serve_prepared {factory : RouterFactory} {router : Router Reader}
    (same : ∀ number, factory number = .done router) {pool : Pool}
    (prepared : Prepared router pool) (use : Use) : Prepared router (pool.serve factory use) := by
  cases use with
  | parse around tasks => exact parseFiles_prepared same prepared around tasks
  | dispose =>
    simp only [serve, dispose]
    split
    · exact prepared
    · intro other found
      cases found

theorem after_prepared {factory : RouterFactory} {router : Router Reader}
    (same : ∀ number, factory number = .done router) (options : PoolOptions) (past : List Use) :
    Prepared router (after factory options past) := by
  induction past with
  | nil =>
    intro other found
    cases found
  | cons use past ih => exact serve_prepared same ih use

/-- Where the factory builds one and the same router and no chunk is disturbed, a pool answers with
the results of the tasks done one after the other, and it crashes only where that does; or where a
shared batch is to be waited for until a moment that the clock does not have, which ends the call
before there are results; or where whoever is told of the batch crashes. This is so whatever the pool
was used for before, however many workers it has, from whichever size on it shares batches out, and
in whatever order the workers take turns; so two pools answer alike. -/
theorem pool_shape_does_not_show (router : Router Reader) (factory : RouterFactory)
    (same : ∀ number, factory number = .done router) (options : PoolOptions) (past : List Use)
    (around : Circumstances) (tasks : List Task)
    (accepts : (after factory options past).disposed = false)
    (calm : (after factory options past).Calm router around.fates tasks) :
    let pool := after factory options past
    let answer := (parseFiles factory pool around tasks).1
    (pool.Overdue around.clock tasks → answer = .crash (some Clock.overflow)) ∧
    (¬ pool.Overdue around.clock tasks →
      answer.map (Except.map Batch.results) =
        (Task.runAll router tasks).bind fun results =>
          (pool.reception around.record tasks results).map fun _ => .ok results) ∧
    (¬ pool.Overdue around.clock tasks → pool.Heard around.record →
      answer.map (Except.map Batch.results) = (Task.runAll router tasks).map .ok ∧
      ((∀ task ∈ tasks, ∃ result, task.run router = .done result) →
        ∃ batch, answer = .done (.ok batch) ∧
          tasks.map (Task.run router) = batch.results.map .done) ∧
      ∀ (options' : PoolOptions) (past' : List Use) (around' : Circumstances),
        let other := after factory options' past'
        other.disposed = false → other.Calm router around'.fates tasks →
        ¬ other.Overdue around'.clock tasks → other.Heard around'.record →
        (parseFiles factory other around' tasks).1.map (Except.map Batch.results) =
          answer.map (Except.map Batch.results)) ∧
    (pool.isSmall tasks = false → ∀ results,
      pool.Returns around.clock tasks (fun index => ⟨.done router, around.fates index⟩)
        (.done results) →
        tasks.map (Task.run router) = results.map .done) := by
  intro pool answer
  have prepared := after_prepared same options past
  refine ⟨parseFiles_overdue factory accepts,
    parseFiles_eq same prepared accepts calm, ?_, ?_⟩
  · intro reached heard
    have answers : answer.map (Except.map Batch.results) = (Task.runAll router tasks).map .ok :=
      parseFiles_heard same prepared accepts calm reached heard
    refine ⟨answers, ?_, ?_⟩
    · intro each
      obtain ⟨results, ran⟩ := Task.runAll_of_each each
      rw [ran] at answers
      match answer, answers with
      | .done (.ok batch), answers =>
        cases answers
        exact ⟨batch, rfl, Task.runAll_eq_done_iff.mp ran⟩
    · intro options' past' around' other open' calm' reached' heard'
      rw [answers]
      exact parseFiles_heard same (after_prepared same options' past') open' calm' reached' heard'
  · intro shared results returns
    exact Task.runAll_eq_done_iff.mp (returns.2.runs_all (calm shared))

/-- Two files are read alike on the spot, by a pool that was used before, and by two workers. -/
theorem two_files_read_alike :
    let reader : Reader := fun content _ => .done (.ok ⟨[⟨content, 1⟩], [], []⟩)
    let router : Router Reader := ⟨[("c", ⟨"c", [], reader⟩)], []⟩
    let tasks : List Task := [⟨"a", "x", some "c"⟩, ⟨"b", "y", some "c"⟩]
    let factory : RouterFactory := fun _ => .done router
    let calm : Circumstances := .calm ⟨0, 2000000000⟩
    let used := after factory ⟨0, 5, .ofMillis 1000, false⟩ [.parse calm tasks]
    let fresh := after factory ⟨2, 1, .ofMillis 1000, false⟩ []
    used.isSmall tasks = true ∧ fresh.isSmall tasks = false ∧
      (parseFiles factory fresh calm tasks).1.map (Except.map Batch.results) =
        (parseFiles factory used calm tasks).1.map (Except.map Batch.results) := by
  intro reader router tasks factory calm used fresh
  have small : used.isSmall tasks = true := by decide
  have shared : fresh.isSmall tasks = false := by decide
  have inline : used.Calm router calm.fates tasks := by
    intro large
    rw [small] at large
    cases large
  have completed : fresh.Calm router calm.fates tasks := by
    intro _ index chunk inside
    have chunks : chunksOf tasks fresh.options.poolSize =
        [[⟨"a", "x", some "c"⟩], [⟨"b", "y", some "c"⟩]] := by decide
    rw [chunks] at inside
    match index, inside with
    | 0, rfl => rfl
    | 1, rfl => rfl
  have early : ¬ used.Overdue calm.clock tasks := by
    rintro ⟨-, large, -⟩
    rw [small] at large
    cases large
  have reached : ¬ fresh.Overdue calm.clock tasks := by
    rintro ⟨-, -, late⟩
    exact absurd late (by decide)
  obtain ⟨-, -, agree, -⟩ := pool_shape_does_not_show router factory (fun _ => rfl)
    ⟨0, 5, .ofMillis 1000, false⟩ [.parse calm tasks] calm tasks (by decide) inline
  exact ⟨small, shared, (agree early fun _ _ => rfl).2.2 ⟨2, 1, .ofMillis 1000, false⟩ [] calm
    (by decide) completed reached fun _ _ => rfl⟩

end Pool

end SourceFacts

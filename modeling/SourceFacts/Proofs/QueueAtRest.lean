import SourceFacts.Proofs.BatchAgreement
import SourceFacts.Proofs.QueueCounts

/-! A pool whose workers have all ended. No worker is counted any more, and the queue is empty
unless a worker crashed: the task it crashed at and those after it are never taken off, until the
pool is shut down. Whole calls are runs of single moves, after which every worker has ended, so
this is what a pool shows between any two calls. -/
namespace SourceFacts

namespace Pool

/-- A worker's step depends on what befalls it only as far as it can tell. -/
theorem advance_congr {lot other : Lot} {pool : Pool} {worker : Worker}
    (starts : lot.fate.starts = other.fate.starts)
    (stops : lot.fate.stops worker.finished.length = other.fate.stops worker.finished.length)
    (router : worker.state = .starting → lot.router = other.router) :
    advance lot pool worker = advance other pool worker := by
  obtain ⟨paths, finished, remaining, state⟩ := worker
  cases state with
  | starting => simp only [advance, starts, router rfl]
  | running _ => simp only [advance, stops]
  | ended | crashed message => rfl

/-- A worker that takes a step is no longer about to begin. -/
theorem Step.begun {lot : Lot} {pool : Pool} {worker : Worker} {after : Pool × Worker}
    (step : Step lot pool worker after) (starts : lot.fate.starts = true) :
    after.2.state ≠ .starting := by
  cases step with
  | idle rests =>
    rcases rests with ended | ⟨-, never⟩
    · intro (state : worker.state = .starting)
      simp [Worker.hasEnded, state] at ended
    · simp [starts] at never
  | works state _ _ _ | givesUp state _ _ => simp [state]
  | begins | failsToBegin | crashes | ends => simp

/-- What a call leaves of the pool. -/
theorem parseFiles_pool (factory : RouterFactory) (pool : Pool) (around : Circumstances)
    (tasks : List Task) :
    (parseFiles factory pool around tasks).2 =
      if pool.disposed || tasks.isEmpty then pool
      else if pool.isSmall tasks then (runInline factory pool tasks).2
      else (dispatch factory pool around tasks).2 := by
  simp only [parseFiles, readBatch, apply_ite Prod.snd]
  cases pool.disposed <;> cases tasks.isEmpty <;> rfl

end Pool

namespace Floor

/-- The tasks that crashed workers have left behind. -/
def abandoned (floor : Floor) : List Task :=
  (floor.workers.filter Worker.hasCrashed).flatMap Worker.remaining

theorem Balanced.abandoned_nil_iff {floor : Floor} (balanced : floor.Balanced)
    (rest : floor.AtRest) :
    floor.abandoned = [] ↔ ∀ worker ∈ floor.workers, worker.hasCrashed = false := by
  rw [abandoned, List.flatMap_eq_nil_iff]
  constructor
  · intro none worker member
    cases crashed : worker.hasCrashed with
    | false => rfl
    | true =>
      have left := none worker (List.mem_filter.mpr ⟨member, crashed⟩)
      rw [← crashed]
      exact ((balanced.tidy worker member).remaining (rest worker member)).mp left
  · intro sound worker member
    obtain ⟨member, crashed⟩ := List.mem_filter.mp member
    rw [sound worker member] at crashed
    cases crashed

/-- At rest nobody is at work, and all that is outstanding was left behind by a crash. -/
theorem Balanced.at_rest {floor : Floor} (balanced : floor.Balanced) (rest : floor.AtRest) :
    floor.atWork = [] ∧ floor.outstanding = floor.abandoned := by
  constructor
  · rw [atWork, List.filter_eq_nil_iff]
    intro worker member
    simp [rest worker member]
  · apply outstanding_eq_filter
    intro worker member sound
    exact ((balanced.tidy worker member).remaining (rest worker member)).mpr sound

/-- The pool is shut down, no chunk is waiting and nothing is queued. -/
structure Emptied (floor : Floor) : Prop where
  disposed : floor.pool.disposed = true
  waiting : floor.waiting = []
  queued : floor.pool.queuedTasks = 0

theorem emptied_of_dispose {floor : Floor} (accepts : floor.pool.disposed = false)
    (waiting : floor.waiting = []) (factory : RouterFactory) :
    (floor.take factory .dispose).Emptied := by
  have shut : floor.pool.dispose.disposed = true ∧ floor.pool.dispose.queuedTasks = 0 := by
    simp [Pool.dispose, accepts]
  exact ⟨shut.1, waiting, shut.2⟩

theorem Emptied.change {floor : Floor} (emptied : floor.Emptied) (index : Nat)
    (deed : Pool → Post → Pool × Post)
    (counts : ∀ pool post,
      Pool.Counts pool post.worker ((deed pool post).1, (deed pool post).2.worker)) :
    (floor.change index deed).Emptied := by
  unfold Floor.change
  split
  · exact emptied
  next post found =>
    have counts := counts floor.pool post
    refine ⟨counts.disposed.trans emptied.disposed, emptied.waiting, ?_⟩
    rw [counts.queued, emptied.queued, Nat.zero_sub]

/-- Where nothing is queued, workers have nothing to take off, and no others are hired. -/
theorem Emptied.take {floor : Floor} (emptied : floor.Emptied) (factory : RouterFactory)
    (move : Move) : (floor.take factory move).Emptied := by
  cases move with
  | submit tasks =>
    simp only [Floor.take, emptied.disposed]
    exact emptied
  | spawn chunk | failSpawn chunk =>
    simp only [Floor.take, emptied.waiting]
    exact emptied
  | step worker notices =>
    exact emptied.change worker (advance factory notices) (advance_counts factory notices)
  | timeOut worker =>
    exact emptied.change worker (fun pool post => (pool, post.told)) told_counts
  | dispose =>
    have same : floor.pool.dispose = floor.pool := if_pos emptied.disposed
    simp only [Floor.take, same]
    exact ⟨emptied.disposed, emptied.waiting, emptied.queued⟩

theorem Emptied.run {floor : Floor} (emptied : floor.Emptied) (factory : RouterFactory)
    (moves : List Move) : (floor.run factory moves).Emptied := by
  induction moves generalizing floor with
  | nil => exact emptied
  | cons move rest ih => exact ih (emptied.take factory move)

/-! ## Calls as runs of moves -/

theorem run_append (factory : RouterFactory) (floor : Floor) (first second : List Move) :
    floor.run factory (first ++ second) = (floor.run factory first).run factory second :=
  List.foldl_append

/-- A worker of the floor takes the step that its lot has for it, if it is told to stop no later
than it has to. -/
theorem advance_follows {factory : RouterFactory} {lot : Lot} {pool : Pool} {post : Post}
    (starts : lot.fate.starts = true)
    (router : post.worker.state = .starting → lot.router = factory pool.routersBuilt)
    (told : lot.fate.stops post.worker.finished.length = true → post.stopped = true) :
    advance factory (lot.fate.stops post.worker.finished.length) pool post =
      ((pool.advance lot post.worker).1,
        { post with worker := (pool.advance lot post.worker).2 }) := by
  have same : pool.advance
      ⟨factory pool.routersBuilt, post.fate (lot.fate.stops post.worker.finished.length)⟩
      post.worker = pool.advance lot post.worker := by
    apply Pool.advance_congr
    · rw [starts, Post.fate]
      split <;> rfl
    · cases stops : lot.fate.stops post.worker.finished.length with
      | true => simp [Post.fate, told stops, Fate.stops]
      | false => simp [Post.fate, Fate.stops]
    · exact fun state => (router state).symm
  rw [Floor.advance, same]

/-- A worker can take any number of steps in a row. -/
theorem run_stride (factory : RouterFactory) {lot : Lot} (starts : lot.fate.starts = true)
    {posts : List Post} {index : Nat} {post : Post} (found : posts[index]? = some post)
    {pool : Pool}
    (router : post.worker.state = .starting → lot.router = factory pool.routersBuilt)
    (told : ∀ done, lot.fate.stops done = true → post.stopped = true)
    (waiting : List (List Task)) (count : Nat) :
    ∃ moves, run factory ⟨pool, waiting, posts⟩ moves =
      ⟨(pool.stride lot count post.worker).1, waiting,
        posts.set index { post with worker := (pool.stride lot count post.worker).2 }⟩ := by
  obtain ⟨bound, here⟩ := List.getElem?_eq_some_iff.mp found
  induction count generalizing pool posts post with
  | zero =>
    subst here
    exact ⟨[], congrArg (Floor.mk pool waiting) (List.set_getElem_self bound).symm⟩
  | succ count ih =>
    let notices := lot.fate.stops post.worker.finished.length
    have step := Pool.advance_step lot pool post.worker
    have first : take factory ⟨pool, waiting, posts⟩ (.step index notices) =
        ⟨(pool.advance lot post.worker).1, waiting,
          posts.set index { post with worker := (pool.advance lot post.worker).2 }⟩ := by
      simp [take, change, found, notices, advance_follows starts router (told _)]
    obtain ⟨moves, others⟩ := @ih (posts.set index _)
      { post with worker := (pool.advance lot post.worker).2 } (List.getElem?_set_self bound)
      (pool.advance lot post.worker).1 (fun state => absurd state (step.begun starts)) told
      (by simpa using bound) (by simp)
    refine ⟨.step index notices :: moves, ?_⟩
    rw [run, List.foldl_cons, first, ← run, others, List.set_set]
    rfl

/-- A worker can go through its chunk to the end. -/
theorem run_complete (factory : RouterFactory) {fate : Fate} (starts : fate.starts = true)
    {posts : List Post} {index : Nat} {chunk : List Task}
    (found : posts[index]? = some ⟨.new chunk, false⟩) (pool : Pool)
    (waiting : List (List Task)) :
    ∃ moves stopped, run factory ⟨pool, waiting, posts⟩ moves =
      ⟨(pool.complete factory (.new chunk) fate).1, waiting,
        posts.set index ⟨(pool.complete factory (.new chunk) fate).2, stopped⟩⟩ := by
  rw [← Pool.stride_eq_complete]
  by_cases stops : ∃ done, fate.stops done = true
  · have bound := (List.getElem?_eq_some_iff.mp found).choose
    obtain ⟨moves, others⟩ := @run_stride factory ⟨factory pool.routersBuilt, fate⟩ starts
      (posts.set index ⟨.new chunk, true⟩) index ⟨.new chunk, true⟩ (List.getElem?_set_self bound)
      pool (fun _ => rfl) (fun _ _ => rfl) waiting (chunk.length + 2)
    have first : take factory ⟨pool, waiting, posts⟩ (.timeOut index) =
        ⟨pool, waiting, posts.set index ⟨.new chunk, true⟩⟩ := by
      simp [take, change, found, Post.told]
    refine ⟨.timeOut index :: moves, true, ?_⟩
    rw [run, List.foldl_cons, first, ← run, others, List.set_set]
  · obtain ⟨moves, others⟩ := @run_stride factory ⟨factory pool.routersBuilt, fate⟩ starts
      posts index _ found pool (fun _ => rfl) (fun done stop => absurd ⟨done, stop⟩ stops) waiting
      (chunk.length + 2)
    exact ⟨moves, false, others⟩

/-- Where the workers of a batch stand on the floor; a chunk without a worker has no place. -/
def placed (workers : List (Worker × Fate)) : List Post :=
  (workers.filter (·.2.starts)).map fun held => ⟨held.1, false⟩

/-- The workers of a batch can go through their chunks one after the other. -/
theorem run_forEach (factory : RouterFactory) (pool : Pool) (waiting : List (List Task))
    (front : List Post) (workers : List (Worker × Fate))
    (fresh : ∀ held ∈ workers, ∃ chunk, held.1 = .new chunk) :
    ∃ moves back, run factory ⟨pool, waiting, front ++ placed workers⟩ moves =
        ⟨(pool.forEach (Pool.complete factory) workers).1, waiting, front ++ back⟩ ∧
      ∀ post ∈ back, post.worker.hasEnded = true := by
  induction workers generalizing pool front with
  | nil => exact ⟨[], [], rfl, List.forall_mem_nil _⟩
  | cons held rest ih =>
    obtain ⟨worker, fate⟩ := held
    rw [List.forall_mem_cons] at fresh
    obtain ⟨⟨chunk, rfl⟩, fresh⟩ := fresh
    cases starts : fate.starts with
    | false =>
      have idle : pool.complete factory (.new chunk) fate = (pool, .new chunk) := by
        cases fate with
        | notStarted reason => rfl
        | undisturbed | lost | cancelled before | timedOut before => cases starts
      have absent : placed ((.new chunk, fate) :: rest) = placed rest := by simp [placed, starts]
      obtain ⟨moves, back, others, ended⟩ := ih pool front fresh
      refine ⟨moves, back, ?_, ended⟩
      rw [absent, others, Pool.forEach, idle]
    | true =>
      have present : placed ((.new chunk, fate) :: rest) = ⟨.new chunk, false⟩ :: placed rest := by
        simp [placed, starts]
      have found : (front ++ ⟨.new chunk, false⟩ :: placed rest)[front.length]? =
          some ⟨.new chunk, false⟩ := by simp
      obtain ⟨first, stopped, goes⟩ := run_complete factory starts found pool waiting
      let last : Post := ⟨(pool.complete factory (.new chunk) fate).2, stopped⟩
      obtain ⟨moves, back, others, ended⟩ :=
        ih (pool.complete factory (.new chunk) fate).1 (front ++ [last]) fresh
      refine ⟨first ++ moves, last :: back, ?_, ?_⟩
      · rw [present, run_append, goes]
        simpa [Pool.forEach, last] using others
      · exact List.forall_mem_cons.mpr ⟨Pool.complete_hasEnded starts factory pool chunk, ended⟩

/-- The chunks of a batch can be given to workers one after the other. -/
theorem run_spawnAll (factory : RouterFactory) {pool : Pool} (accepts : pool.disposed = false)
    (fated : List (List Task × Fate)) (posts : List Post) :
    ∃ moves, run factory ⟨pool, fated.map Prod.fst, posts⟩ moves =
      ⟨(pool.spawnAll fated).1, [], posts ++ placed (pool.spawnAll fated).2⟩ := by
  induction fated generalizing pool posts with
  | nil => exact ⟨[], by simp [run, Pool.spawnAll, placed]⟩
  | cons first rest ih =>
    obtain ⟨chunk, fate⟩ := first
    cases fate with
    | notStarted reason =>
      obtain ⟨moves, others⟩ := @ih (pool.failSpawn chunk).1 accepts posts
      exact ⟨.failSpawn 0 :: moves, others⟩
    | undisturbed | lost | cancelled before | timedOut before =>
      have joins (waiting : List (List Task)) :
          take factory ⟨pool, chunk :: waiting, posts⟩ (.spawn 0) =
            ⟨(pool.spawn chunk).1, waiting, posts ++ [⟨.new chunk, false⟩]⟩ := by
        simp [take, Pool.spawn, Pool.enlist, accepts]
      obtain ⟨moves, others⟩ := @ih (pool.spawn chunk).1 accepts (posts ++ [⟨.new chunk, false⟩])
      refine ⟨.spawn 0 :: moves, ?_⟩
      rw [run, List.foldl_cons, List.map_cons, joins, ← run, others]
      simp [Pool.spawnAll, placed, Fate.starts, Pool.spawn]

/-- A batch that is shared out can be read to the end. -/
theorem run_dispatch (factory : RouterFactory) {pool : Pool} (around : Circumstances)
    {tasks : List Task} (accepts : pool.disposed = false) (some : tasks.isEmpty = false)
    (large : pool.isSmall tasks = false) (posts : List Post) :
    ∃ moves back, run factory ⟨pool, [], posts⟩ moves =
        ⟨(pool.dispatch factory around tasks).2, [], posts ++ back⟩ ∧
      ∀ post ∈ back, post.worker.hasEnded = true := by
  obtain ⟨fates, -, left⟩ := Pool.dispatch_pool factory pool around tasks
  let chunks := chunksOf tasks pool.options.poolSize
  let fated := chunks.zipIdx.map fun numbered => (numbered.1, fates numbered.2)
  let counted := { pool with batchesDispatched := pool.batchesDispatched + 1 }
  have submitted : take factory ⟨pool, [], posts⟩ (.submit tasks) =
      ⟨counted, fated.map Prod.fst, posts⟩ := by
    simp [take, accepts, some, large, counted, fated, chunks, Function.comp_def]
  obtain ⟨spawning, spawned⟩ := @run_spawnAll factory counted accepts fated posts
  obtain ⟨working, back, worked, ended⟩ := run_forEach factory (counted.spawnAll fated).1 [] posts
    (counted.spawnAll fated).2 (Pool.spawnAll_fresh counted fated)
  refine ⟨.submit tasks :: spawning ++ working, back, ?_, ended⟩
  rw [List.cons_append, run, List.foldl_cons, submitted, ← run, run_append, spawned, worked, left]
  rfl

/-- Whatever a pool is used for, there are moves that do it, after which no worker is left. -/
theorem run_serve (factory : RouterFactory) (pool : Pool) {posts : List Post}
    (rest : ∀ post ∈ posts, post.worker.hasEnded = true) (use : Pool.Use) :
    ∃ moves later, run factory ⟨pool, [], posts⟩ moves = ⟨pool.serve factory use, [], later⟩ ∧
      ∀ post ∈ later, post.worker.hasEnded = true := by
  cases use with
  | dispose =>
    refine ⟨[.dispose], posts.map Post.told, rfl, ?_⟩
    intro post member
    obtain ⟨earlier, stood, rfl⟩ := List.mem_map.mp member
    exact rest earlier stood
  | parse around tasks =>
    rw [Pool.serve, Pool.parseFiles_pool]
    cases refused : pool.disposed || tasks.isEmpty with
    | true => exact ⟨[], posts, rfl, rest⟩
    | false =>
      cases small : pool.isSmall tasks with
      | true =>
        refine ⟨[.submit tasks], posts, ?_, rest⟩
        simp [run, take, refused, small]
      | false =>
        obtain ⟨accepts, some⟩ := Bool.or_eq_false_iff.mp refused
        obtain ⟨moves, back, others, ended⟩ :=
          run_dispatch factory around accepts some small posts
        exact ⟨moves, posts ++ back, others, List.forall_mem_append.mpr ⟨rest, ended⟩⟩

theorem run_after (factory : RouterFactory) (options : PoolOptions) (uses : List Pool.Use) :
    ∃ moves posts,
      run factory (new options) moves = ⟨Pool.after factory options uses, [], posts⟩ ∧
        ∀ post ∈ posts, post.worker.hasEnded = true := by
  induction uses with
  | nil => exact ⟨[], [], rfl, List.forall_mem_nil _⟩
  | cons use past ih =>
    obtain ⟨moves, posts, reached, rest⟩ := ih
    obtain ⟨others, later, served, ended⟩ := run_serve factory _ rest use
    refine ⟨moves ++ others, later, ?_, ended⟩
    rw [run_append, reached, served]
    rfl

/-- Once every worker has ended, whatever happened before, the pool counts none as active, and as
queued it counts at most the tasks that crashed workers left behind. Until the pool is shut down it
counts all of these, and there are some as soon as a worker has crashed: so the queue empties
by itself just where no worker crashes. Shutting the pool down empties it for good, unless chunks
are still waiting for workers. Between calls every worker has ended. -/
theorem queue_keeps_what_crashes_leave (factory : RouterFactory) (options : PoolOptions) :
    (∀ moves,
      let floor := (new options).run factory moves
      floor.AtRest →
        floor.pool.activeWorkers = 0 ∧
        floor.pool.queuedTasks ≤ floor.abandoned.length ∧
        (floor.pool.disposed = false → floor.pool.queuedTasks = floor.abandoned.length) ∧
        (floor.abandoned = [] ↔ ∀ worker ∈ floor.workers, worker.hasCrashed = false)) ∧
    (∀ moves later,
      let floor := (new options).run factory moves
      floor.pool.disposed = false → floor.waiting = [] →
        (floor.run factory (.dispose :: later)).pool.queuedTasks = 0) ∧
    ∀ uses : List Pool.Use, ∃ moves,
      let floor := (new options).run factory moves
      floor.AtRest ∧ floor.pool = Pool.after factory options uses := by
  refine ⟨?_, ?_, ?_⟩
  · intro moves floor rest
    have balanced : floor.Balanced := (new_balanced options).run factory moves
    obtain ⟨nobody, left⟩ := balanced.at_rest rest
    refine ⟨?_, ?_, ?_, balanced.abandoned_nil_iff rest⟩
    · rw [balanced.active, nobody, List.length_nil]
    · rw [← left]
      exact balanced.queued_le
    · intro accepts
      rw [← left]
      exact balanced.queued accepts
  · intro moves later floor accepts waiting
    exact ((emptied_of_dispose accepts waiting factory).run factory later).queued
  · intro uses
    obtain ⟨moves, posts, reached, ended⟩ := run_after factory options uses
    refine ⟨moves, ?_, by rw [reached]⟩
    intro worker member
    rw [reached] at member
    obtain ⟨post, stood, rfl⟩ := List.mem_map.mp member
    exact ended post stood

/-- One worker does its only task and ends; another does its first task and crashes at the second,
which stays queued until the pool is shut down. -/
theorem crash_at_second_task_leaves_one :
    let reader : Reader := fun content _ =>
      if content = "!" then .crash none else .done (.ok ⟨[⟨content, 1⟩], [], []⟩)
    let router : Router Reader := ⟨[("c", ⟨"c", [], reader⟩)], []⟩
    let tasks : List Task := [⟨"a", "x", some "c"⟩, ⟨"b", "!", some "c"⟩, ⟨"d", "z", some "c"⟩]
    let moves : List Move :=
      [.submit tasks, .spawn 0, .spawn 0, .step 0 false, .step 1 false, .step 0 false,
        .step 1 false, .step 0 false, .step 1 false]
    let floor := (new ⟨2, 1, .ofMillis 1000, false⟩).run (fun _ => .done router) moves
    floor.AtRest ∧ floor.abandoned = [⟨"b", "!", some "c"⟩] ∧
      floor.pool.activeWorkers = 0 ∧ floor.pool.queuedTasks = 1 ∧
      (floor.run (fun _ => .done router) [.dispose]).pool.queuedTasks = 0 := by
  intro reader router tasks moves floor
  have rest : floor.AtRest := by decide
  have accepts : floor.pool.disposed = false := by decide
  have waiting : floor.waiting = [] := by decide
  have left : floor.abandoned = [⟨"b", "!", some "c"⟩] := by decide
  have one : floor.abandoned.length = 1 := by rw [left]; rfl
  have kept := queue_keeps_what_crashes_leave (fun _ => .done router) ⟨2, 1, .ofMillis 1000, false⟩
  clear_value moves
  have counted := kept.1 moves rest
  have queued := counted.2.2.1 accepts
  exact ⟨rest, left, counted.1, queued.trans one, kept.2.1 moves [] accepts waiting⟩

/-- A worker crashes at its only task. The call returns, no worker is left, and the task is still
queued. -/
theorem crashed_task_stays_queued :
    let reader : Reader := fun _ _ => .crash (some "boom")
    let router : Router Reader := ⟨[("c", ⟨"c", [], reader⟩)], []⟩
    let tasks : List Task := [⟨"a", "x", some "c"⟩]
    let options : PoolOptions := ⟨1, 1, .ofMillis 1000, false⟩
    let moves : List Move := [.submit tasks, .spawn 0, .step 0 false, .step 0 false]
    let floor := (new options).run (fun _ => .done router) moves
    let called :=
      Pool.after (fun _ => .done router) options [.parse (.calm ⟨0, 2000000000⟩) tasks]
    floor.AtRest ∧ floor.pool.activeWorkers = 0 ∧ floor.pool.queuedTasks = 1 ∧
      called.activeWorkers = 0 ∧ called.queuedTasks = 1 := by
  decide

end Floor

end SourceFacts

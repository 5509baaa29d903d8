import SourceFacts.Proofs.Chunks
import SourceFacts.Proofs.WorkerCourse

/-! All the workers of a pool at once. Any number of batches may be under way: their chunks wait
for workers, and the workers take their steps in whatever order, while chunks run out of time and
the pool is shut down. What the pool counts changes in single steps only, and it comes to what
there is: the workers that have not ended and, until the pool is shut down, the tasks that its
workers have not accounted for. So nothing is ever taken off that was not counted in. -/
namespace SourceFacts

namespace Worker

/-- Whether the worker has crashed. -/
def hasCrashed (worker : Worker) : Bool :=
  match worker.state with
  | .crashed _ => true
  | _ => false

/-- What the worker adds to the number of those at work. -/
def attendance (worker : Worker) : Nat := if worker.hasEnded then 0 else 1

/-- A worker that ends of its own accord has no task left. One that has not begun has some, and
so has one that crashed. -/
def Tidy (worker : Worker) : Prop :=
  match worker.state with
  | .starting | .crashed _ => worker.remaining ≠ []
  | .running _ => True
  | .ended => worker.remaining = []

theorem Tidy.remaining {worker : Worker} (tidy : worker.Tidy) (ended : worker.hasEnded = true) :
    worker.remaining = [] ↔ worker.hasCrashed = false := by
  obtain ⟨paths, finished, remaining, state⟩ := worker
  cases state with
  | starting | running router => cases ended
  | ended => exact iff_of_true tidy rfl
  | crashed message => exact iff_of_false tidy nofun

end Worker

namespace Pool

/-- What something that happens to a worker does to the counts: the pool takes off what the worker
no longer stands for. -/
structure Counts (pool : Pool) (worker : Worker) (after : Pool × Worker) : Prop where
  disposed : after.1.disposed = pool.disposed
  leaves : after.2.attendance ≤ worker.attendance
  active : after.1.activeWorkers = pool.activeWorkers - (worker.attendance - after.2.attendance)
  strikes : after.2.remaining.length ≤ worker.remaining.length
  queued : after.1.queuedTasks =
    pool.queuedTasks - (worker.remaining.length - after.2.remaining.length)
  tidy : worker.Tidy → after.2.Tidy

theorem Counts.refl (pool : Pool) (worker : Worker) : Counts pool worker (pool, worker) :=
  ⟨rfl, Nat.le_refl _, by simp, Nat.le_refl _, by simp, id⟩

theorem Step.counts {lot : Lot} {pool : Pool} {worker : Worker} {after : Pool × Worker}
    (step : Step lot pool worker after) : Counts pool worker after := by
  obtain ⟨paths, finished, remaining, state⟩ := worker
  cases step with
  | idle rests => exact .refl pool _
  | begins state built =>
    cases state
    exact ⟨rfl, Nat.le_refl _, rfl, Nat.le_refl _, by simp, fun _ => trivial⟩
  | failsToBegin state crash =>
    cases state
    exact ⟨rfl, Nat.zero_le _, rfl, Nat.le_refl _, by simp [release], id⟩
  | works state next goes ran =>
    cases state
    cases next
    exact ⟨rfl, Nat.le_refl _, rfl, Nat.le_succ _, by simp [dequeue], fun _ => trivial⟩
  | crashes state next goes ran =>
    cases state
    cases next
    exact ⟨rfl, Nat.zero_le _, rfl, Nat.le_refl _, by simp [release], fun _ => List.cons_ne_nil _ _⟩
  | givesUp state left stop =>
    cases state
    exact ⟨rfl, Nat.le_refl _, rfl, Nat.zero_le _, by simp [dequeue], fun _ => trivial⟩
  | ends state none =>
    cases state
    cases none
    exact ⟨rfl, Nat.zero_le _, rfl, Nat.le_refl _, by simp [release], fun _ => rfl⟩

/-- Reading on the spot changes the router at hand and two counts, and nothing else of a pool. -/
theorem runInline_pool (factory : RouterFactory) (pool : Pool) (tasks : List Task) :
    ∃ inlineRouter routersBuilt, (runInline factory pool tasks).2 =
      { pool with inlineRouter, routersBuilt, batchesInline := pool.batchesInline + 1 } := by
  obtain ⟨options, inlineRouter, built⟩ := pool
  cases inlineRouter with
  | some router =>
    simp only [runInline, inlineRouterOf]
    cases Task.runAll router tasks <;> exact ⟨_, _, rfl⟩
  | none =>
    simp only [runInline, inlineRouterOf]
    cases factory built with
    | crash message => exact ⟨_, _, rfl⟩
    | done router =>
      dsimp only
      cases Task.runAll router tasks <;> exact ⟨_, _, rfl⟩

/-- A batch that is read on the spot leaves workers and queue alone. -/
theorem runInline_counts (factory : RouterFactory) (pool : Pool) (tasks : List Task) :
    (runInline factory pool tasks).2.disposed = pool.disposed ∧
      (runInline factory pool tasks).2.activeWorkers = pool.activeWorkers ∧
      (runInline factory pool tasks).2.queuedTasks = pool.queuedTasks := by
  obtain ⟨inlineRouter, routersBuilt, later⟩ := runInline_pool factory pool tasks
  rw [later]
  exact ⟨rfl, rfl, rfl⟩

end Pool

/-! ## The floor -/

/-- A worker, and whether it has been told to stop. -/
structure Post where
  worker : Worker
  stopped : Bool

namespace Post

/-- The worker is told to stop. -/
def told (post : Post) : Post := { post with stopped := true }

/-- What befalls the worker at its next step. Once it has been told to stop it may notice. -/
def fate (post : Post) (notices : Bool) : Fate :=
  if post.stopped && notices then .cancelled post.worker.finished.length else .undisturbed

end Post

/-- A pool with the chunks that wait for a worker, of whatever batches, and with every worker
that it ever had. -/
structure Floor where
  pool : Pool
  waiting : List (List Task)
  posts : List Post

/-- What can happen next. Chunks and workers are known by their places. -/
inductive Move where
  /-- A batch is handed in. -/
  | submit (tasks : List Task)
  /-- A chunk is given to a new worker. -/
  | spawn (chunk : Nat)
  /-- There is no worker to be had for a chunk. -/
  | failSpawn (chunk : Nat)
  /-- A worker takes its next step: it begins, does a task, gives up the others if it notices
  that it has been told to stop, or ends. -/
  | step (worker : Nat) (notices : Bool)
  /-- A worker takes too long and is told to stop. -/
  | timeOut (worker : Nat)
  /-- The pool is shut down. -/
  | dispose

namespace Floor

/-- A pool that has done nothing. -/
def new (options : PoolOptions) : Floor := ⟨.new options, [], []⟩

/-- Every worker that the pool ever had. -/
def workers (floor : Floor) : List Worker := floor.posts.map Post.worker

/-- The workers that have not ended. -/
def atWork (floor : Floor) : List Worker := floor.workers.filter (!·.hasEnded)

/-- The tasks that workers have not accounted for. -/
def outstanding (floor : Floor) : List Task := floor.workers.flatMap Worker.remaining

/-- Every worker has ended. -/
def AtRest (floor : Floor) : Prop := ∀ worker ∈ floor.workers, worker.hasEnded = true

instance (floor : Floor) : Decidable floor.AtRest :=
  inferInstanceAs (Decidable (∀ worker ∈ floor.workers, worker.hasEnded = true))

/-- Something happens to one of the workers. -/
def change (floor : Floor) (index : Nat) (deed : Pool → Post → Pool × Post) : Floor :=
  match floor.posts[index]? with
  | none => floor
  | some post =>
    let (pool, post) := deed floor.pool post
    { floor with pool, posts := floor.posts.set index post }

/-- A worker takes its next step. -/
def advance (factory : RouterFactory) (notices : Bool) (pool : Pool) (post : Post) : Pool × Post :=
  let lot : Lot := ⟨factory pool.routersBuilt, post.fate notices⟩
  let (pool, worker) := pool.advance lot post.worker
  (pool, { post with worker })

/-- The floor after a move. -/
def take (factory : RouterFactory) (floor : Floor) : Move → Floor
  | .submit tasks =>
    if floor.pool.disposed || tasks.isEmpty then floor
    else if floor.pool.isSmall tasks then
      { floor with pool := (floor.pool.runInline factory tasks).2 }
    else
      { floor with
        pool := { floor.pool with batchesDispatched := floor.pool.batchesDispatched + 1 }
        waiting := floor.waiting ++ chunksOf tasks floor.pool.options.poolSize }
  | .spawn chunk =>
    match floor.waiting[chunk]? with
    | none => floor
    | some tasks =>
      let (pool, worker) := floor.pool.spawn tasks
      ⟨pool, floor.waiting.eraseIdx chunk, floor.posts ++ [⟨worker, pool.disposed⟩]⟩
  | .failSpawn chunk =>
    match floor.waiting[chunk]? with
    | none => floor
    | some tasks =>
      { floor with
        pool := (floor.pool.failSpawn tasks).1
        waiting := floor.waiting.eraseIdx chunk }
  | .step worker notices => floor.change worker (advance factory notices)
  | .timeOut worker => floor.change worker fun pool post => (pool, post.told)
  | .dispose => { floor with pool := floor.pool.dispose, posts := floor.posts.map Post.told }

/-- The floor after some moves, in this order. -/
def run (factory : RouterFactory) (floor : Floor) (moves : List Move) : Floor :=
  moves.foldl (take factory) floor

/-! ## Counts -/

/-- The pool counts what there is. -/
structure Balanced (floor : Floor) : Prop where
  waiting : ∀ chunk ∈ floor.waiting, chunk ≠ []
  tidy : ∀ worker ∈ floor.workers, worker.Tidy
  active : floor.pool.activeWorkers = floor.atWork.length
  queued_le : floor.pool.queuedTasks ≤ floor.outstanding.length
  queued : floor.pool.disposed = false → floor.pool.queuedTasks = floor.outstanding.length

theorem new_balanced (options : PoolOptions) : (new options).Balanced :=
  ⟨List.forall_mem_nil _, List.forall_mem_nil _, rfl, Nat.le_refl 0, fun _ => rfl⟩

/-- A floor with other chunks waiting and the same workers, whose pool has the same counts. -/
theorem Balanced.of_same {floor later : Floor} (balanced : floor.Balanced)
    (waiting : ∀ chunk ∈ later.waiting, chunk ≠ []) (workers : later.workers = floor.workers)
    (disposed : later.pool.disposed = floor.pool.disposed)
    (active : later.pool.activeWorkers = floor.pool.activeWorkers)
    (queued : later.pool.queuedTasks = floor.pool.queuedTasks) : later.Balanced := by
  have atWork : later.atWork = floor.atWork := by rw [Floor.atWork, workers, Floor.atWork]
  have outstanding : later.outstanding = floor.outstanding := by
    rw [Floor.outstanding, workers, Floor.outstanding]
  refine ⟨waiting, workers ▸ balanced.tidy, ?_, ?_, ?_⟩
  · rw [active, atWork, balanced.active]
  · rw [queued, outstanding]
    exact balanced.queued_le
  · intro accepts
    rw [queued, outstanding]
    exact balanced.queued (disposed ▸ accepts)

/-- A worker among the others: what happens to it leaves them alone. -/
theorem workers_around {posts : List Post} {index : Nat} {post : Post}
    (found : posts[index]? = some post) :
    ∃ front back, posts.map Post.worker = front ++ post.worker :: back ∧
      ∀ changed : Post,
        (posts.set index changed).map Post.worker = front ++ changed.worker :: back := by
  obtain ⟨bound, rfl⟩ := List.getElem?_eq_some_iff.mp found
  refine ⟨(posts.take index).map Post.worker, (posts.drop (index + 1)).map Post.worker, ?_, ?_⟩
  · rw [← List.map_cons, ← List.map_append, List.getElem_cons_drop, List.take_append_drop]
  · intro changed
    rw [List.set_eq_take_append_cons_drop, if_pos bound, List.map_append, List.map_cons]

/-- What is counted of all workers is the sum of what is counted of each. -/
theorem counted_around {floor : Floor} {front back : List Worker} {worker : Worker}
    (around : floor.workers = front ++ worker :: back) :
    floor.atWork.length =
        (front.filter (!·.hasEnded)).length + worker.attendance
          + (back.filter (!·.hasEnded)).length ∧
      floor.outstanding.length =
        (front.flatMap Worker.remaining).length + worker.remaining.length
          + (back.flatMap Worker.remaining).length := by
  constructor
  · rw [atWork, around, List.filter_append, List.length_append, Nat.add_assoc]
    cases ended : worker.hasEnded <;> simp [Worker.attendance, ended, Nat.add_comm]
  · rw [outstanding, around, List.flatMap_append, List.flatMap_cons, List.length_append,
      List.length_append, Nat.add_assoc]

/-- What counts for one worker keeps the balance. -/
theorem Balanced.recount {floor later : Floor} (balanced : floor.Balanced)
    {front back : List Worker} {worker changed : Worker}
    (around : floor.workers = front ++ worker :: back)
    (aroundLater : later.workers = front ++ changed :: back)
    (waiting : later.waiting = floor.waiting)
    (counts : Pool.Counts floor.pool worker (later.pool, changed)) : later.Balanced := by
  obtain ⟨active, outstanding⟩ := counted_around around
  obtain ⟨activeLater, outstandingLater⟩ := counted_around aroundLater
  have allTidy := balanced.tidy
  rw [around, List.forall_mem_append, List.forall_mem_cons] at allTidy
  obtain ⟨tidyFront, tidy, tidyBack⟩ := allTidy
  obtain ⟨disposed, leaves, left, strikes, struck, stays⟩ := counts
  dsimp only at disposed leaves left strikes struck
  refine ⟨waiting ▸ balanced.waiting, ?_, ?_, ?_, ?_⟩
  · rw [aroundLater, List.forall_mem_append, List.forall_mem_cons]
    exact ⟨tidyFront, stays tidy, tidyBack⟩
  · have := balanced.active
    omega
  · have := balanced.queued_le
    omega
  · intro accepts
    have := balanced.queued (disposed ▸ accepts)
    omega

theorem advance_counts (factory : RouterFactory) (notices : Bool) (pool : Pool) (post : Post) :
    Pool.Counts pool post.worker
      ((advance factory notices pool post).1, (advance factory notices pool post).2.worker) :=
  (Pool.advance_step _ pool post.worker).counts

theorem told_counts (pool : Pool) (post : Post) :
    Pool.Counts pool post.worker (pool, post.told.worker) :=
  .refl pool post.worker

theorem Balanced.change {floor : Floor} (balanced : floor.Balanced) (index : Nat)
    (deed : Pool → Post → Pool × Post)
    (counts : ∀ pool post,
      Pool.Counts pool post.worker ((deed pool post).1, (deed pool post).2.worker)) :
    (floor.change index deed).Balanced := by
  unfold Floor.change
  split
  · exact balanced
  next post found =>
    obtain ⟨front, back, around, changed⟩ := workers_around found
    exact balanced.recount around (changed _) rfl (counts floor.pool post)

/-- A new worker is counted in with its chunk. -/
theorem Balanced.enlist {floor later : Floor} (balanced : floor.Balanced) {chunk : List Task}
    (tasks : chunk ≠ []) (workers : later.workers = floor.workers ++ [.new chunk])
    (waiting : ∀ other ∈ later.waiting, other ∈ floor.waiting)
    (pool : later.pool = (floor.pool.spawn chunk).1) : later.Balanced := by
  obtain ⟨active, outstanding⟩ := counted_around workers
  have counted : later.pool.disposed = floor.pool.disposed ∧
      later.pool.activeWorkers = floor.pool.activeWorkers + 1 ∧
      later.pool.queuedTasks = floor.pool.queuedTasks + chunk.length := by
    rw [pool]
    exact ⟨rfl, rfl, rfl⟩
  obtain ⟨disposed, joined, queued⟩ := counted
  refine ⟨fun other member => balanced.waiting other (waiting other member), ?_, ?_, ?_, ?_⟩
  · rw [workers, List.forall_mem_append, List.forall_mem_singleton]
    exact ⟨balanced.tidy, tasks⟩
  · rw [joined, active, balanced.active]
    rfl
  · rw [queued, outstanding]
    exact Nat.add_le_add_right balanced.queued_le chunk.length
  · intro accepts
    rw [queued, outstanding, balanced.queued (disposed ▸ accepts)]
    rfl

/-- Shutting down forgets the queue, and only that. -/
theorem Balanced.dispose {floor : Floor} (balanced : floor.Balanced) :
    Balanced { floor with pool := floor.pool.dispose, posts := floor.posts.map Post.told } := by
  have workers : (floor.posts.map Post.told).map Post.worker = floor.workers := List.map_map
  cases disposed : floor.pool.disposed with
  | true =>
    have same : floor.pool.dispose = floor.pool := if_pos disposed
    rw [same]
    exact balanced.of_same balanced.waiting workers rfl rfl rfl
  | false =>
    have forgot : floor.pool.dispose.queuedTasks = 0 ∧ floor.pool.dispose.disposed = true ∧
        floor.pool.dispose.activeWorkers = floor.pool.activeWorkers := by
      simp [Pool.dispose, disposed]
    obtain ⟨none, shut, active⟩ := forgot
    refine ⟨balanced.waiting, ?_, ?_, ?_, ?_⟩
    · rw [Floor.workers, workers]
      exact balanced.tidy
    · rw [atWork, Floor.workers, workers, active]
      exact balanced.active
    · rw [none]
      exact Nat.zero_le _
    · intro accepts
      rw [shut] at accepts
      cases accepts

/-- Every move keeps the balance. -/
theorem Balanced.take {floor : Floor} (balanced : floor.Balanced) (factory : RouterFactory)
    (move : Move) : (floor.take factory move).Balanced := by
  cases move with
  | submit tasks =>
    simp only [Floor.take]
    split
    · exact balanced
    split
    · obtain ⟨disposed, active, queued⟩ := Pool.runInline_counts factory floor.pool tasks
      exact balanced.of_same balanced.waiting rfl disposed active queued
    · refine balanced.of_same ?_ rfl rfl rfl rfl
      exact List.forall_mem_append.mpr ⟨balanced.waiting, chunksOf_ne_nil tasks _⟩
  | spawn chunk =>
    simp only [Floor.take]
    split
    · exact balanced
    next tasks found =>
      have some := balanced.waiting tasks (List.mem_of_getElem? found)
      exact balanced.enlist some List.map_append (fun _ => List.mem_of_mem_eraseIdx) rfl
  | failSpawn chunk =>
    simp only [Floor.take]
    split
    · exact balanced
    next tasks found =>
      refine balanced.of_same ?_ rfl rfl (Nat.add_sub_cancel _ _) (Nat.add_sub_cancel _ _)
      exact fun other member => balanced.waiting other (List.mem_of_mem_eraseIdx member)
  | step worker notices =>
    exact balanced.change worker (advance factory notices) (advance_counts factory notices)
  | timeOut worker =>
    exact balanced.change worker (fun pool post => (pool, post.told)) told_counts
  | dispose => exact balanced.dispose

theorem Balanced.run {floor : Floor} (balanced : floor.Balanced) (factory : RouterFactory)
    (moves : List Move) : (floor.run factory moves).Balanced := by
  induction moves generalizing floor with
  | nil => exact balanced
  | cons move rest ih => exact ih (balanced.take factory move)

/-- All that is outstanding is with some of the workers, if the others have nothing left. -/
theorem outstanding_eq_filter {floor : Floor} (keep : Worker → Bool)
    (done : ∀ worker ∈ floor.workers, keep worker = false → worker.remaining = []) :
    floor.outstanding = (floor.workers.filter keep).flatMap Worker.remaining := by
  rw [outstanding]
  generalize floor.workers = workers at done ⊢
  induction workers with
  | nil => rfl
  | cons worker rest ih =>
    rw [List.forall_mem_cons] at done
    cases kept : keep worker with
    | true => simp [kept, ih done.2]
    | false => simp [kept, done.1 kept, ih done.2]

/-- However many batches are under way, and in whatever order chunks are given to workers, workers
take their steps and chunks run out of time: the pool counts as active the workers that it has
started and that have not ended. Unless a worker crashed or the pool was shut down, it counts as
queued the tasks that these have not accounted for. So whatever a worker takes off was counted in
for it, and no subtraction stops at zero. -/
theorem counters_are_exact (factory : RouterFactory) (options : PoolOptions) (moves : List Move) :
    let floor := (new options).run factory moves
    floor.pool.activeWorkers = floor.atWork.length ∧
    (∀ worker ∈ floor.atWork, floor.pool.release.activeWorkers + 1 = floor.pool.activeWorkers) ∧
    (floor.pool.disposed = false → (∀ worker ∈ floor.workers, worker.hasCrashed = false) →
      floor.pool.queuedTasks = (floor.atWork.flatMap Worker.remaining).length ∧
      ∀ worker ∈ floor.atWork, ∀ count ≤ worker.remaining.length,
        (floor.pool.dequeue count).queuedTasks + count = floor.pool.queuedTasks) := by
  intro floor
  have balanced : floor.Balanced := (new_balanced options).run factory moves
  refine ⟨balanced.active, ?_, ?_⟩
  · intro worker member
    have some : 0 < floor.atWork.length := List.length_pos_of_mem member
    rw [← balanced.active] at some
    exact Nat.sub_add_cancel some
  · intro accepts sound
    have queued := balanced.queued accepts
    have accounted : floor.outstanding = floor.atWork.flatMap Worker.remaining := by
      apply outstanding_eq_filter
      intro worker member ended
      have tidy := balanced.tidy worker member
      exact (tidy.remaining (by simpa using ended)).mpr (sound worker member)
    rw [accounted] at queued
    refine ⟨queued, ?_⟩
    intro worker member count held
    have part : worker.remaining.length ≤ (floor.atWork.flatMap Worker.remaining).length :=
      (List.sublist_flatten_of_mem (List.mem_map_of_mem member)).length_le
    exact Nat.sub_add_cancel (by omega)

/-- Two batches are under way. Of four chunks one is waiting and one found no worker; a worker has
done one of its two tasks, and another was told to stop and has given up its only one. -/
theorem two_batches_counted_midway :
    let reader : Reader := fun content _ => .done (.ok ⟨[⟨content, 1⟩], [], []⟩)
    let router : Router Reader := ⟨[("c", ⟨"c", [], reader⟩)], []⟩
    let first : List Task := [⟨"a", "u", some "c"⟩, ⟨"b", "v", some "c"⟩]
    let second : List Task := [⟨"d", "x", some "c"⟩, ⟨"e", "y", some "c"⟩, ⟨"f", "z", some "c"⟩]
    let moves : List Move :=
      [.submit first, .submit second, .spawn 0, .spawn 1, .step 1 false, .step 1 false,
        .failSpawn 1, .timeOut 0, .step 0 false, .step 0 true]
    let floor := (new ⟨2, 1, .ofMillis 1000, false⟩).run (fun _ => .done router) moves
    floor.pool.disposed = false ∧ (∀ worker ∈ floor.workers, worker.hasCrashed = false) ∧
      floor.waiting = [[⟨"b", "v", some "c"⟩]] ∧
      floor.pool.activeWorkers = 2 ∧ floor.pool.queuedTasks = 1 := by
  intro reader router first second moves floor
  have accepts : floor.pool.disposed = false := by decide
  have sound : ∀ worker ∈ floor.workers, worker.hasCrashed = false := by decide
  have waiting : floor.waiting = [[⟨"b", "v", some "c"⟩]] := by decide
  have two : floor.atWork.length = 2 := by decide
  have one : (floor.atWork.flatMap Worker.remaining).length = 1 := by decide
  have counted := counters_are_exact (fun _ => .done router) ⟨2, 1, .ofMillis 1000, false⟩ moves
  clear_value moves
  have active := counted.1
  have queued := (counted.2.2 accepts sound).1
  exact ⟨accepts, sound, waiting, active.trans two, queued.trans one⟩

end Floor

end SourceFacts

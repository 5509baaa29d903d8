import SourceFacts.Proofs.ChunkEnding
import SourceFacts.Proofs.Chunks

/-! A batch that is shared out. Its workers take their steps in any order; a schedule says
whose turn it is. Whatever the schedule, the results are one for each task and in order, and
every chunk has the results of its own ending, so a chunk that fails does so alone. -/
namespace SourceFacts

namespace Pool

/-- The worker of a chunk takes its next step. -/
def turn (lots : Nat → Lot) (batch : Pool × List (Worker × Fate)) (index : Nat) :
    Pool × List (Worker × Fate) :=
  match batch.2[index]? with
  | none => batch
  | some (worker, fate) =>
    let (pool, worker) := advance (lots index) batch.1 worker
    (pool, batch.2.set index (worker, fate))

/-- The workers of a batch take turns. -/
def interleave (lots : Nat → Lot) (schedule : List Nat) (batch : Pool × List (Worker × Fate)) :
    Pool × List (Worker × Fate) :=
  schedule.foldl (turn lots) batch

/-- Every worker that is waited for has ended. -/
def Settled (workers : List (Worker × Fate)) : Prop :=
  ∀ held ∈ workers, held.2.awaited = true → held.1.hasEnded = true

instance (workers : List (Worker × Fate)) : Decidable (Settled workers) :=
  inferInstanceAs (Decidable (∀ held ∈ workers, held.2.awaited = true → held.1.hasEnded = true))

/-- Results that a batch can come to: its workers take turns, in one order or another, until
those that are waited for have ended. -/
def Gathers (pool : Pool) (tasks : List Task) (lots : Nat → Lot) (results : List TaskResult) :
    Prop :=
  ∃ schedule : List Nat,
    let last := interleave lots schedule (pool.launch (fun index => (lots index).fate) tasks)
    Settled last.2 ∧ (last.1.conclude last.2).results = results

/-- Each chunk has its worker, under the lot of the chunk. -/
structure Shared (lots : Nat → Lot) (chunks : List (List Task)) (workers : List (Worker × Fate)) :
    Prop where
  length : workers.length = chunks.length
  held : ∀ index chunk, chunks[index]? = some chunk →
    ∃ worker, workers[index]? = some (worker, (lots index).fate) ∧ worker.Serves (lots index) chunk

theorem spawnAll_workers (pool : Pool) (fated : List (List Task × Fate)) :
    (pool.spawnAll fated).2 = fated.map fun (chunk, fate) => (.new chunk, fate) := by
  induction fated generalizing pool with
  | nil => rfl
  | cons first rest ih =>
    obtain ⟨chunk, fate⟩ := first
    cases fate <;> simp [spawnAll, ih, spawn, failSpawn]

theorem spawnAll_fresh (pool : Pool) (fated : List (List Task × Fate)) :
    ∀ held ∈ (pool.spawnAll fated).2, ∃ chunk, held.1 = .new chunk := by
  rw [spawnAll_workers]
  intro held member
  obtain ⟨⟨chunk, fate⟩, -, rfl⟩ := List.mem_map.mp member
  exact ⟨chunk, rfl⟩

theorem spawnAll_recounts (pool : Pool) (fated : List (List Task × Fate)) :
    Recounted pool (pool.spawnAll fated).1 := by
  induction fated generalizing pool with
  | nil => exact .refl pool
  | cons first rest ih =>
    obtain ⟨chunk, fate⟩ := first
    have joined : Recounted pool (pool.spawn chunk).1 ∧ Recounted pool (pool.failSpawn chunk).1 :=
      ⟨⟨rfl, rfl, rfl⟩, ⟨rfl, rfl, rfl⟩⟩
    cases fate with
    | notStarted reason => exact joined.2.trans (ih _)
    | undisturbed | lost | cancelled before | timedOut before => exact joined.1.trans (ih _)

theorem launch_workers (pool : Pool) (fates : Nat → Fate) (tasks : List Task) :
    (pool.launch fates tasks).2 =
      (chunksOf tasks pool.options.poolSize).zipIdx.map fun (chunk, index) =>
        (.new chunk, fates index) := by
  simp [launch, spawnAll_workers]

theorem launch_fresh (pool : Pool) (fates : Nat → Fate) (tasks : List Task) :
    ∀ held ∈ (pool.launch fates tasks).2, ∃ chunk, held.1 = .new chunk :=
  spawnAll_fresh _ _

theorem launch_recounts (pool : Pool) (fates : Nat → Fate) (tasks : List Task) :
    Recounted pool (pool.launch fates tasks).1 :=
  have counted : Recounted pool { pool with batchesDispatched := pool.batchesDispatched + 1 } :=
    ⟨rfl, rfl, rfl⟩
  counted.trans (spawnAll_recounts _ _)

theorem launch_shared (pool : Pool) (lots : Nat → Lot) (tasks : List Task) :
    Shared lots (chunksOf tasks pool.options.poolSize)
      (pool.launch (fun index => (lots index).fate) tasks).2 := by
  rw [launch_workers]
  refine ⟨by simp, fun index chunk inside => ⟨.new chunk, ?_, .new (lots index) chunk⟩⟩
  simp [inside]

/-- A turn is a step of one worker and leaves the others alone. -/
theorem turn_shared {lots : Nat → Lot} {chunks : List (List Task)}
    {batch : Pool × List (Worker × Fate)} (shared : Shared lots chunks batch.2) (index : Nat) :
    Shared lots chunks (turn lots batch index).2 := by
  unfold turn
  split
  · exact shared
  next worker fate found =>
    refine ⟨by simpa using shared.length, fun other chunk inside => ?_⟩
    obtain ⟨own, holds, serves⟩ := shared.held other chunk inside
    by_cases same : index = other
    · subst same
      rw [found, Option.some.injEq, Prod.mk.injEq] at holds
      obtain ⟨rfl, rfl⟩ := holds
      refine ⟨_, ?_, serves.step (advance_step (lots index) batch.1 worker)⟩
      have bound := (List.getElem?_eq_some_iff.mp found).choose
      simp [List.getElem?_set_self bound]
    · exact ⟨own, by simpa [List.getElem?_set_ne same] using holds, serves⟩

theorem turn_recounts (lots : Nat → Lot) (batch : Pool × List (Worker × Fate)) (index : Nat) :
    Recounted batch.1 (turn lots batch index).1 := by
  unfold turn
  split
  · exact .refl batch.1
  · exact (advance_step _ _ _).recounts

/-- In whatever order the workers take turns, each goes on serving its chunk. -/
theorem interleave_shared {lots : Nat → Lot} {chunks : List (List Task)}
    {batch : Pool × List (Worker × Fate)} (shared : Shared lots chunks batch.2)
    (schedule : List Nat) : Shared lots chunks (interleave lots schedule batch).2 := by
  induction schedule generalizing batch with
  | nil => exact shared
  | cons index rest ih => exact ih (turn_shared shared index)

theorem interleave_recounts (lots : Nat → Lot) (schedule : List Nat)
    (batch : Pool × List (Worker × Fate)) :
    Recounted batch.1 (interleave lots schedule batch).1 := by
  induction schedule generalizing batch with
  | nil => exact .refl batch.1
  | cons index rest ih => exact (turn_recounts lots batch index).trans (ih _)

/-- The reports of the workers, one for each chunk. -/
def reports (timeoutMs : Nat) (workers : List (Worker × Fate)) : List (List TaskResult) :=
  workers.zipIdx.map fun ((worker, fate), chunk) => worker.report chunk timeoutMs fate

theorem collect_eq (timeoutMs : Nat) (workers : List (Worker × Fate)) :
    collect timeoutMs workers = (reports timeoutMs workers).flatten :=
  List.flatMap_def

theorem Shared.reports_yield {lots : Nat → Lot} {chunks : List (List Task)}
    {workers : List (Worker × Fate)} (shared : Shared lots chunks workers)
    (settled : Settled workers) (timeoutMs : Nat) {index : Nat} {chunk : List Task}
    (inside : chunks[index]? = some chunk) :
    ∃ part, (reports timeoutMs workers)[index]? = some part ∧
      ((lots index).ending chunk).Yields index timeoutMs chunk part := by
  obtain ⟨worker, holds, serves⟩ := shared.held index chunk inside
  have ended := settled _ (List.mem_of_getElem? holds)
  exact ⟨_, by simp [reports, holds], serves.report_yields ended index timeoutMs⟩

theorem Shared.reports_paths {lots : Nat → Lot} {chunks : List (List Task)}
    {workers : List (Worker × Fate)} (shared : Shared lots chunks workers)
    (settled : Settled workers) (timeoutMs : Nat) :
    (reports timeoutMs workers).map (List.map TaskResult.path) =
      chunks.map (List.map Task.path) := by
  apply List.ext_getElem?
  intro index
  cases inside : chunks[index]? with
  | some chunk =>
    obtain ⟨part, found, yields⟩ := shared.reports_yield settled timeoutMs inside
    simp [found, inside, yields.paths]
  | none =>
    have beyond : workers[index]? = none := by
      rw [List.getElem?_eq_none_iff, shared.length]
      exact List.getElem?_eq_none_iff.mp inside
    simp [reports, beyond, inside]

/-! ## Taking the chunks in order -/

theorem interleave_append (lots : Nat → Lot) (first second : List Nat)
    (batch : Pool × List (Worker × Fate)) :
    interleave lots (first ++ second) batch =
      interleave lots second (interleave lots first batch) :=
  List.foldl_append

/-- A worker that has several turns in a row takes as many steps. -/
theorem interleave_replicate (lots : Nat → Lot) {workers : List (Worker × Fate)} {index : Nat}
    {worker : Worker} {fate : Fate} (found : workers[index]? = some (worker, fate)) (count : Nat)
    (pool : Pool) :
    interleave lots (.replicate count index) (pool, workers) =
      ((stride (lots index) count pool worker).1,
        workers.set index ((stride (lots index) count pool worker).2, fate)) := by
  obtain ⟨bound, here⟩ := List.getElem?_eq_some_iff.mp found
  induction count generalizing pool workers worker with
  | zero => simp [interleave, stride, ← here]
  | succ count ih =>
    have turned : turn lots (pool, workers) index =
        ((advance (lots index) pool worker).1,
          workers.set index ((advance (lots index) pool worker).2, fate)) := by
      simp [turn, found]
    rw [List.replicate_succ, interleave, List.foldl_cons, turned, ← interleave,
      ih (List.getElem?_set_self bound) _ (by simpa using bound) (by simp), List.set_set]
    rfl

/-- The lots that are dealt to workers that go through their chunks one after the other. -/
def dealt (factory : RouterFactory) : Pool → List (Worker × Fate) → List Lot
  | _, [] => []
  | pool, (worker, fate) :: rest =>
    ⟨factory pool.routersBuilt, fate⟩ ::
      dealt factory (complete factory pool worker fate).1 rest

/-- Workers that go through their chunks one after the other take turns as well. -/
theorem interleave_forEach (factory : RouterFactory) {lots : Nat → Lot} (pool : Pool)
    (front rest : List (Worker × Fate))
    (fresh : ∀ held ∈ rest, ∃ chunk, held.1 = .new chunk)
    (deal : ∀ index lot, (dealt factory pool rest)[index]? = some lot →
      lots (front.length + index) = lot) :
    ∃ schedule, interleave lots schedule (pool, front ++ rest) =
      ((forEach (complete factory) pool rest).1,
        front ++ (forEach (complete factory) pool rest).2) := by
  induction rest generalizing pool front with
  | nil => exact ⟨[], rfl⟩
  | cons held rest ih =>
    obtain ⟨worker, fate⟩ := held
    obtain ⟨chunk, rfl⟩ := fresh (worker, fate) List.mem_cons_self
    have drawn : lots front.length = ⟨factory pool.routersBuilt, fate⟩ := deal 0 _ rfl
    have found : (front ++ (Worker.new chunk, fate) :: rest)[front.length]? =
        some (Worker.new chunk, fate) := by simp
    have first := interleave_replicate lots found (chunk.length + 2) pool
    rw [drawn, stride_eq_complete] at first
    obtain ⟨schedule, others⟩ := ih (complete factory pool (.new chunk) fate).1
      (front ++ [((complete factory pool (.new chunk) fate).2, fate)])
      (fun held member => fresh held (List.mem_cons_of_mem _ member))
      (fun index lot dealt => by
        rw [← deal (index + 1) lot dealt]
        simp [Nat.add_assoc, Nat.add_comm 1 index])
    refine ⟨.replicate (chunk.length + 2) front.length ++ schedule, ?_⟩
    rw [interleave_append, first]
    simpa [forEach] using others

/-- Workers that go through their chunks come to their ends, those that there are. -/
theorem forEach_ended (factory : RouterFactory) (pool : Pool) (workers : List (Worker × Fate))
    (fresh : ∀ held ∈ workers, ∃ chunk, held.1 = .new chunk) :
    ∀ held ∈ (forEach (complete factory) pool workers).2,
      held.2.starts = true → held.1.hasEnded = true := by
  induction workers generalizing pool with
  | nil => exact fun held member => nomatch member
  | cons first rest ih =>
    obtain ⟨worker, fate⟩ := first
    obtain ⟨chunk, rfl⟩ := fresh (worker, fate) List.mem_cons_self
    intro held member starts
    rcases List.mem_cons.mp member with rfl | later
    · exact complete_hasEnded starts factory pool chunk
    · exact ih _ (fun held member => fresh held (List.mem_cons_of_mem _ member)) held later starts

theorem dealt_fates (factory : RouterFactory) (pool : Pool) (workers : List (Worker × Fate)) :
    (dealt factory pool workers).map Lot.fate = workers.map Prod.snd := by
  induction workers generalizing pool with
  | nil => rfl
  | cons first rest ih => simp [dealt, ih]

theorem dealt_routers (factory : RouterFactory) (pool : Pool) (workers : List (Worker × Fate)) :
    ∀ lot ∈ dealt factory pool workers, ∃ number, lot.router = factory number := by
  induction workers generalizing pool with
  | nil => exact fun lot member => nomatch member
  | cons first rest ih =>
    intro lot member
    rcases List.mem_cons.mp member with rfl | later
    · exact ⟨pool.routersBuilt, rfl⟩
    · exact ih _ lot later

/-- The lots of a batch whose chunks are taken in order. -/
def lotsInOrder (factory : RouterFactory) (pool : Pool) (fates : Nat → Fate) (tasks : List Task)
    (index : Nat) : Lot :=
  (dealt factory (pool.launch fates tasks).1 (pool.launch fates tasks).2)[index]?.getD
    ⟨factory 0, fates index⟩

theorem lotsInOrder_drawn (factory : RouterFactory) (pool : Pool) (fates : Nat → Fate)
    (tasks : List Task) (index : Nat) :
    (lotsInOrder factory pool fates tasks index).fate = fates index ∧
      ∃ number, (lotsInOrder factory pool fates tasks index).router = factory number := by
  unfold lotsInOrder
  cases found : (dealt factory (pool.launch fates tasks).1 (pool.launch fates tasks).2)[index]? with
  | none => exact ⟨rfl, 0, rfl⟩
  | some lot =>
    refine ⟨?_, dealt_routers factory _ _ lot (List.mem_of_getElem? found)⟩
    have fate : (pool.launch fates tasks).2[index]?.map Prod.snd = some lot.fate := by
      rw [← List.getElem?_map, ← dealt_fates factory (pool.launch fates tasks).1,
        List.getElem?_map, found, Option.map_some]
    obtain ⟨held, holds, same⟩ := Option.map_eq_some_iff.mp fate
    rw [launch_workers, List.getElem?_map, List.getElem?_zipIdx, Option.map_map] at holds
    obtain ⟨chunk, -, rfl⟩ := Option.map_eq_some_iff.mp holds
    simpa using same.symm

/-- To take the chunks in order is to take turns. -/
theorem launch_interleaves (factory : RouterFactory) (pool : Pool) (fates : Nat → Fate)
    (tasks : List Task) :
    ∃ schedule,
      interleave (lotsInOrder factory pool fates tasks) schedule (pool.launch fates tasks) =
        forEach (complete factory) (pool.launch fates tasks).1 (pool.launch fates tasks).2 := by
  have deal : ∀ index lot,
      (dealt factory (pool.launch fates tasks).1 (pool.launch fates tasks).2)[index]? = some lot →
        lotsInOrder factory pool fates tasks (0 + index) = lot := by
    intro index lot found
    simp [lotsInOrder, found]
  obtain ⟨schedule, inOrder⟩ := interleave_forEach factory _ [] _ (launch_fresh pool fates tasks) deal
  exact ⟨schedule, by simpa only [List.nil_append, Prod.eta] using inOrder⟩

theorem share_interleaves (factory : RouterFactory) (pool : Pool) (fates : Nat → Fate)
    (tasks : List Task) :
    ∃ schedule,
      let last := interleave (lotsInOrder factory pool fates tasks) schedule
        (pool.launch fates tasks)
      Settled last.2 ∧ share factory pool fates tasks = (last.1.conclude last.2, last.1) := by
  obtain ⟨schedule, inOrder⟩ := launch_interleaves factory pool fates tasks
  refine ⟨schedule, ?_⟩
  simp only [inOrder]
  refine ⟨?_, rfl⟩
  intro held member awaited
  exact forEach_ended factory _ _ (launch_fresh pool fates tasks) held member
    (Fate.starts_of_awaited awaited)

theorem share_gathers (factory : RouterFactory) (pool : Pool) (fates : Nat → Fate)
    (tasks : List Task) :
    pool.Gathers tasks (lotsInOrder factory pool fates tasks)
      (share factory pool fates tasks).1.results := by
  obtain ⟨schedule, settled, shared⟩ := share_interleaves factory pool fates tasks
  have same : (fun index => (lotsInOrder factory pool fates tasks index).fate) = fates :=
    funext fun index => (lotsInOrder_drawn factory pool fates tasks index).1
  refine ⟨schedule, ?_⟩
  rw [same, shared]
  exact ⟨settled, rfl⟩

theorem share_metrics (factory : RouterFactory) (pool : Pool) (fates : Nat → Fate)
    (tasks : List Task) :
    (share factory pool fates tasks).1.metrics =
      some (metricsOf (share factory pool fates tasks).1.results
        (chunksOf tasks pool.options.poolSize).length) := by
  obtain ⟨schedule, -, shared⟩ := share_interleaves factory pool fates tasks
  have same : (fun index => (lotsInOrder factory pool fates tasks index).fate) = fates :=
    funext fun index => (lotsInOrder_drawn factory pool fates tasks index).1
  have held := launch_shared pool (lotsInOrder factory pool fates tasks) tasks
  rw [same] at held
  rw [shared, ← (interleave_shared held schedule).length]
  rfl

theorem share_recounts (factory : RouterFactory) (pool : Pool) (fates : Nat → Fate)
    (tasks : List Task) : Recounted pool (share factory pool fates tasks).2 := by
  obtain ⟨schedule, -, shared⟩ := share_interleaves factory pool fates tasks
  rw [shared]
  exact (launch_recounts pool fates tasks).trans (interleave_recounts _ schedule _)

/-! ## Waiting -/

section

variable {factory : RouterFactory} {pool : Pool} {around : Circumstances} {tasks : List Task}

theorem dispatch_in_time (inTime : around.clock.reaches pool.options.timeout = true) :
    dispatch factory pool around tasks =
      (.done (share factory pool around.fates tasks).1,
        (share factory pool around.fates tasks).2) := by
  rw [dispatch, Clock.deadline, if_pos inTime]

theorem dispatch_too_late (late : around.clock.reaches pool.options.timeout = false) :
    dispatch factory pool around tasks =
      (.crash (some Clock.overflow),
        (share factory pool (fun index => (around.fates index).unawaited) tasks).2) := by
  rw [dispatch, Clock.deadline, if_neg (by simp [late])]

end

/-- Whether the batch is waited for or not, its workers go through their chunks, and there are no
fewer of them. -/
theorem dispatch_pool (factory : RouterFactory) (pool : Pool) (around : Circumstances)
    (tasks : List Task) :
    ∃ fates : Nat → Fate, (∀ index, (fates index).starts = (around.fates index).starts) ∧
      (dispatch factory pool around tasks).2 = (share factory pool fates tasks).2 := by
  cases reached : around.clock.reaches pool.options.timeout with
  | true => exact ⟨around.fates, fun _ => rfl, by rw [dispatch_in_time reached]⟩
  | false =>
    refine ⟨fun index => (around.fates index).unawaited, ?_, by rw [dispatch_too_late reached]⟩
    intro index
    simp only
    cases around.fates index <;> rfl

theorem dispatch_recounts (factory : RouterFactory) (pool : Pool) (around : Circumstances)
    (tasks : List Task) : Recounted pool (dispatch factory pool around tasks).2 := by
  obtain ⟨fates, -, left⟩ := dispatch_pool factory pool around tasks
  rw [left]
  exact share_recounts factory pool fates tasks

/-- What a batch can come to that is shared out. Its results are gathered before a deadline; where
the clock has no such moment, the call crashes. -/
def Returns (pool : Pool) (clock : Clock) (tasks : List Task) (lots : Nat → Lot) :
    Attempt (List TaskResult) → Prop
  | .done results =>
    clock.reaches pool.options.timeout = true ∧ pool.Gathers tasks lots results
  | .crash message =>
    clock.reaches pool.options.timeout = false ∧ message = some Clock.overflow

theorem dispatch_returns (factory : RouterFactory) (pool : Pool) (around : Circumstances)
    (tasks : List Task) :
    pool.Returns around.clock tasks (lotsInOrder factory pool around.fates tasks)
      ((dispatch factory pool around tasks).1.map Batch.results) := by
  cases reached : around.clock.reaches pool.options.timeout with
  | true =>
    rw [dispatch_in_time reached]
    exact ⟨reached, share_gathers factory pool around.fates tasks⟩
  | false =>
    rw [dispatch_too_late reached]
    exact ⟨reached, rfl⟩

/-! ## Coming to an end -/

theorem turn_due {lots : Nat → Lot} {batch : Pool × List (Worker × Fate)} {index : Nat}
    {worker : Worker} {fate : Fate} (found : batch.2[index]? = some (worker, fate))
    (starts : (lots index).fate.starts = true) (next : Nat) :
    ∃ later, (turn lots batch next).2[index]? = some (later, fate) ∧
      later.due ≤ worker.due - [next].count index := by
  by_cases same : next = index
  · subst same
    have bound := (List.getElem?_eq_some_iff.mp found).choose
    refine ⟨(advance (lots next) batch.1 worker).2, ?_, ?_⟩
    · simp [turn, found, List.getElem?_set_self bound]
    · simpa using (advance_step (lots next) batch.1 worker).lowers_due starts
  · refine ⟨worker, ?_, by simp [same]⟩
    unfold turn
    split
    · exact found
    · rwa [List.getElem?_set_ne same]

/-- Every turn of a worker brings it nearer to its end, whatever the others do meanwhile. -/
theorem interleave_due {lots : Nat → Lot} {batch : Pool × List (Worker × Fate)} {index : Nat}
    {worker : Worker} {fate : Fate} (found : batch.2[index]? = some (worker, fate))
    (starts : (lots index).fate.starts = true) (schedule : List Nat) :
    ∃ later, (interleave lots schedule batch).2[index]? = some (later, fate) ∧
      later.due ≤ worker.due - schedule.count index := by
  induction schedule generalizing batch worker with
  | nil => exact ⟨worker, found, Nat.le_refl worker.due⟩
  | cons next rest ih =>
    obtain ⟨stepped, holds, nearer⟩ := turn_due found starts next
    obtain ⟨later, kept, nearest⟩ := ih holds
    have turns : (next :: rest).count index = [next].count index + rest.count index := by
      rw [← List.count_append, List.singleton_append]
    exact ⟨later, kept, by omega⟩

/-- A batch is settled once each of its workers has had turns enough. -/
theorem settled_of_turns (pool : Pool) (lots : Nat → Lot) (tasks : List Task)
    {schedule : List Nat}
    (turns : ∀ index chunk, (chunksOf tasks pool.options.poolSize)[index]? = some chunk →
      chunk.length + 2 ≤ schedule.count index) :
    Settled (interleave lots schedule
      (pool.launch (fun index => (lots index).fate) tasks)).2 := by
  have shared := interleave_shared (launch_shared pool lots tasks) schedule
  intro held member awaited
  obtain ⟨index, found⟩ := List.mem_iff_getElem?.mp member
  have bound := (List.getElem?_eq_some_iff.mp found).choose
  obtain ⟨chunk, inside⟩ : ∃ chunk, (chunksOf tasks pool.options.poolSize)[index]? = some chunk :=
    ⟨_, List.getElem?_eq_getElem (shared.length ▸ bound)⟩
  obtain ⟨worker, holds, -⟩ := shared.held index chunk inside
  rw [found, Option.some.injEq] at holds
  subst holds
  have launched : (pool.launch (fun index => (lots index).fate) tasks).2[index]? =
      some (.new chunk, (lots index).fate) := by
    simp [launch_workers, inside]
  obtain ⟨later, kept, spent⟩ := interleave_due launched (Fate.starts_of_awaited awaited) schedule
  rw [found, Option.some.injEq, Prod.mk.injEq] at kept
  obtain ⟨rfl, -⟩ := kept
  have enough := turns index chunk inside
  have start : (Worker.new chunk).due = chunk.length + 2 := rfl
  exact worker.hasEnded_iff_due.mpr (by omega)

/-- Whatever the lots are, the batch comes to something. -/
theorem gathers_something (pool : Pool) (tasks : List Task) (lots : Nat → Lot) :
    ∃ results, pool.Gathers tasks lots results := by
  let chunks := chunksOf tasks pool.options.poolSize
  let rounds := List.replicate (tasks.length + 2) (List.range chunks.length)
  refine ⟨_, rounds.flatten, settled_of_turns pool lots tasks ?_, rfl⟩
  intro index chunk inside
  have member : index ∈ List.range chunks.length :=
    List.mem_range.mpr (List.getElem?_eq_some_iff.mp inside).choose
  have small : chunk.length ≤ tasks.length := by
    rw [← flatten_chunksOf tasks pool.options.poolSize]
    exact (List.sublist_flatten_of_mem (List.mem_of_getElem? inside)).length_le
  have turns : rounds.flatten.count index = tasks.length + 2 := by
    simp [rounds, List.count_flatten, List.nodup_range.count, member]
  omega

/-! ## Results -/

/-- The results that a batch comes to, chunk by chunk: each chunk has what its ending yields. -/
theorem Gathers.parts {pool : Pool} {tasks : List Task} {lots : Nat → Lot}
    {results : List TaskResult} (gathers : pool.Gathers tasks lots results) :
    ∃ parts : List (List TaskResult), results = parts.flatten ∧
      parts.map (List.map TaskResult.path) =
        (chunksOf tasks pool.options.poolSize).map (List.map Task.path) ∧
      ∀ index chunk, (chunksOf tasks pool.options.poolSize)[index]? = some chunk →
        ∃ part, parts[index]? = some part ∧
          ((lots index).ending chunk).Yields index pool.options.timeout.millis chunk part := by
  obtain ⟨schedule, settled, rfl⟩ := gathers
  have shared := interleave_shared (launch_shared pool lots tasks) schedule
  have launched := launch_recounts pool (fun index => (lots index).fate) tasks
  have recounted := launched.trans (interleave_recounts lots schedule _)
  refine ⟨_, collect_eq _ _, ?_⟩
  rw [recounted.options]
  exact ⟨shared.reports_paths settled _, fun index chunk => shared.reports_yield settled _⟩

theorem Gathers.aligned {pool : Pool} {tasks : List Task} {lots : Nat → Lot}
    {results : List TaskResult} (gathers : pool.Gathers tasks lots results) :
    results.map TaskResult.path = tasks.map Task.path ∧
      ∀ index chunk, (chunksOf tasks pool.options.poolSize)[index]? = some chunk →
        ((lots index).ending chunk).Yields index pool.options.timeout.millis chunk
          (partOf (chunksOf tasks pool.options.poolSize) index results) := by
  obtain ⟨parts, rfl, paths, yields⟩ := gathers.parts
  refine ⟨?_, fun index chunk inside => ?_⟩
  · rw [List.map_flatten, paths, ← List.map_flatten, flatten_chunksOf]
  · obtain ⟨part, found, own⟩ := yields index chunk inside
    have sizes := congrArg (List.map List.length) paths
    simp only [List.map_map, Function.comp_def, List.length_map] at sizes
    rwa [partOf_flatten sizes found]

/-- Whatever the lots are, the batch comes to something. -/
theorem returns_something (pool : Pool) (clock : Clock) (tasks : List Task) (lots : Nat → Lot) :
    ∃ answer, pool.Returns clock tasks lots answer := by
  cases reached : clock.reaches pool.options.timeout with
  | true =>
    obtain ⟨results, gathers⟩ := gathers_something pool tasks lots
    exact ⟨.done results, reached, gathers⟩
  | false => exact ⟨.crash (some Clock.overflow), reached, rfl⟩

theorem Returns.done_iff {pool : Pool} {clock : Clock} {tasks : List Task} {lots : Nat → Lot}
    {answer : Attempt (List TaskResult)} (returns : pool.Returns clock tasks lots answer) :
    (∃ results, answer = .done results) ↔ clock.reaches pool.options.timeout = true := by
  cases answer with
  | done results => exact iff_of_true ⟨results, rfl⟩ returns.1
  | crash message => simp [returns.1]

/-- A batch that is shared out comes back if and only if the clock has a moment at which to give up
waiting; otherwise the call crashes and says so. Where it comes back, in whatever order the workers
took their steps, there is one result for each task, in the order of the tasks, and the results of a
chunk are those of its own ending: failures without facts if the chunk crashed, got lost, ran out of
time or was never started, and from the task on before which it was cancelled. Nothing that befalls
another chunk changes them. -/
theorem chunks_answer_for_themselves (pool : Pool) (tasks : List Task) :
    (∀ (factory : RouterFactory) (around : Circumstances), ∃ lots : Nat → Lot,
      (∀ index, (lots index).fate = around.fates index ∧
        ∃ number, (lots index).router = factory number) ∧
      pool.Returns around.clock tasks lots
        ((dispatch factory pool around tasks).1.map Batch.results)) ∧
    (∀ (clock : Clock) (lots : Nat → Lot), ∃ answer, pool.Returns clock tasks lots answer) ∧
    ∀ (clock : Clock) (lots : Nat → Lot) (answer : Attempt (List TaskResult)),
      pool.Returns clock tasks lots answer →
      ((∃ results, answer = .done results) ↔ clock.reaches pool.options.timeout = true) ∧
      (∀ message, answer = .crash message → message = some Clock.overflow) ∧
      ∀ results, answer = .done results →
        results.length = tasks.length ∧
        results.map TaskResult.path = tasks.map Task.path ∧
        ∀ index chunk, (chunksOf tasks pool.options.poolSize)[index]? = some chunk →
          let ending := (lots index).ending chunk
          let part := partOf (chunksOf tasks pool.options.poolSize) index results
          ending.Yields index pool.options.timeout.millis chunk part ∧
          (ending.fails = true →
            ∀ result ∈ part, result.error.isSome = true ∧ result.facts = .empty) ∧
          (∀ router before, ending = .cancelled router before →
            ∀ result ∈ part.drop before, result.error.isSome = true ∧ result.facts = .empty) ∧
          ∀ (later : Clock) (others : Nat → Lot) (changed : List TaskResult),
            pool.Returns later tasks others (.done changed) →
            (others index).ending chunk = ending →
            partOf (chunksOf tasks pool.options.poolSize) index changed = part := by
  refine ⟨fun factory around => ⟨lotsInOrder factory pool around.fates tasks,
    lotsInOrder_drawn factory pool around.fates tasks,
    dispatch_returns factory pool around tasks⟩, fun clock => returns_something pool clock tasks, ?_⟩
  intro clock lots answer returns
  refine ⟨returns.done_iff, ?_, ?_⟩
  · rintro message rfl
    exact returns.2
  rintro results rfl
  obtain ⟨paths, yields⟩ := returns.2.aligned
  refine ⟨by simpa using congrArg List.length paths, paths, ?_⟩
  intro index chunk inside
  have own := yields index chunk inside
  refine ⟨own, own.blank_of_fails, ?_, ?_⟩
  · intro router before cancelled
    exact Ending.Yields.blank_of_cancelled (cancelled ▸ own)
  · intro later others changed elsewhere same
    have other := elsewhere.2.aligned.2 index chunk inside
    rw [same] at other
    exact other.unique own

/-- A chunk is cancelled before its second task, and the worker of another chunk crashes. Had the
other chunk been completed, the results of the first would be the same. A pool that waits for as long
as it can be told to gives nothing back. -/
theorem crash_stays_in_its_chunk :
    let reader : Reader := fun content _ => .done (.ok ⟨[⟨content, 1⟩], [], []⟩)
    let router : Router Reader := ⟨[("c", ⟨"c", [], reader⟩)], []⟩
    let tasks : List Task := [⟨"a", "x", some "c"⟩, ⟨"b", "y", some "c"⟩, ⟨"d", "z", some "c"⟩]
    let pool := Pool.new ⟨2, 0, .ofMillis 1000, false⟩
    let patient := Pool.new ⟨2, 0, .longest, false⟩
    let clock : Clock := ⟨0, Nat.pow 2 63 * 1000000000⟩
    let stopped : Lot := ⟨.done router, .cancelled 1⟩
    let lots : Nat → Lot := fun index =>
      if index = 0 then stopped else ⟨.crash none, .undisturbed⟩
    let others : Nat → Lot := fun index =>
      if index = 0 then stopped else ⟨.done router, .undisturbed⟩
    (∃ results changed,
      pool.Returns clock tasks lots (.done results) ∧
      pool.Returns clock tasks others (.done changed) ∧
      results.map TaskResult.path = ["a", "b", "d"] ∧
      (∀ result ∈ (results.take 2).drop 1,
        result.error.isSome = true ∧ result.facts = .empty) ∧
      (∀ result ∈ (results.take 3).drop 2,
        result.error.isSome = true ∧ result.facts = .empty) ∧
      changed.take 2 = results.take 2) ∧
    ∀ answer, patient.Returns clock tasks lots answer → ¬ ∃ results, answer = .done results := by
  intro reader router tasks pool patient clock stopped lots others
  have crossed : ∃ results, pool.Returns clock tasks lots (.done results) :=
    ⟨_, by decide, [1, 0, 0, 0, 0], by decide, rfl⟩
  have calm : ∃ changed, pool.Returns clock tasks others (.done changed) :=
    ⟨_, by decide, [0, 1, 1, 0, 1, 0, 0], by decide, rfl⟩
  constructor
  · obtain ⟨results, returns⟩ := crossed
    obtain ⟨changed, elsewhere⟩ := calm
    obtain ⟨-, -, parts⟩ := (chunks_answer_for_themselves pool tasks).2.2 clock lots _ returns
    obtain ⟨-, paths, parts⟩ := parts results rfl
    have chunks : chunksOf tasks pool.options.poolSize =
        [[⟨"a", "x", some "c"⟩, ⟨"b", "y", some "c"⟩], [⟨"d", "z", some "c"⟩]] := by decide
    rw [chunks] at parts
    obtain ⟨-, -, cancelled, alone⟩ := parts 0 _ rfl
    obtain ⟨-, crashed, -, -⟩ := parts 1 _ rfl
    have first := cancelled router 1 rfl
    have second := crashed rfl
    have same := alone clock others changed elsewhere rfl
    exact ⟨results, changed, returns, elsewhere, paths, first, second, same⟩
  · intro answer returns
    rw [((chunks_answer_for_themselves patient tasks).2.2 clock lots answer returns).1]
    decide

end Pool

end SourceFacts

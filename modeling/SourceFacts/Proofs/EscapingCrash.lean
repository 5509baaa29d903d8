import SourceFacts.Proofs.BatchAgreement

/-! When a call of a pool fails. A disposed pool refuses, and otherwise a call gives back one result
for each task unless a crash leaves it. A crash of a worker does not: it ends that worker, and shows
in the results of its chunk. A small batch has no worker to end. There a crash, in building the router
or in a task, ends the call, and the results of the tasks before it are gone with it. A batch that is
shared out has two ways to end the call: the clock has no moment to wait until, or whoever is told of
the batch crashes, which can befall a small one too. -/
namespace SourceFacts

namespace Attempt

variable {α β : Type} {f : α → β} {attempt : Attempt α}

theorem map_eq_crash_iff {message : Option String} :
    attempt.map f = .crash message ↔ attempt = .crash message := by
  cases attempt <;> simp

theorem map_eq_done_iff {value : β} :
    attempt.map f = .done value ↔ ∃ made, attempt = .done made ∧ f made = value := by
  cases attempt <;> simp

end Attempt

namespace Task

/-- Tasks that are done one after the other crash with the first of them that does. -/
theorem runAll_eq_crash_iff {router : Router Reader} {tasks : List Task}
    {message : Option String} :
    runAll router tasks = .crash message ↔
      ∃ front task rest, tasks = front ++ task :: rest ∧
        (∀ earlier ∈ front, ∃ result, earlier.run router = .done result) ∧
        task.run router = .crash message := by
  induction tasks with
  | nil => simp [runAll]
  | cons first others ih =>
    cases ran : first.run router with
    | crash told =>
      simp only [runAll, ran, Attempt.crash.injEq]
      constructor
      · rintro rfl
        exact ⟨[], first, others, rfl, List.forall_mem_nil _, ran⟩
      · rintro ⟨front, task, rest, shape, before, crash⟩
        cases front with
        | nil =>
          obtain ⟨rfl, rfl⟩ := List.cons.inj shape
          rw [ran] at crash
          exact Attempt.crash.inj crash
        | cons earlier front =>
          obtain ⟨rfl, -⟩ := List.cons.inj shape
          obtain ⟨result, done⟩ := before first List.mem_cons_self
          rw [ran] at done
          cases done
    | done result =>
      have later : runAll router (first :: others) = .crash message ↔
          runAll router others = .crash message := by
        simp only [runAll, ran]
        cases runAll router others <;> simp
      rw [later, ih]
      constructor
      · rintro ⟨front, task, rest, rfl, before, crash⟩
        exact ⟨first :: front, task, rest, rfl,
          List.forall_mem_cons.mpr ⟨⟨result, ran⟩, before⟩, crash⟩
      · rintro ⟨front, task, rest, shape, before, crash⟩
        cases front with
        | nil =>
          obtain ⟨rfl, rfl⟩ := List.cons.inj shape
          rw [ran] at crash
          cases crash
        | cons earlier front =>
          obtain ⟨rfl, rfl⟩ := List.cons.inj shape
          exact ⟨front, task, rest, rfl, (List.forall_mem_cons.mp before).2, crash⟩

end Task

namespace Pool

variable {factory : RouterFactory} {pool : Pool} {around : Circumstances} {tasks : List Task}
  {message : Option String}

/-- A batch crashes on the spot: there is no router to be had for it, or one of its tasks crashes
when all those before it are done. -/
inductive CrashesInline (factory : RouterFactory) (pool : Pool) (tasks : List Task)
    (message : Option String) : Prop where
  | building (crash : pool.routerAtHand factory = .crash message)
  | reading {router : Router Reader} {front : List Task} {task : Task} {rest : List Task}
      (built : pool.routerAtHand factory = .done router) (shape : tasks = front ++ task :: rest)
      (before : ∀ earlier ∈ front, ∃ result, earlier.run router = .done result)
      (crash : task.run router = .crash message)

theorem runInline_eq_crash_iff :
    (runInline factory pool tasks).1 = .crash message ↔
      CrashesInline factory pool tasks message := by
  rw [runInline_fst]
  cases built : pool.routerAtHand factory with
  | crash told =>
    rw [Attempt.bind_crash, Attempt.crash.injEq]
    constructor
    · rintro rfl
      exact .building built
    · rintro (crash | ⟨done, -, -, -⟩)
      · rw [built] at crash
        exact Attempt.crash.inj crash
      · rw [built] at done
        cases done
  | done router =>
    rw [Attempt.bind_done, Attempt.map_eq_crash_iff, Task.runAll_eq_crash_iff]
    constructor
    · rintro ⟨front, task, rest, shape, before, crash⟩
      exact .reading built shape before crash
    · rintro (crash | ⟨done, shape, before, crash⟩)
      · rw [built] at crash
        cases crash
      · rw [built] at done
        cases done
        exact ⟨_, _, _, shape, before, crash⟩

theorem runInline_paths {batch : Batch} (read : (runInline factory pool tasks).1 = .done batch) :
    batch.results.map TaskResult.path = tasks.map Task.path := by
  rw [runInline_fst] at read
  cases built : pool.routerAtHand factory with
  | crash told =>
    rw [built] at read
    cases read
  | done router =>
    rw [built, Attempt.bind_done] at read
    obtain ⟨results, ran, rfl⟩ := Attempt.map_eq_done_iff.mp read
    exact Task.runAll_paths ran

/-- How a crash leaves a call that is taken on. -/
inductive Escapes (factory : RouterFactory) (pool : Pool) (around : Circumstances)
    (tasks : List Task) (message : Option String) : Prop where
  /-- The batch is read on the spot, and that crashes. -/
  | inline (small : pool.isSmall tasks = true) (crashes : CrashesInline factory pool tasks message)
  /-- The batch is shared out, and there is no moment until which to wait for its workers. -/
  | waiting (large : pool.isSmall tasks = false)
      (late : around.clock.reaches pool.options.timeout = false)
      (told : message = some Clock.overflow)
  /-- There are results, and whoever is told of them crashes. -/
  | reporting {batch : Batch} {report : BatchMetrics}
      (read : (readBatch factory pool around tasks).1 = .done batch)
      (wanted : pool.report? batch = some report) (crash : around.record report = .crash message)

theorem readBatch_eq_crash_iff :
    (readBatch factory pool around tasks).1 = .crash message ↔
      pool.isSmall tasks = true ∧ CrashesInline factory pool tasks message ∨
      pool.isSmall tasks = false ∧ around.clock.reaches pool.options.timeout = false ∧
        message = some Clock.overflow := by
  unfold readBatch
  cases small : pool.isSmall tasks with
  | true => simp [runInline_eq_crash_iff]
  | false =>
    cases reached : around.clock.reaches pool.options.timeout with
    | true => simp [dispatch_in_time reached]
    | false => simp [dispatch_too_late reached, eq_comm]

/-- Where a batch is read, there is one result for each task, in order. -/
theorem readBatch_paths {batch : Batch}
    (read : (readBatch factory pool around tasks).1 = .done batch) :
    batch.results.map TaskResult.path = tasks.map Task.path := by
  unfold readBatch at read
  split at read
  · exact runInline_paths read
  · have returns := dispatch_returns factory pool around tasks
    rw [read] at returns
    exact returns.2.aligned.1

theorem announce_eq_crash_iff {record : BatchMetrics → Attempt Unit} {batch : Batch} :
    pool.announce record batch = .crash message ↔
      ∃ report, pool.report? batch = some report ∧ record report = .crash message := by
  unfold announce
  cases pool.report? batch with
  | none => simp
  | some report => cases ran : record report <;> simp [ran]

theorem announce_eq_done {record : BatchMetrics → Attempt Unit} {batch told : Batch}
    (done : pool.announce record batch = .done told) : told = batch := by
  unfold announce at done
  cases wanted : pool.report? batch with
  | none => simpa [wanted, eq_comm] using done
  | some report => cases ran : record report <;> simp_all

/-- A crash escapes while the batch is read, or when its results are told of. -/
theorem escapes_iff_read :
    Escapes factory pool around tasks message ↔
      (readBatch factory pool around tasks).1 = .crash message ∨
        ∃ batch report, (readBatch factory pool around tasks).1 = .done batch ∧
          pool.report? batch = some report ∧ around.record report = .crash message := by
  rw [readBatch_eq_crash_iff]
  constructor
  · intro escapes
    cases escapes with
    | inline small crashes => exact .inl (.inl ⟨small, crashes⟩)
    | waiting large late told => exact .inl (.inr ⟨large, late, told⟩)
    | reporting read wanted crash => exact .inr ⟨_, _, read, wanted, crash⟩
  · rintro ((⟨small, crashes⟩ | ⟨large, late, told⟩) | ⟨batch, report, read, wanted, crash⟩)
    · exact .inline small crashes
    · exact .waiting large late told
    · exact .reporting read wanted crash

/-- A batch that is read and told of comes to a crash if and only if a crash escapes. -/
theorem escapes_iff :
    (readBatch factory pool around tasks).1.bind (pool.announce around.record) = .crash message ↔
      Escapes factory pool around tasks message := by
  rw [escapes_iff_read]
  cases read : (readBatch factory pool around tasks).1 with
  | crash told => simp
  | done batch => simp [announce_eq_crash_iff]

/-- Every answer of a call is one of these three, and only disposal is an error. -/
theorem parseFiles_cases (factory : RouterFactory) (pool : Pool) (around : Circumstances)
    (tasks : List Task) :
    (pool.disposed = true ∧
        (parseFiles factory pool around tasks).1 = .done (.error .poolDisposed)) ∨
      (pool.disposed = false ∧ tasks ≠ [] ∧
        ∃ message, Escapes factory pool around tasks message ∧
          (parseFiles factory pool around tasks).1 = .crash message) ∨
      (pool.disposed = false ∧
        (tasks ≠ [] → ∀ message, ¬ Escapes factory pool around tasks message) ∧
        ∃ batch, (parseFiles factory pool around tasks).1 = .done (.ok batch) ∧
          batch.results.map TaskResult.path = tasks.map Task.path) := by
  unfold parseFiles
  by_cases disposed : pool.disposed = true
  · rw [if_pos disposed]
    exact .inl ⟨disposed, rfl⟩
  right
  have accepts : pool.disposed = false := by simpa using disposed
  rw [if_neg disposed]
  by_cases empty : tasks = []
  · subst empty
    exact .inr ⟨accepts, fun some => absurd rfl some, ⟨[], none, []⟩, rfl, rfl⟩
  rw [if_neg (by simpa using empty)]
  cases called : (readBatch factory pool around tasks).1.bind (pool.announce around.record) with
  | crash message =>
    refine .inl ⟨accepts, empty, message, escapes_iff.mp called, ?_⟩
    simp only [called, Attempt.map_crash]
  | done told =>
    refine .inr ⟨accepts, ?_, told, by simp only [called, Attempt.map_done], ?_⟩
    · intro _ message escapes
      rw [escapes_iff.mpr escapes] at called
      cases called
    · cases read : (readBatch factory pool around tasks).1 with
      | crash message =>
        rw [read] at called
        cases called
      | done batch =>
        rw [read] at called
        rw [announce_eq_done called]
        exact readBatch_paths read

theorem parseFiles_eq_crash_iff :
    (parseFiles factory pool around tasks).1 = .crash message ↔
      pool.disposed = false ∧ tasks ≠ [] ∧ Escapes factory pool around tasks message := by
  rcases parseFiles_cases factory pool around tasks with ⟨disposed, refused⟩ |
    ⟨accepts, some, told, escapes, crash⟩ | ⟨accepts, none, _, read, -⟩
  · simp [refused, disposed]
  · rw [crash, Attempt.crash.injEq]
    constructor
    · rintro rfl
      exact ⟨accepts, some, escapes⟩
    · rintro ⟨-, -, again⟩
      exact Attempt.crash.inj ((escapes_iff.mpr escapes).symm.trans (escapes_iff.mpr again))
  · rw [read]
    constructor
    · intro crash
      cases crash
    · rintro ⟨-, some, escapes⟩
      exact absurd escapes (none some message)

/-- Where a worker crashes, its chunk has nothing but failures, and they tell of the crash. -/
theorem Gathers.crashed_part {lots : Nat → Lot} {results : List TaskResult}
    (gathers : pool.Gathers tasks lots results) {index : Nat} {chunk : List Task}
    (inside : (chunksOf tasks pool.options.poolSize)[index]? = some chunk)
    (crashed : (lots index).ending chunk = .crashed message) :
    partOf (chunksOf tasks pool.options.poolSize) index results =
      chunk.map fun task =>
        .failed task.path (Error.workerFailed index (Worker.crashReason message)).message := by
  have yields := gathers.aligned.2 index chunk inside
  rw [crashed] at yields
  exact yields.unique (.failed rfl)

/-- A call fails for these reasons and no other. Whatever the factory and the readers do, and whatever
befalls the workers, the pool refuses exactly if it was disposed of. A crash leaves the call exactly
if the batch is small and crashes on the spot, or is shared out and to be waited for until a moment
that the clock does not have, or if whoever is told of its results crashes; and every other call gives
back one result for each task, in order. So no crash of a worker leaves the call: in whatever order the
workers take turns, each chunk has the results of its own ending, and where that is a crash, a failure
for each of its tasks which says so. -/
theorem crashes_that_escape (factory : RouterFactory) (pool : Pool) (around : Circumstances)
    (tasks : List Task) :
    let answer := (parseFiles factory pool around tasks).1
    (∀ error, answer = .done (.error error) ↔ error = .poolDisposed ∧ pool.disposed = true) ∧
    (∀ message, answer = .crash message ↔
      pool.disposed = false ∧ tasks ≠ [] ∧ Escapes factory pool around tasks message) ∧
    (∀ batch, answer = .done (.ok batch) →
      batch.results.length = tasks.length ∧
      batch.results.map TaskResult.path = tasks.map Task.path) ∧
    (pool.disposed = false → tasks ≠ [] → pool.isSmall tasks = false →
      around.clock.reaches pool.options.timeout = true → pool.Heard around.record →
      ∃ batch lots, answer = .done (.ok batch) ∧
        pool.Returns around.clock tasks lots (.done batch.results) ∧
        ∀ index, (lots index).fate = around.fates index ∧
          ∃ number, (lots index).router = factory number) ∧
    ∀ lots results, pool.Returns around.clock tasks lots (.done results) →
      results.map TaskResult.path = tasks.map Task.path ∧
      ∀ index chunk, (chunksOf tasks pool.options.poolSize)[index]? = some chunk →
        let part := partOf (chunksOf tasks pool.options.poolSize) index results
        ((lots index).ending chunk).Yields index pool.options.timeout.millis chunk part ∧
        ∀ message, (lots index).ending chunk = .crashed message →
          part = chunk.map fun task =>
            .failed task.path (Error.workerFailed index (Worker.crashReason message)).message := by
  intro answer
  have cases := parseFiles_cases factory pool around tasks
  refine ⟨?_, ?_, ?_, ?_, ?_⟩
  · intro error
    rcases cases with ⟨disposed, refused⟩ | ⟨accepts, -, _, -, crash⟩ | ⟨accepts, -, _, read, -⟩
    · simp [answer, refused, disposed, eq_comm]
    · simp [answer, crash, accepts]
    · simp [answer, read, accepts]
  · intro message
    exact parseFiles_eq_crash_iff
  · intro batch same
    rcases cases with ⟨-, refused⟩ | ⟨-, -, _, -, crash⟩ | ⟨-, -, other, read, paths⟩
    · rw [show answer = _ from refused] at same
      cases same
    · rw [show answer = _ from crash] at same
      cases same
    · rw [show answer = _ from read] at same
      cases same
      exact ⟨by simpa using congrArg List.length paths, paths⟩
  · intro accepts some large reached heard
    have returns := dispatch_returns factory pool around tasks
    rw [dispatch_in_time reached] at returns
    refine ⟨(share factory pool around.fates tasks).1,
      lotsInOrder factory pool around.fates tasks, ?_, returns,
      lotsInOrder_drawn factory pool around.fates tasks⟩
    simp only [answer, parseFiles, accepts, some, large, readBatch, dispatch_in_time reached,
      List.isEmpty_iff, Bool.false_eq_true, if_false, Attempt.bind_done,
      heard.announce, Attempt.map_done]
  · intro lots results returns
    obtain ⟨paths, yields⟩ := returns.2.aligned
    refine ⟨paths, ?_⟩
    intro index chunk inside
    exact ⟨yields index chunk inside, fun message => returns.2.crashed_part inside⟩

/-- The second of two tasks crashes. Below the size from which on batches are shared out the call
ends with it; with a third task the call returns, and both tasks of the first chunk say that their
worker crashed. Where that batch is to be waited for as long as can be asked for, the call ends
too. -/
theorem second_task_crashes_either_way :
    let reader : Reader := fun content _ =>
      if content = "!" then .crash (some "boom") else .done (.ok ⟨[⟨content, 1⟩], [], []⟩)
    let router : Router Reader := ⟨[("c", ⟨"c", [], reader⟩)], []⟩
    let factory : RouterFactory := fun _ => .done router
    let pool := Pool.new ⟨2, 3, .ofMillis 1000, false⟩
    let patient := Pool.new ⟨2, 3, .longest, false⟩
    let calm : Circumstances := .calm ⟨0, Nat.pow 2 63 * 1000000000⟩
    let small : List Task := [⟨"a", "x", some "c"⟩, ⟨"b", "!", some "c"⟩]
    let large : List Task := small ++ [⟨"d", "z", some "c"⟩]
    let reason := "Worker for chunk 0 failed: worker panicked: boom"
    (parseFiles factory pool calm small).1 = .crash (some "boom") ∧
      (∃ batch, (parseFiles factory pool calm large).1 = .done (.ok batch) ∧
        batch.results.map TaskResult.path = ["a", "b", "d"] ∧
        batch.results.take 2 = [.failed "a" reason, .failed "b" reason]) ∧
      (parseFiles factory patient calm large).1 =
        .crash (some "overflow when adding duration to instant") := by
  intro reader router factory pool patient calm small large reason
  obtain ⟨-, crashes, -, -, -⟩ := crashes_that_escape factory pool calm small
  obtain ⟨-, -, aligned, shares, chunks⟩ := crashes_that_escape factory pool calm large
  obtain ⟨-, waits, -, -, -⟩ := crashes_that_escape factory patient calm large
  refine ⟨?_, ?_, ?_⟩
  · refine (crashes (some "boom")).mpr ⟨rfl, List.cons_ne_nil _ _, .inline (by decide) ?_⟩
    have before : ∀ earlier ∈ small.take 1, ∃ result, earlier.run router = .done result := by
      intro earlier member
      rw [List.mem_singleton.mp member]
      exact ⟨_, rfl⟩
    exact .reading rfl rfl before rfl
  · obtain ⟨batch, lots, read, returns, drawn⟩ :=
      shares rfl (by simp [large, small]) (by decide) (by decide) fun _ _ => rfl
    obtain ⟨fate, number, built⟩ := drawn 0
    have split : chunksOf large pool.options.poolSize = [small, [⟨"d", "z", some "c"⟩]] := by decide
    have ending : (lots 0).ending small = .crashed (some "boom") := by
      have lot : lots 0 = ⟨.done router, .undisturbed⟩ := by
        rw [show lots 0 = ⟨(lots 0).router, (lots 0).fate⟩ from rfl, fate, built]
        rfl
      rw [lot]
      rfl
    have parts := (chunks lots batch.results returns).2
    rw [split] at parts
    exact ⟨batch, read, (aligned batch read).2, (parts 0 small rfl).2 (some "boom") ending⟩
  · exact (waits _).mpr ⟨rfl, by simp [large, small], .waiting (by decide) (by decide) rfl⟩

/-- A pool that was not disposed of is given one task, and the task crashes: the call gives back no
result for it. -/
theorem inline_crash_ends_call :
    let reader : Reader := fun _ _ => .crash (some "boom")
    let router : Router Reader := ⟨[("c", ⟨"c", [], reader⟩)], []⟩
    let pool := Pool.new ⟨1, 10, .ofMillis 30000, false⟩
    let answer := (parseFiles (fun _ => .done router) pool (.calm ⟨0, 0⟩)
      [⟨"a", "x", some "c"⟩]).1
    pool.disposed = false ∧ answer = .crash (some "boom") ∧
      ¬ ∃ batch, answer = .done (.ok batch) := by
  refine ⟨rfl, rfl, ?_⟩
  rintro ⟨batch, read⟩
  cases read

end Pool

end SourceFacts

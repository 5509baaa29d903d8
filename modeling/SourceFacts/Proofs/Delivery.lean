import SourceFacts.Command.Parse
import SourceFacts.Proofs.EscapingCrash
import SourceFacts.Proofs.QueueAtRest

/-! A run over many files loses none of them. The tasks are cut into batches, and a batch that is
large enough into chunks; the last batch may be small where all the others were shared out. Neither
cut shows in the results, which are those of the tasks done one after the other, and the counts that
are kept beside the results are theirs. -/
namespace SourceFacts

/-- Milliseconds that are a word are no more nanoseconds than this. -/
theorem Duration.total_ofMillis_lt (milliseconds : Nat) :
    (ofMillis milliseconds).total < 1000000 * 18446744073709551616 := by
  have word := milliseconds.toUInt64.toNat_lt
  have small : milliseconds.toUInt64.toNat / 1000 < UInt64.size := by
    have size : UInt64.size = 18446744073709551616 := rfl
    omega
  have seconds : (milliseconds.toUInt64.toNat / 1000).toUInt64.toNat =
      milliseconds.toUInt64.toNat / 1000 := UInt64.toNat_ofNat_of_lt' small
  simp only [total, ofMillis, seconds]
  omega

/-! ## Readers that do not crash -/

namespace Router

variable {α : Type} {holds : Registration α → Prop}

theorem mem_assign {β : Type} {key : String} {value : β} {entries : List (String × β)}
    {entry : String × β} (member : entry ∈ assign key value entries) :
    entry = (key, value) ∨ entry ∈ entries := by
  induction entries with
  | nil => exact .inl (List.mem_singleton.mp member)
  | cons first rest ih =>
    unfold assign at member
    split at member
    · rcases List.mem_cons.mp member with here | later
      · exact .inl here
      · exact .inr (List.mem_cons_of_mem _ later)
    · rcases List.mem_cons.mp member with here | later
      · exact .inr (here ▸ List.mem_cons_self)
      · exact (ih later).imp_right (List.mem_cons_of_mem _)

/-- Everything that is registered has a property. -/
def Throughout (holds : Registration α → Prop) (router : Router α) : Prop :=
  ∀ entry ∈ router.byName, holds entry.2

theorem Throughout.register {router : Router α} (all : router.Throughout holds)
    {registration : Registration α} (new : holds registration) :
    (router.register registration).Throughout holds := by
  intro entry member
  rcases mem_assign member with rfl | earlier
  · exact new
  · exact all entry earlier

theorem Throughout.get? {router : Router α} (all : router.Throughout holds) {name : String}
    {registration : Registration α} (found : router.get? name = some registration) :
    holds registration := by
  obtain ⟨front, back, shape, -⟩ := List.lookup_eq_some_iff.mp found
  exact all (name, registration) (by simp [shape])

theorem Throughout.forPath? {router : Router α} (all : router.Throughout holds) {path : String}
    {registration : Registration α} (found : router.forPath? path = some registration) :
    holds registration := by
  simp only [Router.forPath?, forExtension?, Option.bind_eq_bind, Option.bind_eq_some_iff] at found
  obtain ⟨extension, -, name, -, found⟩ := found
  exact all.get? found

end Router

/-- A reader that never crashes. -/
def Registration.Steady (registration : Registration Reader) : Prop :=
  ∀ content path, ∃ outcome, registration.reader content path = .done outcome

/-- Where no reader crashes, every task has a result. -/
theorem Task.run_done {router : Router Reader} (steady : router.Throughout Registration.Steady)
    (task : Task) : ∃ result, task.run router = .done result := by
  unfold Task.run
  cases found : task.readerIn router with
  | none => exact ⟨_, rfl⟩
  | some registration =>
    have reads : registration.Steady := by
      rcases Option.or_eq_some_iff.mp found with named | ⟨-, taken⟩
      · obtain ⟨name, -, named⟩ := Option.bind_eq_some_iff.mp named
        exact steady.get? named
      · exact steady.forPath? taken
    obtain ⟨outcome, read⟩ := reads task.content task.path
    exact ⟨.ofOutcome task.path outcome, by simp only [read]⟩

namespace Command

theorem readers_steady : readers.Throughout Registration.Steady := by
  have registered : ∀ (grammars : List Grammar) (router : Router Reader),
      router.Throughout Registration.Steady →
      (grammars.foldl (fun router grammar => router.register
        ⟨grammar.name, grammar.extensions, grammar.reader⟩) router).Throughout
          Registration.Steady := by
    intro grammars
    induction grammars with
    | nil => exact fun router steady => steady
    | cons grammar rest ih =>
      intro router steady
      exact ih _ (steady.register fun content _ => ⟨.ok (grammar.facts content), rfl⟩)
  exact registered Grammar.all .empty (by simp [Router.Throughout, Router.empty])

end Command

/-! ## Batch after batch -/

namespace Pool

/-- A call changes neither how the pool is set up nor whether it was disposed of. -/
theorem parseFiles_keeps (factory : RouterFactory) (pool : Pool) (around : Circumstances)
    (tasks : List Task) :
    (parseFiles factory pool around tasks).2.options = pool.options ∧
      (parseFiles factory pool around tasks).2.disposed = pool.disposed := by
  obtain ⟨inlineRouter, routersBuilt, inline⟩ := runInline_pool factory pool tasks
  have shared := dispatch_recounts factory pool around tasks
  rw [parseFiles_pool]
  split
  · exact ⟨rfl, rfl⟩
  · split
    · rw [inline]
      exact ⟨rfl, rfl⟩
    · exact ⟨shared.options, shared.disposed⟩

end Pool

/-- Nothing gets in the way of a pool: no chunk is disturbed, the clock has a moment to wait until,
and whoever is told of batches does not crash. -/
structure Circumstances.Undisturbed (options : PoolOptions) (around : Circumstances) : Prop where
  fates : around.fates = fun _ => .undisturbed
  reached : around.clock.reaches options.timeout = true
  heard : options.metrics = true → ∀ report, around.record report = .done ()

namespace Command

variable {options : PoolOptions} {router : Router Reader} {factory : RouterFactory}
  {tasks : List Task} {results : List TaskResult}

/-- Results that a batch can come to, by its length: a small one is read on the spot, and the
workers of a larger one take turns in any order, with nothing to disturb them. -/
def Answers (options : PoolOptions) (router : Router Reader) (batch : List Task)
    (results : List TaskResult) : Prop :=
  if batch.length < options.minBatch then Task.runAll router batch = .done results
  else ∃ pool : Pool, pool.options = (Pool.new options).options ∧
    pool.Gathers batch (fun _ => ⟨.done router, .undisturbed⟩) results

/-- Results that tasks can come to when they are handed to a pool a batch at a time. -/
inductive Delivers (options : PoolOptions) (router : Router Reader) :
    List Task → List TaskResult → Prop where
  | nothing : Delivers options router [] []
  | batch {tasks : List Task} {results more : List TaskResult} (left : tasks ≠ [])
      (answers : Answers options router (tasks.take batchSize) results)
      (rest : Delivers options router (tasks.drop batchSize) more) :
      Delivers options router tasks (results ++ more)

theorem Answers.in_order (answers : Answers options router tasks results)
    (each : ∀ task ∈ tasks, ∃ result, task.run router = .done result) :
    tasks.map (Task.run router) = results.map .done := by
  apply Task.runAll_eq_done_iff.mp
  unfold Answers at answers
  split at answers
  · exact answers
  · obtain ⟨pool, -, gathers⟩ := answers
    apply gathers.runs_all
    intro index chunk inside
    have within : ∀ task ∈ chunk, task ∈ tasks := by
      intro task member
      rw [← flatten_chunksOf tasks pool.options.poolSize]
      exact List.mem_flatten.mpr ⟨chunk, List.mem_of_getElem? inside, member⟩
    obtain ⟨part, ran⟩ := Task.runAll_of_each fun task member => each task (within task member)
    simp only [Lot.ending, ran]

/-- Whatever the batches and the chunks, and in whatever order the workers take turns, the results
are those of the tasks in their order. -/
theorem Delivers.in_order (delivers : Delivers options router tasks results)
    (each : ∀ task ∈ tasks, ∃ result, task.run router = .done result) :
    tasks.map (Task.run router) = results.map .done := by
  induction delivers with
  | nothing => rfl
  | @batch tasks results more left answers rest ih =>
    have first := answers.in_order fun task member => each task (List.mem_of_mem_take member)
    have others := ih fun task member => each task (List.mem_of_mem_drop member)
    rw [← List.take_append_drop batchSize tasks, List.map_append, first, others, List.map_append]

/-- What a call gives back for a batch that nothing disturbs. -/
theorem parseFiles_answers (same : ∀ number, factory number = .done router) {pool : Pool}
    {around : Circumstances} (undisturbed : around.Undisturbed options)
    (configured : pool.options = (Pool.new options).options) (accepts : pool.disposed = false)
    (prepared : Pool.Prepared router pool) (some : tasks ≠ [])
    (each : ∀ task ∈ tasks, ∃ result, task.run router = .done result) :
    ∃ batch, (pool.parseFiles factory around tasks).1 = .done (.ok batch) ∧
      Answers options router tasks batch.results := by
  have small : pool.isSmall tasks = decide (tasks.length < options.minBatch) := by
    rw [Pool.isSmall, configured]
    rfl
  have reached : around.clock.reaches pool.options.timeout = true := by
    rw [configured]
    exact undisturbed.reached
  have heard : pool.Heard around.record := by
    intro wanted
    rw [configured] at wanted
    exact undisturbed.heard wanted
  have read : ∃ batch, (pool.readBatch factory around tasks).1 = .done batch ∧
      Answers options router tasks batch.results := by
    unfold Pool.readBatch Answers
    rw [small]
    by_cases few : tasks.length < options.minBatch
    · obtain ⟨results, ran⟩ := Task.runAll_of_each each
      simp only [few, decide_true, if_true, Pool.runInline_fst,
        Pool.routerAtHand_eq same prepared, Attempt.bind_done, ran, Attempt.map_done]
      exact ⟨_, rfl, rfl⟩
    · simp only [few, decide_false, Bool.false_eq_true, if_false, Pool.dispatch_in_time reached,
        undisturbed.fates]
      exact ⟨_, rfl, pool, configured, Pool.share_gathers_same same pool _ tasks⟩
  obtain ⟨batch, done, answers⟩ := read
  refine ⟨batch, ?_, answers⟩
  rw [Pool.parseFiles, if_neg (by simp [accepts]), if_neg (by simpa using some)]
  simp only [done, Attempt.bind_done, heard.announce, Attempt.map_done]

/-- As many rounds as there are tasks are enough. -/
theorem feed_delivers (same : ∀ number, factory number = .done router) {rounds : Nat} {pool : Pool}
    {around : Nat → Circumstances} (undisturbed : ∀ number, (around number).Undisturbed options)
    (enough : tasks.length ≤ rounds) (configured : pool.options = (Pool.new options).options)
    (accepts : pool.disposed = false) (prepared : Pool.Prepared router pool)
    (each : ∀ task ∈ tasks, ∃ result, task.run router = .done result) :
    ∃ delivery, feed factory around rounds pool tasks = .done (.ok delivery) ∧
      Delivers options router tasks delivery.results := by
  induction rounds generalizing around pool tasks with
  | zero =>
    obtain rfl : tasks = [] := List.length_eq_zero_iff.mp (Nat.le_zero.mp enough)
    exact ⟨⟨[], []⟩, rfl, .nothing⟩
  | succ rounds ih =>
    by_cases empty : tasks = []
    · subst empty
      exact ⟨⟨[], []⟩, rfl, .nothing⟩
    have first : tasks.take batchSize ≠ [] := by simpa [batchSize] using empty
    have fewer : (tasks.drop batchSize).length ≤ rounds := by
      have positive := List.length_pos_iff.mpr empty
      rw [List.length_drop, batchSize]
      omega
    obtain ⟨batch, answer, answers⟩ := parseFiles_answers same (undisturbed 0) configured accepts
      prepared first fun task member => each task (List.mem_of_mem_take member)
    obtain ⟨keptOptions, keptOpen⟩ :=
      Pool.parseFiles_keeps factory pool (around 0) (tasks.take batchSize)
    have ready := Pool.parseFiles_prepared same prepared (around 0) (tasks.take batchSize)
    obtain ⟨more, fed, delivers⟩ := ih (fun number => undisturbed (number + 1)) fewer
      (keptOptions.trans configured) (keptOpen.trans accepts) ready
      fun task member => each task (List.mem_of_mem_drop member)
    refine ⟨⟨batch.results ++ more.results, batch :: more.batches⟩, ?_,
      .batch empty answers delivers⟩
    rw [feed, if_neg (by simpa using empty)]
    generalize pool.parseFiles factory (around 0) (tasks.take batchSize) = call at *
    obtain ⟨_, later⟩ := call
    cases answer
    simp only [fed]
    rfl

theorem deliver_delivers (same : ∀ number, factory number = .done router)
    (steady : router.Throughout Registration.Steady) {around : Nat → Circumstances}
    (undisturbed : ∀ number, (around number).Undisturbed options) (tasks : List Task) :
    ∃ delivery, deliver factory around options tasks = .done (.ok delivery) ∧
      Delivers options router tasks delivery.results := by
  refine feed_delivers same undisturbed (Nat.le_refl _) rfl rfl ?_ fun task _ =>
    Task.run_done steady task
  intro kept found
  cases found

end Command

/-! ## Counting along the way -/

/-- The facts of all results together. -/
def TaskResult.factTotal : List TaskResult → Nat
  | [] => 0
  | result :: rest => result.facts.count + factTotal rest

/-- Whatever was counted before, recording results adds theirs. -/
theorem Progress.record_all (progress : Progress) (results : List TaskResult) :
    let last := results.foldl Progress.record progress
    last.done = progress.done + results.length ∧
      last.failed = progress.failed + results.countP (!·.isOk) ∧
      last.facts = progress.facts + TaskResult.factTotal (results.filter TaskResult.isOk) := by
  induction results generalizing progress with
  | nil => exact ⟨rfl, rfl, rfl⟩
  | cons result rest ih =>
    obtain ⟨done, failed, facts⟩ := ih (progress.record result)
    simp only [List.foldl_cons, done, failed, facts]
    by_cases ok : result.isOk = true
    · have next : progress.record result =
          { progress with
            parsed := progress.parsed + 1
            facts := progress.facts + result.facts.count } := if_pos ok
      rw [next, List.filter_cons_of_pos ok, List.countP_cons_of_neg (by simp [ok])]
      simp only [Progress.done, TaskResult.factTotal, List.length_cons, true_and]
      omega
    · have next : progress.record result =
          { progress with failed := progress.failed + 1 } := if_neg ok
      rw [next, List.filter_cons_of_neg ok, List.countP_cons_of_pos (by simp [ok])]
      simp only [Progress.done, List.length_cons, and_true]
      omega

namespace Command

theorem progressOf_counts (results : List TaskResult) :
    (progressOf results).done = results.length ∧
      (progressOf results).failed = results.countP (!·.isOk) ∧
      (progressOf results).facts = TaskResult.factTotal (results.filter TaskResult.isOk) := by
  obtain ⟨done, failed, facts⟩ :=
    (Progress.new.start results.length).record_all results
  refine ⟨done.trans ?_, failed.trans ?_, facts.trans ?_⟩
  all_goals exact Nat.zero_add _

/-- Where every file can be read, there is one task for each, with its text. -/
theorem tasksOf_readable {world : World} {files : List String}
    (readable : ∀ path ∈ files, ∃ content, world.readText path = .ok content) :
    (tasksOf world files).2 = [] ∧ (tasksOf world files).1.map Task.path = files ∧
      ∀ task ∈ (tasksOf world files).1,
        world.readText task.path = .ok task.content ∧ task.language = none := by
  induction files with
  | nil => simp [tasksOf]
  | cons path rest ih =>
    obtain ⟨content, text⟩ := readable path List.mem_cons_self
    obtain ⟨unread, paths, contents⟩ := ih fun other member =>
      readable other (List.mem_cons_of_mem _ member)
    have found : world.tree.readText (world.place path) = .ok content := by
      unfold World.readText at text
      cases answer : world.tree.readText (world.place path) with
      | error error => simp [answer] at text
      | ok other => simpa [answer] using text
    simp only [tasksOf, found]
    refine ⟨unread, by simp [paths], ?_⟩
    intro task member
    rcases List.mem_cons.mp member with rfl | later
    · exact ⟨text, rfl⟩
    · exact contents task later

/-- Results that are those of tasks done one after the other, and counted as such. -/
structure Accounts (router : Router Reader) (tasks : List Task) (results : List TaskResult) : Prop where
  inOrder : tasks.map (Task.run router) = results.map .done
  paths : results.map TaskResult.path = tasks.map Task.path
  done : (progressOf results).done = tasks.length
  failed : (progressOf results).failed = results.countP (!·.isOk)
  facts : (progressOf results).facts = TaskResult.factTotal (results.filter TaskResult.isOk)

theorem Delivers.accounts (delivers : Delivers options router tasks results)
    (steady : router.Throughout Registration.Steady) : Accounts router tasks results := by
  have inOrder := delivers.in_order fun task _ => Task.run_done steady task
  have paths := Task.runAll_paths (Task.runAll_eq_done_iff.mpr inOrder)
  have length : results.length = tasks.length := by simpa using congrArg List.length paths
  obtain ⟨counted, failed, facts⟩ := progressOf_counts results
  exact ⟨inOrder, paths, counted.trans length, failed, facts⟩

/-- **Every file has its result, in the order of the files.** Take files that can all be read, a
factory that always builds one router whose readers do not crash, and a pool of any size that shares
out batches of any size on, while nothing gets in its way. There is one task for each file, and the
run comes to an end. Whatever batches and chunks the tasks are cut into, and in whatever order the
workers take turns, the results are those of the tasks done one after the other, one for each file
in its place; and the summary counts them all, the failed ones among them, and the facts of the
others. So it is for the files below a directory, on a clock that has room for any number of
milliseconds that can be set. -/
theorem every_file_has_its_result (factory : RouterFactory) (router : Router Reader)
    (same : ∀ number, factory number = .done router)
    (steady : router.Throughout Registration.Steady) (options : PoolOptions)
    (around : Nat → Circumstances) (undisturbed : ∀ number, (around number).Undisturbed options)
    (world : World) (files : List String)
    (readable : ∀ path ∈ files, ∃ content, world.readText path = .ok content) :
    let tasks := (tasksOf world files).1
    ((tasksOf world files).2 = [] ∧ tasks.map Task.path = files ∧
      ∀ task ∈ tasks, world.readText task.path = .ok task.content ∧ task.language = none) ∧
    (∃ delivery, deliver factory around options tasks = .done (.ok delivery) ∧
      Delivers options router tasks delivery.results) ∧
    (∀ results, Delivers options router tasks results →
      Accounts router tasks results ∧ results.map TaskResult.path = files) ∧
    ∀ clock root config settings, loadConfig world root config = .ok settings →
      Walk.files world.tree readers world.current root = files →
      (∀ number milliseconds, (clock number).reaches (.ofMillis milliseconds) = true) →
      ∃ delivery,
        parseBelow world clock root config =
          .done (.ok ⟨files.length, [], delivery, settings.pool.logMetrics, world.logLevel⟩) ∧
        Delivers (settings.pool.toOptions (defaultPoolSize world.processors)) readers tasks
          delivery.results ∧
        Accounts readers tasks delivery.results ∧
        delivery.results.map TaskResult.path = files := by
  intro tasks
  obtain ⟨unread, paths, contents⟩ := tasksOf_readable readable
  refine ⟨⟨unread, paths, contents⟩, deliver_delivers same steady undisturbed tasks, ?_, ?_⟩
  · intro results delivers
    have accounts := delivers.accounts steady
    exact ⟨accounts, accounts.paths.trans paths⟩
  · intro clock root config settings loaded walked room
    let set := settings.pool.toOptions (defaultPoolSize world.processors)
    have calm : ∀ number, (Circumstances.calm (clock number)).Undisturbed set :=
      fun number => ⟨rfl, room number settings.pool.timeoutMs, fun _ _ => rfl⟩
    have built : ∀ number, buildReaders number = .done readers := fun _ => rfl
    obtain ⟨delivery, delivered, delivers⟩ := deliver_delivers built readers_steady calm tasks
    have accounts := delivers.accounts readers_steady
    refine ⟨delivery, ?_, delivers, accounts, accounts.paths.trans paths⟩
    simp only [parseBelow, loaded, walked]
    rw [show tasksOf world files = (tasks, []) from Prod.ext rfl unread]
    simp only [show deliver buildReaders (fun number => Circumstances.calm (clock number)) set tasks =
      .done (.ok delivery) from delivered, set]
    rfl

/-- Two files below a directory are read on the spot by the run of a command, and by two workers
where even a single file is shared out. -/
theorem two_files_delivered :
    let world : World :=
      ⟨.directory [("src", .directory [("a.rs", .file (some "fn a() {}")),
        ("b.rs", .file (some "fn b() {}"))])], [], fun _ => none, 4⟩
    let files := ["src/a.rs", "src/b.rs"]
    let clock : Clock := ⟨0, 1000000000 * Nat.pow 2 63 - 1⟩
    ((∀ path ∈ files, ∃ content, world.readText path = .ok content) ∧
        loadConfig world "src" none = .ok {} ∧
        Walk.files world.tree readers world.current "src" = files) ∧
      (∃ run, parseBelow world (fun _ => clock) "src" none = .done (.ok run) ∧
        run.delivery.results.map TaskResult.path = files ∧
        (progressOf run.delivery.results).done = 2) ∧
      ∃ delivery, deliver buildReaders (fun _ => .calm clock) ⟨2, 1, .ofMillis 1000, false⟩
          (tasksOf world files).1 = .done (.ok delivery) ∧
        delivery.results.map TaskResult.path = files ∧
        (progressOf delivery.results).done = 2 := by
  intro world files clock
  have readable : ∀ path ∈ files, ∃ content, world.readText path = .ok content := by
    intro path member
    rcases List.mem_cons.mp member with rfl | member
    · exact ⟨"fn a() {}", by rfl⟩
    · obtain rfl := List.mem_singleton.mp member
      exact ⟨"fn b() {}", by rfl⟩
  have loaded : loadConfig world "src" none = .ok {} := by rfl
  have listed : Walk.list world.tree ["src"] = [["a.rs"], ["b.rs"]] :=
    List.mergeSort_of_pairwise (by decide)
  have walked : Walk.files world.tree readers world.current "src" = files := by
    rw [Walk.files, show world.current ++ Path.parts "src" = ["src"] by decide, listed]
    decide
  have room : ∀ milliseconds, clock.reaches (.ofMillis milliseconds) = true := by
    intro milliseconds
    have small := Duration.total_ofMillis_lt milliseconds
    have latest : clock.latest = 1000000000 * 9223372036854775808 - 1 := rfl
    simp only [Clock.reaches, decide_eq_true_eq, latest, show clock.now = 0 from rfl]
    omega
  have calm : (Circumstances.calm clock).Undisturbed ⟨2, 1, .ofMillis 1000, false⟩ :=
    ⟨rfl, room 1000, fun _ _ => rfl⟩
  obtain ⟨-, ⟨shared, delivered, delivers⟩, inOrder, below⟩ := every_file_has_its_result buildReaders
    readers (fun _ => rfl) readers_steady ⟨2, 1, .ofMillis 1000, false⟩ (fun _ => .calm clock)
    (fun _ => calm) world files readable
  obtain ⟨sharedAccounts, sharedPaths⟩ := inOrder _ delivers
  obtain ⟨inline, ran, -, accounts, paths⟩ :=
    below (fun _ => clock) "src" none {} loaded walked fun _ => room
  exact ⟨⟨readable, loaded, walked⟩, ⟨_, ran, paths, accounts.done⟩,
    shared, delivered, sharedPaths, sharedAccounts.done⟩

end Command

end SourceFacts

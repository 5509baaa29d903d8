import SourceFacts.Proofs.WorkerCourse

/-! The ways in which a chunk can end, and what each of them makes of its tasks: one result
for each, in order, with failures where the chunk failed or was given up. A worker that has
ended reports what the ending of its chunk says and nothing else. -/
namespace SourceFacts

namespace Task

theorem run_path {router : Router Reader} {task : Task} {result : TaskResult}
    (ran : task.run router = .done result) : result.path = task.path := by
  unfold run at ran
  split at ran
  · cases ran
    rfl
  · split at ran
    next outcome _ =>
      cases ran
      cases outcome <;> rfl
    · cases ran

theorem runAll_paths {router : Router Reader} {tasks : List Task} {results : List TaskResult}
    (ran : runAll router tasks = .done results) :
    results.map TaskResult.path = tasks.map Task.path := by
  induction tasks generalizing results with
  | nil =>
    cases ran
    rfl
  | cons task rest ih =>
    unfold runAll at ran
    split at ran
    · cases ran
    next result first =>
      split at ran
      · cases ran
      next others following =>
        cases ran
        rw [List.map_cons, List.map_cons, run_path first, ih following]

end Task

/-- How a chunk ends. -/
inductive Ending where
  /-- All its tasks are done, with this router. -/
  | completed (router : Router Reader)
  /-- With this router, no task from this one on is begun. -/
  | cancelled (router : Router Reader) (before : Nat)
  | crashed (message : Option String)
  | lost
  | timedOut
  | notStarted (reason : Option String)

namespace Ending

/-- What is said about a chunk that does not deliver. -/
def error? (index timeoutMs : Nat) : Ending → Option Error
  | .completed _ | .cancelled _ _ => none
  | .crashed message => some (.workerFailed index (Worker.crashReason message))
  | .lost => some (.workerFailed index "worker exited before signalling completion")
  | .timedOut => some (.workerTimeout index timeoutMs)
  | .notStarted reason => some (.workerFailed index (reason.getD "worker was not started"))

/-- Whether the chunk does not deliver. -/
def fails : Ending → Bool
  | .completed _ | .cancelled _ _ => false
  | _ => true

/-- What comes of the tasks of a chunk with this number. -/
inductive Yields (index timeoutMs : Nat) (chunk : List Task) : Ending → List TaskResult → Prop
  | completed {router : Router Reader} {results : List TaskResult}
      (ran : Task.runAll router chunk = .done results) :
      Yields index timeoutMs chunk (.completed router) results
  | cancelled {router : Router Reader} {before : Nat} {results : List TaskResult}
      (ran : Task.runAll router (chunk.take before) = .done results) :
      Yields index timeoutMs chunk (.cancelled router before)
        (results ++ (chunk.drop before).map Task.cancelled)
  | failed {ending : Ending} {error : Error} (told : ending.error? index timeoutMs = some error) :
      Yields index timeoutMs chunk ending
        (chunk.map fun task => .failed task.path error.message)

namespace Yields

variable {index timeoutMs : Nat} {chunk : List Task} {ending : Ending}
  {results others : List TaskResult}

/-- An ending leaves nothing open. -/
theorem unique (first : Yields index timeoutMs chunk ending results)
    (second : Yields index timeoutMs chunk ending others) : results = others := by
  cases first with
  | completed ran =>
    cases second with
    | completed again =>
      rw [ran] at again
      cases again
      rfl
    | failed told => cases told
  | cancelled ran =>
    cases second with
    | cancelled again =>
      rw [ran] at again
      cases again
      rfl
    | failed told => cases told
  | failed told =>
    cases second with
    | completed ran => cases told
    | cancelled ran => cases told
    | failed again =>
      rw [told] at again
      cases again
      rfl

/-- Whatever the ending, there is one result for each task, in order. -/
theorem paths (yields : Yields index timeoutMs chunk ending results) :
    results.map TaskResult.path = chunk.map Task.path := by
  cases yields with
  | completed ran => exact Task.runAll_paths ran
  | @cancelled _ before done ran =>
    have gone : ((chunk.drop before).map Task.cancelled).map TaskResult.path =
        (chunk.drop before).map Task.path := by
      rw [List.map_map]
      rfl
    rw [List.map_append, Task.runAll_paths ran, gone, ← List.map_append, List.take_append_drop]
  | failed told =>
    rw [List.map_map]
    rfl

/-- A chunk that does not deliver has only failures. -/
theorem blank_of_fails (yields : Yields index timeoutMs chunk ending results)
    (fails : ending.fails = true) :
    ∀ result ∈ results, result.error.isSome = true ∧ result.facts = .empty := by
  cases yields with
  | completed ran | cancelled ran => cases fails
  | failed told =>
    intro result member
    obtain ⟨task, -, rfl⟩ := List.mem_map.mp member
    exact ⟨rfl, rfl⟩

/-- A chunk that is cancelled has only failures from there on. -/
theorem blank_of_cancelled {router : Router Reader} {before : Nat}
    (yields : Yields index timeoutMs chunk (.cancelled router before) results) :
    ∀ result ∈ results.drop before, result.error.isSome = true ∧ result.facts = .empty := by
  cases yields with
  | failed told => cases told
  | @cancelled _ _ done ran =>
    intro result member
    have within : done.length ≤ before := by
      have := congrArg List.length (Task.runAll_paths ran)
      simp only [List.length_map, List.length_take] at this
      omega
    rw [List.drop_append, List.drop_of_length_le within, List.nil_append] at member
    obtain ⟨task, -, rfl⟩ := List.mem_map.mp (List.mem_of_mem_drop member)
    exact ⟨rfl, rfl⟩

end Yields

end Ending

namespace Lot

/-- How a chunk ends that draws a lot. -/
def ending (lot : Lot) (chunk : List Task) : Ending :=
  match lot.fate with
  | .lost => .lost
  | .timedOut _ => .timedOut
  | .notStarted reason => .notStarted reason
  | .undisturbed =>
    match lot.router with
    | .crash message => .crashed message
    | .done router =>
      match Task.runAll router chunk with
      | .crash message => .crashed message
      | .done _ => .completed router
  | .cancelled before =>
    match lot.router with
    | .crash message => .crashed message
    | .done router =>
      match Task.runAll router (chunk.take before) with
      | .crash message => .crashed message
      | .done _ => .cancelled router before

end Lot

namespace Worker

/-- A worker that holds a chunk under a lot: it answers for the paths of the chunk, and comes to
what it was to come to from the start. -/
structure Serves (lot : Lot) (chunk : List Task) (worker : Worker) : Prop where
  paths : worker.paths = chunk.map Task.path
  outlook : worker.outlook lot = (new chunk).outlook lot

theorem Serves.new (lot : Lot) (chunk : List Task) : Serves lot chunk (.new chunk) :=
  ⟨rfl, rfl⟩

/-- A worker serves its chunk as before after each of its steps. -/
theorem Serves.step {lot : Lot} {chunk : List Task} {pool : Pool} {worker : Worker}
    {after : Pool × Worker} (serves : Serves lot chunk worker)
    (step : Pool.Step lot pool worker after) : Serves lot chunk after.2 :=
  ⟨step.keeps_paths.trans serves.paths, step.keeps_outlook.trans serves.outlook⟩

theorem ending_of_delivery {lot : Lot} {chunk : List Task} {results : List TaskResult}
    (awaited : lot.fate.awaited = true) (delivers : (new chunk).outlook lot = .done results)
    (index timeoutMs : Nat) : (lot.ending chunk).Yields index timeoutMs chunk results := by
  obtain ⟨router, fate⟩ := lot
  cases router with
  | crash message => cases delivers
  | done router =>
    cases fate with
    | lost | timedOut before | notStarted reason => cases awaited
    | undisturbed =>
      cases ran : Task.runAll router chunk with
      | crash message => simp [outlook, new, comesTo, Fate.begun, ran] at delivers
      | done done =>
        simp only [outlook, new, comesTo, Fate.begun, Fate.unbegun, ran, List.nil_append,
          List.map_nil, List.append_nil, Attempt.done.injEq] at delivers
        simp only [Lot.ending, ran]
        exact .completed (delivers ▸ ran)
    | cancelled before =>
      cases ran : Task.runAll router (chunk.take before) with
      | crash message => simp [outlook, new, comesTo, Fate.begun, ran] at delivers
      | done done =>
        simp only [outlook, new, comesTo, Fate.begun, Fate.unbegun, List.length_nil,
          Nat.sub_zero, ran, List.nil_append, Attempt.done.injEq] at delivers
        simp only [Lot.ending, ran]
        exact delivers ▸ .cancelled ran

theorem ending_of_crash {lot : Lot} {chunk : List Task} {message : Option String}
    (awaited : lot.fate.awaited = true) (crashes : (new chunk).outlook lot = .crash message) :
    lot.ending chunk = .crashed message := by
  obtain ⟨router, fate⟩ := lot
  cases router with
  | crash message =>
    cases crashes
    cases fate with
    | lost | timedOut before | notStarted reason => cases awaited
    | undisturbed | cancelled before => rfl
  | done router =>
    cases fate with
    | lost | timedOut before | notStarted reason => cases awaited
    | undisturbed =>
      cases ran : Task.runAll router chunk with
      | done done => simp [outlook, new, comesTo, Fate.begun, ran] at crashes
      | crash message =>
        simp only [outlook, new, comesTo, Fate.begun, ran, Attempt.crash.injEq] at crashes
        simp only [Lot.ending, ran, crashes]
    | cancelled before =>
      cases ran : Task.runAll router (chunk.take before) with
      | done done => simp [outlook, new, comesTo, Fate.begun, ran] at crashes
      | crash message =>
        simp only [outlook, new, comesTo, Fate.begun, List.length_nil, Nat.sub_zero, ran,
          Attempt.crash.injEq] at crashes
        simp only [Lot.ending, ran, crashes]

/-- What is reported of a worker, once it has ended if that is waited for, is what the ending of
its chunk yields. -/
theorem Serves.report_yields {lot : Lot} {chunk : List Task} {worker : Worker}
    (serves : Serves lot chunk worker)
    (settled : lot.fate.awaited = true → worker.hasEnded = true) (index timeoutMs : Nat) :
    (lot.ending chunk).Yields index timeoutMs chunk (worker.report index timeoutMs lot.fate) := by
  have fails {error : Error} (told : (lot.ending chunk).error? index timeoutMs = some error)
      (failure : worker.failure? index timeoutMs lot.fate = some error) :
      (lot.ending chunk).Yields index timeoutMs chunk
        (worker.report index timeoutMs lot.fate) := by
    simp only [report, failure, serves.paths, List.map_map]
    exact .failed told
  cases awaited : lot.fate.awaited with
  | false =>
    cases fate : lot.fate with
    | undisturbed | cancelled before => simp [fate, Fate.awaited] at awaited
    | lost | timedOut before | notStarted reason =>
      rw [← fate]
      exact fails (by simp only [Lot.ending, fate]; rfl) (by simp only [fate]; rfl)
  | true =>
    have ended := settled awaited
    have outlook := serves.outlook
    cases state : worker.state with
    | starting | running router => simp [hasEnded, state] at ended
    | ended =>
      simp only [Worker.outlook, state] at outlook
      have delivered : worker.report index timeoutMs lot.fate = worker.finished := by
        cases fate : lot.fate with
        | lost | timedOut before | notStarted reason => simp [fate, Fate.awaited] at awaited
        | undisturbed | cancelled before => simp [report, failure?, state]
      rw [delivered]
      exact ending_of_delivery awaited outlook.symm index timeoutMs
    | crashed message =>
      simp only [Worker.outlook, state] at outlook
      have crashed := ending_of_crash awaited outlook.symm
      refine fails (by rw [crashed]; rfl) ?_
      cases fate : lot.fate with
      | lost | timedOut before | notStarted reason => simp [fate, Fate.awaited] at awaited
      | undisturbed | cancelled before => simp only [failure?, state]

end Worker

end SourceFacts

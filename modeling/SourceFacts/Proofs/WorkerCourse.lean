import SourceFacts.Pool

/-! A worker on its own. It takes one step at a time, and what it is going to deliver is
settled by its lot before it takes the first: every step leaves that unchanged. So the other
workers of a batch can have no part in it, whatever they do between its steps. -/
namespace SourceFacts

/-- What a chunk meets: the router that its worker is given, or a crash in place of one, and
what befalls it from outside. -/
structure Lot where
  router : Attempt (Router Reader)
  fate : Fate

namespace Fate

/-- Whether there is a worker for the chunk. -/
def starts : Fate → Bool
  | .notStarted _ => false
  | _ => true

/-- Whether the batch waits for the worker to end. -/
def awaited : Fate → Bool
  | .undisturbed | .cancelled _ => true
  | _ => false

theorem starts_of_awaited {fate : Fate} (awaited : fate.awaited = true) : fate.starts = true := by
  cases fate with
  | undisturbed | cancelled before => rfl
  | lost | timedOut before | notStarted reason => cases awaited

/-- Whether a worker with this many results is to stop. -/
def stops : Fate → Nat → Bool
  | .cancelled before, done | .timedOut before, done => decide (before ≤ done)
  | _, _ => false

/-- The tasks that a worker with this many results begins, of those left to it. -/
def begun : Fate → Nat → List Task → List Task
  | .cancelled before, done, tasks | .timedOut before, done, tasks => tasks.take (before - done)
  | _, _, tasks => tasks

/-- The tasks that a worker with this many results does not begin, of those left to it. -/
def unbegun : Fate → Nat → List Task → List Task
  | .cancelled before, done, tasks | .timedOut before, done, tasks => tasks.drop (before - done)
  | _, _, _ => []

@[simp]
theorem begun_nil (fate : Fate) (done : Nat) : fate.begun done [] = [] := by
  cases fate <;> simp [begun]

@[simp]
theorem unbegun_nil (fate : Fate) (done : Nat) : fate.unbegun done [] = [] := by
  cases fate <;> simp [unbegun]

theorem begun_of_stops {fate : Fate} {done : Nat} (stop : fate.stops done = true)
    (tasks : List Task) : fate.begun done tasks = [] ∧ fate.unbegun done tasks = tasks := by
  cases fate with
  | cancelled before | timedOut before =>
    have spent : before - done = 0 := Nat.sub_eq_zero_of_le (of_decide_eq_true stop)
    simp [begun, unbegun, spent]
  | undisturbed | lost | notStarted reason => cases stop

theorem begun_cons {fate : Fate} {done : Nat} (goes : fate.stops done = false) (task : Task)
    (rest : List Task) :
    fate.begun done (task :: rest) = task :: fate.begun (done + 1) rest ∧
      fate.unbegun done (task :: rest) = fate.unbegun (done + 1) rest := by
  cases fate with
  | cancelled before | timedOut before =>
    have room : before - done = before - (done + 1) + 1 := by
      have := of_decide_eq_false goes
      omega
    simp [begun, unbegun, room]
  | undisturbed | lost | notStarted reason => exact ⟨rfl, rfl⟩

end Fate

namespace Task

/-- The result of a task that was not begun any more. -/
def cancelled (task : Task) : TaskResult := .failed task.path Worker.cancelReason

end Task

/-! ## What a worker comes to -/

namespace Worker

/-- What a worker with a router comes to: the results it has, those of the tasks that it still
begins, and a failure for each of the others. -/
def comesTo (fate : Fate) (router : Router Reader) (finished : List TaskResult)
    (remaining : List Task) : Attempt (List TaskResult) :=
  match Task.runAll router (fate.begun finished.length remaining) with
  | .done results =>
    .done (finished ++ results ++ (fate.unbegun finished.length remaining).map Task.cancelled)
  | .crash message => .crash message

/-- What a worker comes to from where it stands. -/
def outlook (lot : Lot) (worker : Worker) : Attempt (List TaskResult) :=
  match worker.state with
  | .starting =>
    match lot.router with
    | .done router => comesTo lot.fate router worker.finished worker.remaining
    | .crash message => .crash message
  | .running router => comesTo lot.fate router worker.finished worker.remaining
  | .ended => .done worker.finished
  | .crashed message => .crash message

@[simp]
theorem comesTo_nil (fate : Fate) (router : Router Reader) (finished : List TaskResult) :
    comesTo fate router finished [] = .done finished := by
  simp [comesTo, Task.runAll]

/-- Tasks that are given up were failures all along. -/
theorem comesTo_of_stops {fate : Fate} {finished : List TaskResult}
    (stop : fate.stops finished.length = true) (router : Router Reader)
    (remaining : List Task) :
    comesTo fate router finished remaining = .done (finished ++ remaining.map Task.cancelled) := by
  obtain ⟨none, all⟩ := Fate.begun_of_stops stop remaining
  simp [comesTo, none, all, Task.runAll]

/-- A task that is begun is the first of those that were going to be. -/
theorem comesTo_cons {fate : Fate} {finished : List TaskResult}
    (goes : fate.stops finished.length = false) (router : Router Reader) (task : Task)
    (rest : List Task) :
    comesTo fate router finished (task :: rest) =
      match task.run router with
      | .done result => comesTo fate router (finished ++ [result]) rest
      | .crash message => .crash message := by
  obtain ⟨first, others⟩ := Fate.begun_cons goes task rest
  cases ran : task.run router with
  | crash message => simp [comesTo, first, Task.runAll, ran]
  | done result =>
    simp only [comesTo, first, others, Task.runAll, ran, List.length_append, List.length_singleton]
    cases Task.runAll router (fate.begun (finished.length + 1) rest) with
    | crash message => rfl
    | done results => simp

/-- At most how many steps a worker has before it. -/
def due (worker : Worker) : Nat :=
  match worker.state with
  | .starting => worker.remaining.length + 2
  | .running _ => worker.remaining.length + 1
  | .ended | .crashed _ => 0

theorem hasEnded_iff_due (worker : Worker) : worker.hasEnded = true ↔ worker.due = 0 := by
  unfold hasEnded due
  cases worker.state <;> simp

end Worker

/-! ## Steps -/

namespace Pool

/-- A worker takes its next step. One that never starts, or that has ended, takes none. -/
def advance (lot : Lot) (pool : Pool) (worker : Worker) : Pool × Worker :=
  match worker.state with
  | .starting =>
    if lot.fate.starts then begin (fun _ => lot.router) pool worker else (pool, worker)
  | .running _ =>
    if worker.remaining.isEmpty then finish pool worker
    else if lot.fate.stops worker.finished.length then giveUp pool worker
    else work pool worker
  | .ended | .crashed _ => (pool, worker)

/-- What one step of a worker does to it and to the pool. -/
inductive Step (lot : Lot) (pool : Pool) (worker : Worker) : Pool × Worker → Prop
  | idle (rests : worker.hasEnded = true ∨ worker.state = .starting ∧ lot.fate.starts = false) :
      Step lot pool worker (pool, worker)
  | begins {router : Router Reader} (state : worker.state = .starting)
      (built : lot.router = .done router) :
      Step lot pool worker
        ({ pool with routersBuilt := pool.routersBuilt + 1 },
          { worker with state := .running router })
  | failsToBegin {message : Option String} (state : worker.state = .starting)
      (crash : lot.router = .crash message) :
      Step lot pool worker
        ({ pool with routersBuilt := pool.routersBuilt + 1 }.release,
          { worker with state := .crashed message })
  | works {router : Router Reader} {task : Task} {rest : List Task} {result : TaskResult}
      (state : worker.state = .running router) (next : worker.remaining = task :: rest)
      (goes : lot.fate.stops worker.finished.length = false)
      (ran : task.run router = .done result) :
      Step lot pool worker
        (pool.dequeue 1, { worker with finished := worker.finished ++ [result], remaining := rest })
  | crashes {router : Router Reader} {task : Task} {rest : List Task} {message : Option String}
      (state : worker.state = .running router) (next : worker.remaining = task :: rest)
      (goes : lot.fate.stops worker.finished.length = false)
      (ran : task.run router = .crash message) :
      Step lot pool worker (pool.release, { worker with state := .crashed message })
  | givesUp {router : Router Reader} (state : worker.state = .running router)
      (left : worker.remaining ≠ []) (stop : lot.fate.stops worker.finished.length = true) :
      Step lot pool worker
        (pool.dequeue worker.remaining.length,
          { worker with
            finished := worker.finished ++ worker.remaining.map Task.cancelled
            remaining := [] })
  | ends {router : Router Reader} (state : worker.state = .running router)
      (none : worker.remaining = []) :
      Step lot pool worker (pool.release, { worker with state := .ended })

theorem advance_step (lot : Lot) (pool : Pool) (worker : Worker) :
    Step lot pool worker (advance lot pool worker) := by
  obtain ⟨paths, finished, remaining, state⟩ := worker
  cases state with
  | starting =>
    cases starts : lot.fate.starts with
    | false =>
      simp only [advance, starts]
      exact .idle (.inr ⟨rfl, starts⟩)
    | true =>
      simp only [advance, starts, begin, if_true]
      split
      next router built => exact .begins rfl built
      next message crash => exact .failsToBegin rfl crash
  | running router =>
    cases remaining with
    | nil => exact .ends rfl rfl
    | cons task rest =>
      cases stop : lot.fate.stops finished.length with
      | true =>
        simp only [advance, stop]
        exact .givesUp rfl (List.cons_ne_nil task rest) stop
      | false =>
        simp only [advance, stop, work, List.isEmpty_cons, Bool.false_eq_true, if_false]
        split
        next result ran => exact .works rfl rfl stop ran
        next message ran => exact .crashes rfl rfl stop ran
  | ended | crashed message => exact .idle (.inl rfl)

/-- The same pool apart from what it counts. -/
structure Recounted (pool later : Pool) : Prop where
  options : later.options = pool.options
  inlineRouter : later.inlineRouter = pool.inlineRouter
  disposed : later.disposed = pool.disposed

theorem Recounted.refl (pool : Pool) : Recounted pool pool := ⟨rfl, rfl, rfl⟩

theorem Recounted.trans {pool later last : Pool} (first : Recounted pool later)
    (second : Recounted later last) : Recounted pool last :=
  ⟨second.options.trans first.options, second.inlineRouter.trans first.inlineRouter,
    second.disposed.trans first.disposed⟩

namespace Step

variable {lot : Lot} {pool : Pool} {worker : Worker} {after : Pool × Worker}

theorem recounts (step : Step lot pool worker after) : Recounted pool after.1 := by
  cases step <;> exact ⟨rfl, rfl, rfl⟩

theorem keeps_paths (step : Step lot pool worker after) : after.2.paths = worker.paths := by
  cases step <;> rfl

/-- A step changes nothing about what the worker comes to. -/
theorem keeps_outlook (step : Step lot pool worker after) :
    after.2.outlook lot = worker.outlook lot := by
  cases step with
  | idle rests => rfl
  | begins state built => simp [Worker.outlook, state, built]
  | failsToBegin state crash => simp [Worker.outlook, state, crash]
  | works state next goes ran =>
    simp only [Worker.outlook, state, next, Worker.comesTo_cons goes, ran]
  | crashes state next goes ran =>
    simp only [Worker.outlook, state, next, Worker.comesTo_cons goes, ran]
  | givesUp state left stop =>
    simp only [Worker.outlook, state, Worker.comesTo_of_stops stop, Worker.comesTo_nil]
  | ends state none => simp only [Worker.outlook, state, none, Worker.comesTo_nil]

theorem stays_begun (step : Step lot pool worker after) (begun : worker.state ≠ .starting) :
    after.2.state ≠ .starting := by
  cases step with
  | idle rests => exact begun
  | begins state _ | failsToBegin state _ => exact absurd state begun
  | works state _ _ _ | givesUp state _ _ => simp [state]
  | crashes | ends => simp

/-- A worker that has not ended is nearer to its end after a step. -/
theorem lowers_due (step : Step lot pool worker after) (starts : lot.fate.starts = true) :
    after.2.due ≤ worker.due - 1 := by
  cases step with
  | idle rests =>
    rcases rests with ended | ⟨-, never⟩
    · simp [worker.hasEnded_iff_due.mp ended]
    · simp [starts] at never
  | begins state _ | works state next _ _ => simp_all [Worker.due]
  | failsToBegin | crashes | ends => simp [Worker.due]
  | givesUp state left _ =>
    have := List.length_pos_iff.mpr left
    simp only [Worker.due, state, List.length_nil]
    omega

end Step

/-! ## Going through a chunk -/

/-- A worker takes its next steps, as many as are asked for. -/
def stride (lot : Lot) : Nat → Pool → Worker → Pool × Worker
  | 0, pool, worker => (pool, worker)
  | count + 1, pool, worker =>
    let (pool, worker) := advance lot pool worker
    stride lot count pool worker

theorem stride_idle {lot : Lot} {pool : Pool} {worker : Worker}
    (idle : advance lot pool worker = (pool, worker)) (count : Nat) :
    stride lot count pool worker = (pool, worker) := by
  induction count with
  | zero => rfl
  | succ count ih => simp [stride, idle, ih]

theorem work_of_hasEnded {worker : Worker} (ended : worker.hasEnded = true) (pool : Pool) :
    work pool worker = (pool, worker) := by
  obtain ⟨paths, finished, remaining, state⟩ := worker
  cases state with
  | starting | running router => cases ended
  | ended | crashed message => rfl

theorem workMany_idle {pool : Pool} {worker : Worker} (idle : work pool worker = (pool, worker))
    (count : Nat) : workMany count pool worker = (pool, worker) := by
  induction count with
  | zero => rfl
  | succ count ih => simp [workMany, idle, ih]

theorem giveUp_nil {worker : Worker} (none : worker.remaining = []) (pool : Pool) :
    giveUp pool worker = (pool, worker) := by
  obtain ⟨paths, finished, remaining, state⟩ := worker
  cases none
  cases state <;> simp [giveUp, dequeue]

/-- The rest of what a worker does once it has a router: the tasks that it begins, and then it
gives up the others and ends. -/
def carryOn (fate : Fate) (pool : Pool) (worker : Worker) : Pool × Worker :=
  let begun := fate.begun worker.finished.length worker.remaining
  let (pool, worker) := workMany begun.length pool worker
  let (pool, worker) := giveUp pool worker
  finish pool worker

theorem carryOn_of_hasEnded {worker : Worker} (ended : worker.hasEnded = true) (fate : Fate)
    (pool : Pool) : carryOn fate pool worker = (pool, worker) := by
  simp only [carryOn, workMany_idle (work_of_hasEnded ended pool)]
  obtain ⟨paths, finished, remaining, state⟩ := worker
  cases state with
  | starting | running router => cases ended
  | ended | crashed message => rfl

/-- A worker with a router is headed for the same end after any of its steps. -/
theorem Step.carries_on {lot : Lot} {pool : Pool} {worker : Worker} {after : Pool × Worker}
    (step : Step lot pool worker after) (begun : worker.state ≠ .starting) :
    carryOn lot.fate after.1 after.2 = carryOn lot.fate pool worker := by
  obtain ⟨paths, finished, remaining, state⟩ := worker
  cases step with
  | idle rests => rfl
  | begins state built => exact absurd state begun
  | failsToBegin state crash => exact absurd state begun
  | works state next goes ran =>
    cases state
    cases next
    simp [carryOn, (Fate.begun_cons goes _ _).1, workMany, work, ran]
  | crashes state next goes ran =>
    cases state
    cases next
    rw [carryOn_of_hasEnded rfl]
    simp only [carryOn, (Fate.begun_cons goes _ _).1, List.length_cons, workMany, work, ran]
    rw [workMany_idle (work_of_hasEnded rfl _)]
    rfl
  | givesUp state left stop =>
    cases state
    simp [carryOn, (Fate.begun_of_stops stop _).1, workMany, giveUp, finish, dequeue, release,
      Task.cancelled]
  | ends state none =>
    cases state
    cases none
    rw [carryOn_of_hasEnded rfl]
    simp [carryOn, workMany, giveUp, finish, dequeue, release]

/-- As many steps as a worker has before it bring it to its end. -/
theorem stride_eq_carryOn {lot : Lot} (starts : lot.fate.starts = true) {count : Nat}
    {worker : Worker} (begun : worker.state ≠ .starting) (enough : worker.due ≤ count)
    (pool : Pool) : stride lot count pool worker = carryOn lot.fate pool worker := by
  induction count generalizing pool worker with
  | zero =>
    rw [carryOn_of_hasEnded (worker.hasEnded_iff_due.mpr (Nat.le_zero.mp enough))]
    rfl
  | succ count ih =>
    have step := advance_step lot pool worker
    rw [← step.carries_on begun]
    have nearer := step.lowers_due starts
    exact ih (step.stays_begun begun) (by omega) _

/-- No more tasks are done than there are. -/
theorem workMany_min (count : Nat) (pool : Pool) (worker : Worker) :
    workMany (min count worker.remaining.length) pool worker = workMany count pool worker := by
  induction count generalizing pool worker with
  | zero => simp
  | succ count ih =>
    obtain ⟨paths, finished, remaining, state⟩ := worker
    cases state with
    | starting | ended | crashed message => rw [workMany_idle rfl, workMany_idle rfl]
    | running router =>
      cases remaining with
      | nil => rw [workMany_idle rfl, workMany_idle rfl]
      | cons task rest =>
        rw [List.length_cons, Nat.add_min_add_right]
        simp only [workMany, work]
        cases task.run router with
        | done result => exact ih (pool.dequeue 1) ⟨paths, finished ++ [result], rest, _⟩
        | crash message => rw [workMany_idle rfl, workMany_idle rfl]

/-- A worker that goes on to its last task has none left to give up. -/
theorem giveUp_workMany {pool : Pool} {worker : Worker} {after : Pool × Worker}
    (all : workMany worker.remaining.length pool worker = after) :
    giveUp after.1 after.2 = after := by
  obtain ⟨paths, finished, remaining, state⟩ := worker
  induction remaining generalizing pool finished with
  | nil =>
    rw [← all]
    exact giveUp_nil rfl pool
  | cons task rest ih =>
    cases state with
    | starting | ended | crashed message =>
      rw [workMany_idle rfl] at all
      rw [← all]
      rfl
    | running router =>
      simp only [List.length_cons, workMany, work] at all
      cases ran : task.run router with
      | done result => exact ih (finished ++ [result]) (by simpa [ran] using all)
      | crash message =>
        rw [ran, workMany_idle rfl] at all
        rw [← all]
        rfl

theorem complete_eq_carryOn {fate : Fate} (starts : fate.starts = true)
    (factory : RouterFactory) (pool : Pool) (chunk : List Task) :
    complete factory pool (.new chunk) fate =
      carryOn fate (begin factory pool (.new chunk)).1 (begin factory pool (.new chunk)).2 := by
  have fresh : (begin factory pool (.new chunk)).2.finished = [] := by
    simp only [begin, Worker.new]
    cases factory pool.routersBuilt <;> rfl
  cases fate with
  | notStarted reason => cases starts
  | undisturbed | lost =>
    simp only [complete, carryOn, Fate.begun]
    rw [giveUp_workMany rfl]
  | cancelled before | timedOut before =>
    simp only [complete, carryOn, Fate.begun, List.length_take, fresh, List.length_nil,
      Nat.sub_zero, workMany_min]

/-- A worker that goes through its chunk takes nothing but steps. -/
theorem stride_eq_complete (factory : RouterFactory) (pool : Pool) (chunk : List Task)
    (fate : Fate) :
    stride ⟨factory pool.routersBuilt, fate⟩ (chunk.length + 2) pool (.new chunk) =
      complete factory pool (.new chunk) fate := by
  cases starts : fate.starts with
  | false =>
    cases fate with
    | notStarted reason => exact stride_idle rfl _
    | undisturbed | lost | cancelled before | timedOut before => cases starts
  | true =>
    have first : advance ⟨factory pool.routersBuilt, fate⟩ pool (.new chunk) =
        begin factory pool (.new chunk) := by
      simp [advance, Worker.new, starts, begin]
    have begun : (begin factory pool (.new chunk)).2.state ≠ .starting ∧
        (begin factory pool (.new chunk)).2.due ≤ chunk.length + 1 := by
      simp only [begin, Worker.new]
      cases factory pool.routersBuilt <;> simp [Worker.due]
    rw [complete_eq_carryOn starts, stride, first]
    exact stride_eq_carryOn starts begun.1 begun.2 _

theorem stride_due (lot : Lot) (starts : lot.fate.starts = true) (count : Nat) (pool : Pool)
    (worker : Worker) : (stride lot count pool worker).2.due ≤ worker.due - count := by
  induction count generalizing pool worker with
  | zero => exact Nat.le_refl worker.due
  | succ count ih =>
    have nearer := (advance_step lot pool worker).lowers_due starts
    have later := ih (advance lot pool worker).1 (advance lot pool worker).2
    calc (stride lot (count + 1) pool worker).2.due
        ≤ (advance lot pool worker).2.due - count := later
      _ ≤ worker.due - (count + 1) := by omega

/-- A worker that goes through its chunk comes to its end. -/
theorem complete_hasEnded {fate : Fate} (starts : fate.starts = true) (factory : RouterFactory)
    (pool : Pool) (chunk : List Task) :
    (complete factory pool (.new chunk) fate).2.hasEnded = true := by
  have due := stride_due ⟨factory pool.routersBuilt, fate⟩ starts (chunk.length + 2) pool
    (.new chunk)
  rw [Worker.hasEnded_iff_due, ← stride_eq_complete]
  simpa [Worker.due, Worker.new] using due

end Pool

end SourceFacts

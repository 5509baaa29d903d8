import SourceFacts.Proofs.EditBetween
import SourceFacts.Proofs.Ledger

/-! Reading by the ledger. What is kept for a path decides the route of a read and the call
that its parser has; the outcome is what the parser makes of that call, and the ledger after
it is the one before with this read written down. From one turn this carries over to every
run. -/
namespace SourceFacts
open Recency

namespace Coordinator

variable {τ : Type} {digestOf : String → Digest} {options : CoordinatorOptions}
  {coordinator : Coordinator τ} {ledger : Ledger τ} {path content : String} {kept : Kept τ}

/-- What is kept for a path, where contents are kept at all. -/
def remembered? (options : CoordinatorOptions) (ledger : Ledger τ) (path : String) :
    Option (Kept τ) :=
  if options.cacheContent then ledger.kept? path else none

/-- What to do with a content by what is kept for its path. -/
def chosen (digestOf : String → Digest) (kept? : Option (Kept τ)) (content : String) : Strategy :=
  match kept? with
  | none => .full
  | some kept =>
    if (digestOf content).isCurrent ∧ digestOf kept.content = digestOf content then .cached
    else
      match Edit.between kept.content content with
      | some edit => .incremental edit
      | none => .full

/-- The way to read a content by what is kept for its path, and the call that it takes. -/
def plan (digestOf : String → Digest) (kept? : Option (Kept τ)) (content : String) :
    Route × Call τ :=
  match kept? with
  | none => (.full, .full)
  | some kept =>
    if (digestOf content).isCurrent ∧ digestOf kept.content = digestOf content then
      (.cached, .full)
    else
      match Edit.between kept.content content with
      | some edit => (.incremental, .incremental kept.tree (edit.locate kept.content content))
      | none => (.full, .full)

/-- The way to read a content whose edit is known. -/
def planWithEdit (kept? : Option (Kept τ)) (content : String) (edit : Edit) : Route × Call τ :=
  match kept? with
  | some kept =>
    if edit.transforms kept.content content then
      (.incremental, .incremental kept.tree (edit.locate kept.content content))
    else (.full, .full)
  | none => (.full, .full)

theorem remembered?_eq_some :
    remembered? options ledger path = some kept ↔
      options.cacheContent = true ∧ ledger.kept? path = some kept := by
  unfold remembered?
  split <;> simp [*]

theorem mem_of_remembered? (found : remembered? options ledger path = some kept) :
    (path, kept) ∈ ledger.lines := by
  obtain ⟨front, back, shape, -⟩ :=
    List.lookup_eq_some_iff.mp (remembered?_eq_some.mp found).2
  simp [shape]

/-- The strategy looks at the digest of an entry, at whether there is one, and at the kept
content; by the ledger these are one and the same. -/
theorem strategy_eq (agrees : Agrees digestOf options coordinator ledger)
    (path content : String) :
    coordinator.strategy path content (digestOf content) =
      chosen digestOf (remembered? options ledger path) content := by
  have entry := agrees.entry?_eq path
  have looked := agrees.content?_eq path
  have present := agrees.has_eq path
  unfold strategy
  rw [agrees.configured]
  cases on : options.cacheContent with
  | false => simp [chosen, remembered?, on]
  | true =>
    rw [on] at looked
    cases found : ledger.kept? path with
    | none =>
      rw [found] at entry present
      simp [chosen, remembered?, found, TreeCache.isValid, entry, present]
    | some kept =>
      rw [found] at entry looked present
      rw [remembered?_eq_some.mpr ⟨on, found⟩]
      have valid : coordinator.trees.isValid path (digestOf content) = true ↔
          (digestOf content).isCurrent ∧ digestOf kept.content = digestOf content := by
        simp [TreeCache.isValid, entry, Kept.entry]
      by_cases cached : (digestOf content).isCurrent ∧ digestOf kept.content = digestOf content
      · simp only [chosen, if_pos cached, if_pos (valid.mpr cached)]
        rfl
      · simp only [chosen, if_neg cached, if_neg (mt valid.mp cached), present, looked]
        rfl

theorem isConsistent_eq (agrees : Agrees digestOf options coordinator ledger)
    (path content : String) (edit : Edit) :
    coordinator.isConsistent path content edit =
      (remembered? options ledger path).any fun kept =>
        edit.transforms kept.content content := by
  unfold isConsistent remembered?
  rw [agrees.has_eq, agrees.content?_eq]
  cases options.cacheContent with
  | false => simp
  | true => cases ledger.kept? path <;> simp

/-- A call that hands out a tree hands out the one that is kept, with the place of an edit that
leads from the kept content to the new one. -/
def Traces (kept? : Option (Kept τ)) (content : String) : Call τ → Prop
  | .full => True
  | .incremental previous span => ∃ (kept : Kept τ) (edit : Edit), kept? = some kept ∧
      edit.transforms kept.content content = true ∧ previous = kept.tree ∧
      span = edit.locate kept.content content

theorem plan_traces (digestOf : String → Digest) (kept? : Option (Kept τ)) (content : String) :
    Traces kept? content (plan digestOf kept? content).2 := by
  unfold plan
  cases kept? with
  | none => exact trivial
  | some kept =>
    by_cases cached : (digestOf content).isCurrent ∧ digestOf kept.content = digestOf content
    · simp only [if_pos cached]
      exact trivial
    · simp only [if_neg cached]
      cases found : Edit.between kept.content content with
      | none => exact trivial
      | some edit => exact ⟨kept, edit, rfl, Edit.between_transforms found, rfl, rfl⟩

theorem planWithEdit_traces (kept? : Option (Kept τ)) (content : String) (edit : Edit) :
    Traces kept? content (planWithEdit kept? content edit).2 := by
  unfold planWithEdit
  cases kept? with
  | none => exact trivial
  | some kept =>
    by_cases leads : edit.transforms kept.content content = true
    · simp only [if_pos leads]
      exact ⟨kept, edit, rfl, leads, rfl, rfl⟩
    · simp only [if_neg leads]
      exact trivial

/-- A read was done this way: its outcome is what the parser made of the call, it was counted if
it succeeded, and it was written down. -/
structure Carries (digestOf : String → Digest) (options : CoordinatorOptions)
    (coordinator : Coordinator τ) (ledger : Ledger τ) (parser : Parser τ) (path content : String)
    (plan : Route × Call τ) (answered : Answered τ) : Prop where
  outcome : answered.outcome =
    (plan.2.ask parser path content).map fun parsed => ⟨parsed.facts, plan.1⟩
  call : answered.call = plan.2
  counts : ∀ route, answered.state.parses route =
    coordinator.parses route + if answered.outcome.isOk && route = plan.1 then 1 else 0
  agrees : Agrees digestOf options answered.state
    (ledger.write (max 1 options.maxTrees)
      (.ofRead parser path content answered.outcome answered.call))

variable {parser : Parser τ} {taken : Coordinator τ} {lines : List (String × Kept τ)}
  {route : Route} {call : Call τ}

/-- A read succeeds only if its parser does, with the facts that it gave. -/
theorem Carries.answered_ok {plan : Route × Call τ} {answered : Answered τ} {read : Outcome}
    (carries : Carries digestOf options coordinator ledger parser path content plan answered)
    (succeeded : answered.outcome = .ok read) :
    ∃ parsed, plan.2.ask parser path content = .ok parsed ∧ read = ⟨parsed.facts, plan.1⟩ := by
  rw [carries.outcome] at succeeded
  cases answer : plan.2.ask parser path content with
  | error error =>
    rw [answer] at succeeded
    cases succeeded
  | ok parsed =>
    rw [answer] at succeeded
    cases succeeded
    exact ⟨parsed, rfl, rfl⟩

/-- A parser that fails leaves nothing of its path, whatever was taken out for it before. -/
theorem failure_carries {error : Error}
    (agrees : Agrees digestOf options taken { ledger with lines })
    (elsewhere : others path lines = others path ledger.lines)
    (uncounted : taken.parses = coordinator.parses)
    (answer : call.ask parser path content = .error error) :
    Carries digestOf options coordinator ledger parser path content (route, call)
      ⟨.error error, call, taken.invalidateOne path⟩ where
  outcome := by simp [answer, Except.map]
  call := rfl
  counts := by
    intro route
    rw [← uncounted]
    cases route <;> simp [parses, invalidateOne, Except.isOk, Except.toBool]
  agrees := by
    have forgotten := invalidateOne_agrees agrees path
    rw [elsewhere] at forgotten
    exact forgotten

/-- What a parser gives for a content that was not cached takes the place of all that was kept
for its path. -/
theorem success_carries {parsed : Parsed τ} {state : Coordinator τ}
    (agrees : Agrees digestOf options taken { ledger with lines })
    (elsewhere : others path lines = others path ledger.lines)
    (answer : call.ask parser path content = .ok parsed) (fresh : route ≠ .cached)
    (counts : ∀ other, state.parses other =
      coordinator.parses other + if other = route then 1 else 0)
    (configured : state.options = taken.options) (disposed : state.disposed = taken.disposed)
    (trees : state.trees = (taken.store path content parsed.tree (digestOf content)).trees)
    (contents : state.contents =
      (taken.store path content parsed.tree (digestOf content)).contents) :
    Carries digestOf options coordinator ledger parser path content (route, call)
      ⟨.ok ⟨parsed.facts, route⟩, call, state⟩ where
  outcome := by simp [answer, Except.map]
  call := rfl
  counts := by
    intro other
    simpa [Except.isOk, Except.toBool] using counts other
  agrees := by
    have written := (store_agrees agrees path content parsed.tree).of_same
      configured trees contents disposed
    simp only [Ledger.write, place, elsewhere] at written
    rw [Event.ofRead_fresh answer fresh]
    exact written

theorem runFull_carries (agrees : Agrees digestOf options coordinator ledger)
    (parser : Parser τ) (path content : String) :
    Carries digestOf options coordinator ledger parser path content (.full, .full)
      (coordinator.runFull parser path content (digestOf content)) := by
  unfold runFull
  cases answer : parser.parse content path with
  | error error => exact failure_carries agrees rfl rfl answer
  | ok parsed =>
    refine success_carries agrees rfl answer (by simp) ?_ rfl rfl rfl rfl
    intro other
    cases other <;> simp [parses, store]

theorem runCached_carries (agrees : Agrees digestOf options coordinator ledger)
    (found : ledger.kept? path = some kept) (parser : Parser τ) (content : String) :
    Carries digestOf options coordinator ledger parser path content (.cached, .full)
      (coordinator.runCached parser path content) := by
  unfold runCached
  cases answer : parser.parse content path with
  | error error => exact failure_carries agrees rfl rfl answer
  | ok parsed =>
    refine ⟨by simp [Call.ask, answer, Except.map], rfl, ?_, ?_⟩
    · intro other
      cases other <;> simp [parses, Except.isOk, Except.toBool]
    · simp only [Event.ofRead, Ledger.write, found]
      exact (markUsed_agrees agrees found).of_same rfl rfl rfl rfl

theorem runIncremental_carries (agrees : Agrees digestOf options coordinator ledger)
    (on : options.cacheContent = true) (found : ledger.kept? path = some kept)
    (parser : Parser τ) (content : String) (edit : Edit) :
    Carries digestOf options coordinator ledger parser path content
      (.incremental, .incremental kept.tree (edit.locate kept.content content))
      (coordinator.runIncremental parser path content (digestOf content) edit) := by
  have old : (coordinator.content? path).getD "" = kept.content := by
    simp [agrees.content?_eq, on, found]
  obtain ⟨previous, lines, elsewhere, taken⟩ := takeTree_agrees agrees found
  unfold runIncremental
  simp only [old, previous]
  cases answer : parser.reparse content path kept.tree (edit.locate kept.content content) with
  | error error => exact failure_carries taken elsewhere rfl answer
  | ok parsed =>
    refine success_carries taken elsewhere answer (by simp) ?_ rfl rfl rfl rfl
    intro other
    cases other <;> simp [parses, store]

theorem parse_carries (agrees : Agrees digestOf options coordinator ledger)
    (parser : Parser τ) (path content : String) :
    Carries digestOf options coordinator ledger parser path content
      (plan digestOf (remembered? options ledger path) content)
      (coordinator.parse digestOf parser path content) := by
  simp only [Coordinator.parse, strategy_eq agrees]
  cases found : remembered? options ledger path with
  | none => exact runFull_carries agrees parser path content
  | some kept =>
    obtain ⟨on, held⟩ := remembered?_eq_some.mp found
    by_cases cached : (digestOf content).isCurrent ∧ digestOf kept.content = digestOf content
    · simp only [chosen, plan, if_pos cached]
      exact runCached_carries agrees held parser content
    · simp only [chosen, plan, if_neg cached]
      cases Edit.between kept.content content with
      | none => exact runFull_carries agrees parser path content
      | some edit => exact runIncremental_carries agrees on held parser content edit

theorem parseWithEdit_carries (agrees : Agrees digestOf options coordinator ledger)
    (parser : Parser τ) (path content : String) (edit : Edit) :
    Carries digestOf options coordinator ledger parser path content
      (planWithEdit (remembered? options ledger path) content edit)
      (coordinator.parseWithEdit digestOf parser path content edit) := by
  simp only [Coordinator.parseWithEdit, isConsistent_eq agrees]
  cases found : remembered? options ledger path with
  | none => exact runFull_carries agrees parser path content
  | some kept =>
    obtain ⟨on, held⟩ := remembered?_eq_some.mp found
    simp only [Option.any_some, planWithEdit]
    split
    · exact runIncremental_carries agrees on held parser content edit
    · exact runFull_carries agrees parser path content

/-! ## Turns and runs -/

/-- The path and content that a request reads. -/
def Request.target? : Request → Option (String × String)
  | .parse path content => some (path, content)
  | .parseWithEdit path content _ => some (path, content)
  | _ => none

/-- A turn that reads is carried out by a call that traces to what is kept. -/
theorem take_reads (agrees : Agrees digestOf options coordinator ledger) (turn : Turn τ)
    (target : turn.request.target? = some (path, content)) :
    ∃ plan answered,
      Carries digestOf options coordinator ledger (turn.parserFor path) path content
        plan answered ∧
      Traces (remembered? options ledger path) content plan.2 ∧
      coordinator.take digestOf turn =
        (.read answered.outcome answered.call, answered.state) ∧
      turn.event (coordinator.take digestOf turn).1 =
        .ofRead (turn.parserFor path) path content answered.outcome answered.call := by
  obtain ⟨parserFor, request⟩ := turn
  cases request with
  | parse other text =>
    cases target
    exact ⟨_, _, parse_carries agrees (parserFor path) path content,
      plan_traces digestOf _ content, rfl, rfl⟩
  | parseWithEdit other text edit =>
    cases target
    exact ⟨_, _, parseWithEdit_carries agrees (parserFor path) path content edit,
      planWithEdit_traces _ content edit, rfl, rfl⟩
  | _ => cases target

/-- Every turn writes exactly what happened in it. -/
theorem take_agrees (agrees : Agrees digestOf options coordinator ledger) (turn : Turn τ) :
    Agrees digestOf options (coordinator.take digestOf turn).2
      (ledger.write (max 1 options.maxTrees)
        (turn.event (coordinator.take digestOf turn).1)) := by
  obtain ⟨parserFor, request⟩ := turn
  cases request with
  | parse path content => exact (parse_carries agrees (parserFor path) path content).agrees
  | parseWithEdit path content edit =>
    exact (parseWithEdit_carries agrees (parserFor path) path content edit).agrees
  | invalidate paths => exact invalidate_agrees agrees paths
  | invalidateWhere matching => exact invalidateWhere_agrees agrees matching
  | invalidateMatching compile pattern =>
    simp only [take, step, invalidateMatching, Turn.event]
    cases compile pattern with
    | error text => exact agrees
    | ok matching => exact invalidateWhere_agrees agrees matching
  | resetStats =>
    exact ⟨agrees.configured, agrees.holds.of_same rfl rfl, agrees.contents, agrees.capacity,
      agrees.bounded, agrees.disposed⟩
  | clear => exact clear_agrees agrees
  | dispose => exact dispose_agrees agrees

/-- The ledger of a run. -/
def ledgerAfter (digestOf : String → Digest) (options : CoordinatorOptions)
    (past : List (Turn τ)) : Ledger τ :=
  .ofHistory (max 1 options.maxTrees) (history digestOf options past)

/-- After every run the caches are those of its history. -/
theorem after_agrees (digestOf : String → Digest) (options : CoordinatorOptions)
    (past : List (Turn τ)) :
    Agrees digestOf options (after digestOf options past) (ledgerAfter digestOf options past) := by
  induction past with
  | nil => exact new_agrees digestOf options
  | cons turn past ih => exact take_agrees ih turn

/-- A read is kept only if its parser succeeded, with its content and the tree that it gave. -/
theorem Carries.read_kept {plan : Route × Call τ} {answered : Answered τ} {other : String}
    (carries : Carries digestOf options coordinator ledger parser path content plan answered)
    (event : Event.ofRead parser path content answered.outcome answered.call =
      .kept other kept) :
    other = path ∧ kept.content = content ∧
      ∃ parsed, plan.2.ask parser path content = .ok parsed ∧ kept.tree = parsed.tree := by
  rw [carries.outcome, carries.call] at event
  cases answer : plan.2.ask parser path content with
  | error error =>
    rw [answer] at event
    cases event
  | ok parsed =>
    rw [answer] at event
    simp only [Except.map, Event.ofRead, answer, Except.toOption, Option.bind_some] at event
    split at event
    · cases event
    · cases event
      exact ⟨rfl, rfl, parsed, rfl, rfl⟩

theorem kept_by_turn (agrees : Agrees digestOf options coordinator ledger) {turn : Turn τ}
    (event : turn.event (coordinator.take digestOf turn).1 = .kept path kept) :
    ∃ call parsed, Traces (remembered? options ledger path) kept.content call ∧
      call.ask (turn.parserFor path) path kept.content = .ok parsed ∧
      kept.tree = parsed.tree := by
  cases target : turn.request.target? with
  | none =>
    obtain ⟨parserFor, request⟩ := turn
    cases request with
    | parse path content => cases target
    | parseWithEdit path content edit => cases target
    | invalidateMatching compile pattern =>
      simp only [Turn.event] at event
      split at event <;> cases event
    | _ => cases event
  | some read =>
    obtain ⟨readPath, readContent⟩ := read
    obtain ⟨plan, answered, carries, traces, -, same⟩ := take_reads agrees turn target
    rw [same] at event
    obtain ⟨rfl, rfl, parsed, answer, tree⟩ := carries.read_kept event
    exact ⟨plan.2, parsed, traces, answer, tree⟩

/-- What every read keeps, as long as all that is kept already is so, every line of a run has. -/
theorem lines_after (holds : String → Kept τ → Prop) (digestOf : String → Digest)
    (options : CoordinatorOptions) (past : List (Turn τ))
    (fresh : ∀ turn ∈ past, ∀ (ledger : Ledger τ) path content call parsed,
      (∀ line ∈ ledger.lines, holds line.1 line.2) →
      Traces (remembered? options ledger path) content call →
      call.ask (turn.parserFor path) path content = .ok parsed →
      holds path ⟨content, parsed.tree⟩) :
    ∀ line ∈ (ledgerAfter digestOf options past).lines, holds line.1 line.2 := by
  induction past with
  | nil => simp [ledgerAfter, history, Ledger.ofHistory, Ledger.blank]
  | cons turn past ih =>
    have held := ih fun turn member => fresh turn (List.mem_cons_of_mem _ member)
    refine Ledger.write_lines held fun path kept event => ?_
    obtain ⟨call, parsed, traces, answer, tree⟩ :=
      kept_by_turn (after_agrees digestOf options past) event
    have new := fresh turn List.mem_cons_self _ path kept.content call parsed held traces answer
    rw [← tree] at new
    exact new

end Coordinator

end SourceFacts

import SourceFacts.Proofs.FailedRead

/-! What a coordinator counts is what its callers saw of it. Its counts live in two places and
change at different moments of a read: before the parser is called, after it succeeded, or in the
cache when something is stored. Each response says by how much every one of them has grown, and
whatever has been stored is still there, was evicted or was taken away. -/
namespace SourceFacts
open Recency

/-- What a coordinator counts. -/
@[ext] structure Counts where
  full : Nat := 0
  incremental : Nat := 0
  cached : Nat := 0
  hits : Nat := 0
  misses : Nat := 0
  evictions : Nat := 0

/-- Both counts together. -/
def Counts.add (counts more : Counts) : Counts where
  full := counts.full + more.full
  incremental := counts.incremental + more.incremental
  cached := counts.cached + more.cached
  hits := counts.hits + more.hits
  misses := counts.misses + more.misses
  evictions := counts.evictions + more.evictions

variable {τ : Type}

/-- What a coordinator has counted so far. -/
def Coordinator.counts (coordinator : Coordinator τ) : Counts where
  full := coordinator.fullParses
  incremental := coordinator.incrementalParses
  cached := coordinator.cachedParses
  hits := coordinator.trees.hits
  misses := coordinator.trees.misses
  evictions := coordinator.trees.evictions

namespace Event

/-- The path that the event stores, if it had no entry. -/
def added (cached : String → Bool) : Event τ → Option String
  | .kept path _ => if cached path then none else some path
  | _ => none

/-- Whether the event takes a path away by itself. An eviction is not meant. -/
def removes (path : String) : Event τ → Bool
  | .failed other => other = path
  | .forgotten matching => matching path
  | _ => false

end Event

namespace Ledger

variable {ledger : Ledger τ} {event : Event τ}

/-- How many lines give way when an event is written down. -/
def overflow (capacity : Nat) (ledger : Ledger τ) : Event τ → Nat
  | .kept path kept => (place path kept ledger.lines).length - capacity
  | _ => 0

/-- The lines after an event, those that gave way and those that it took away are the lines
before it, and one more if the event stored a new path. -/
theorem write_length (distinct : Distinct ledger.lines) (uncleared : event ≠ .cleared)
    (undisposed : event ≠ .disposed) (capacity : Nat) :
    (ledger.write capacity event).lines.length + ledger.overflow capacity event
        + ((ledger.lines.map Prod.fst).filter (event.removes ·)).length =
      ledger.lines.length + (event.added fun path => (ledger.kept? path).isSome).toList.length := by
  have split (gone : String → Bool) :
      (ledger.lines.filter fun line => !gone line.1).length
          + ((ledger.lines.map Prod.fst).filter gone).length = ledger.lines.length := by
    have parts := List.length_eq_length_filter_add (l := ledger.lines) fun line => gone line.1
    simp only [List.filter_map, List.length_map, Function.comp_def]
    omega
  cases event with
  | kept path kept =>
    have fits : (trim capacity (place path kept ledger.lines)).length
        + ((place path kept ledger.lines).length - capacity) =
          (place path kept ledger.lines).length := by
      simp only [trim, List.length_drop]
      omega
    have still : ((ledger.lines.map Prod.fst).filter (Event.removes · (.kept path kept))) = [] := by
      simp [Event.removes]
    simp only [write, overflow, fits, still, List.length_nil, Nat.add_zero, Event.added]
    rcases Option.eq_none_or_eq_some (ledger.kept? path) with absent | ⟨old, found⟩
    · simpa [absent] using length_place_of_absent absent
    · simpa [found] using length_place_of_present distinct found kept
  | reused path =>
    simp only [write]
    cases found : ledger.kept? path with
    | some kept =>
      simpa [overflow, Event.removes, Event.added] using length_place_of_present distinct found kept
    | none => simp [overflow, Event.removes, Event.added]
  | failed path =>
    have parts := split fun other => decide (path = other)
    have same : (others path ledger.lines).length =
        (ledger.lines.filter fun line => !decide (path = line.1)).length := by
      simp [others, eq_comm]
    simp only [write, overflow, Event.removes, Event.added, Option.toList_none, List.length_nil]
    omega
  | forgotten matching => simpa [write, overflow, Event.removes, Event.added] using split matching
  | cleared => exact absurd rfl uncleared
  | disposed => exact absurd rfl undisposed
  | untouched => simp [write, overflow, Event.removes, Event.added]

/-- Only a disposal disposes. -/
theorem disposed_write (undisposed : event ≠ .disposed) (capacity : Nat) :
    (ledger.write capacity event).disposed = ledger.disposed := by
  cases event with
  | reused path =>
    simp only [write]
    split <;> rfl
  | disposed => exact absurd rfl undisposed
  | _ => rfl

end Ledger

/-! ## What one turn counts -/

namespace TreeCache

/-- Taking a tree is counted as one use, which found the tree or did not. -/
theorem takeTree_counts (cache : TreeCache τ) (path : String) (span : EditSpan) :
    let call := Call.incremental (cache.takeTree path).1 span
    (cache.takeTree path).2.hits = cache.hits + call.hits ∧
      (cache.takeTree path).2.misses = cache.misses + call.misses ∧
      (cache.takeTree path).2.evictions = cache.evictions := by
  unfold takeTree
  cases cache.tree? path with
  | some tree => exact ⟨rfl, hit_misses, hit_evictions⟩
  | none => exact ⟨rfl, rfl, rfl⟩

end TreeCache

namespace Coordinator

namespace Response

/-- Whether a success was returned that carries these marks: that something kept was of use, and
that the content was the one kept. -/
def returned (wasIncremental wasCached : Bool) : Response τ → Bool
  | .read (.ok outcome) _ =>
    outcome.route.wasIncremental = wasIncremental && outcome.route.wasCached = wasCached
  | _ => false

/-- Whether the parser was asked to read an edit, with success or not. -/
def reparsed : Response τ → Bool
  | .read _ (.incremental _ _) => true
  | _ => false

/-- Whether the parser was asked to read an edit without a tree of the text before it. -/
def reparsedTreeless : Response τ → Bool
  | .read _ (.incremental .none _) => true
  | _ => false

/-- The uses of the cache behind a response that found what they wanted. -/
def hits : Response τ → Nat
  | .read (.ok outcome) call => call.hits + if outcome.route = .cached then 1 else 0
  | .read (.error _) call => call.hits
  | _ => 0

/-- The uses of the cache behind a response that found nothing. -/
def misses : Response τ → Nat
  | .read _ call => call.misses
  | _ => 0

theorem misses_eq (response : Response τ) :
    response.misses = if response.reparsedTreeless then 1 else 0 := by
  rcases response with _ | ⟨outcome, _ | ⟨_ | tree, span⟩⟩ | value | error <;> rfl

theorem hits_add_misses (response : Response τ) :
    response.hits + response.misses =
      (if response.returned true true then 1 else 0) + if response.reparsed then 1 else 0 := by
  rcases response with _ | ⟨error | ⟨facts, route⟩, call⟩ | value | error
  · rfl
  · rcases call with _ | ⟨_ | tree, span⟩ <;> rfl
  · rcases call with _ | ⟨_ | tree, span⟩ <;> cases route <;> rfl
  · rfl
  · rfl

/-- By how much a response says that the counts have grown, apart from evictions. -/
def gain (response : Response τ) (evictions : Nat) : Counts where
  full := if response.returned false false then 1 else 0
  incremental := if response.returned true false then 1 else 0
  cached := if response.returned true true then 1 else 0
  hits := response.hits
  misses := response.misses
  evictions := evictions

end Response

variable {digestOf : String → Digest} {options : CoordinatorOptions} {coordinator : Coordinator τ}
  {ledger : Ledger τ} {parser : Parser τ} {path content : String} {kept : Kept τ}

/-- The counts have grown by what a response says, and by the lines that gave way. -/
def Tallies (options : CoordinatorOptions) (before : Coordinator τ) (ledger : Ledger τ)
    (event : Event τ) (response : Response τ) (later : Coordinator τ) : Prop :=
  later.counts =
    before.counts.add (response.gain (ledger.overflow (max 1 options.maxTrees) event))

/-- The counts have grown by what a read says. -/
abbrev ReadTallies (options : CoordinatorOptions) (before : Coordinator τ) (ledger : Ledger τ)
    (parser : Parser τ) (path content : String) (answered : Answered τ) : Prop :=
  Tallies options before ledger (.ofRead parser path content answered.outcome answered.call)
    (.read answered.outcome answered.call) answered.state

theorem FailsCleanly.tallies {answered : Answered τ} {error : Error}
    (fails : FailsCleanly coordinator path answered) (failed : answered.outcome = .error error) :
    ReadTallies options coordinator ledger parser path content answered := by
  obtain ⟨outcome, call, state⟩ := answered
  cases failed
  rw [show state = (coordinator.without path).counting call from fails error rfl]
  rfl

/-- Storing what was read counts the lines that give way to it, and nothing else. -/
theorem store_counts (agrees : Agrees digestOf options coordinator ledger) (path : String)
    (kept : Kept τ) :
    let stored := coordinator.store path kept.content kept.tree (digestOf kept.content)
    stored.trees.hits = coordinator.trees.hits ∧ stored.trees.misses = coordinator.trees.misses ∧
      stored.trees.evictions = coordinator.trees.evictions
        + ledger.overflow (max 1 options.maxTrees) (.kept path kept) := by
  have bounded : (mapValues (Kept.entry digestOf) ledger.lines).length ≤
      coordinator.trees.capacity := by
    rw [agrees.capacity]
    simpa [mapValues] using agrees.bounded
  obtain ⟨evictions, hits, misses⟩ := TreeCache.set_counts agrees.holds bounded path kept.tree
    (digestOf kept.content)
  refine ⟨hits, misses, ?_⟩
  have same : (place path (⟨kept.tree, digestOf kept.content⟩ : CacheEntry τ)
      (mapValues (Kept.entry digestOf) ledger.lines)).length =
        (place path kept ledger.lines).length := by
    have mapped := mapValues_place (Kept.entry digestOf) path kept ledger.lines
    rw [show (⟨kept.tree, digestOf kept.content⟩ : CacheEntry τ) = kept.entry digestOf from rfl,
      ← mapped]
    simp [mapValues]
  rw [same, agrees.capacity] at evictions
  exact evictions

theorem runFull_tallies (agrees : Agrees digestOf options coordinator ledger) (parser : Parser τ)
    (path content : String) :
    ReadTallies options coordinator ledger parser path content
      (coordinator.runFull parser path content (digestOf content)) := by
  have fails := runFull_failsCleanly agrees.holds parser path content (digestOf content)
  cases answer : parser.parse content path with
  | error error =>
    have failed : (coordinator.runFull parser path content (digestOf content)).outcome =
        .error error := by simp only [runFull, answer]
    exact fails.tallies failed
  | ok parsed =>
    obtain ⟨hits, misses, evictions⟩ := store_counts agrees path ⟨content, parsed.tree⟩
    have asked : Call.full.ask parser path content = .ok parsed := answer
    have fresh : Route.full ≠ .cached := by simp
    simp only [runFull, answer, ReadTallies, Event.ofRead_fresh asked fresh]
    exact Counts.ext rfl rfl rfl hits misses evictions

theorem runCached_tallies (agrees : Agrees digestOf options coordinator ledger)
    (found : ledger.kept? path = some kept) (parser : Parser τ) (content : String) :
    ReadTallies options coordinator ledger parser path content
      (coordinator.runCached parser path content) := by
  have fails := runCached_failsCleanly agrees.holds parser path content
  have present : coordinator.trees.has path = true := by simp [agrees.has_eq, found]
  cases answer : parser.parse content path with
  | error error =>
    have failed : (coordinator.runCached parser path content).outcome = .error error := by
      simp only [runCached, answer]
    exact fails.tallies failed
  | ok parsed =>
    simp only [runCached, answer, TreeCache.markUsed, if_pos present]
    exact Counts.ext rfl rfl rfl rfl TreeCache.hit_misses TreeCache.hit_evictions

theorem runIncremental_tallies (agrees : Agrees digestOf options coordinator ledger)
    (found : ledger.kept? path = some kept) (parser : Parser τ) (content : String) (edit : Edit) :
    ReadTallies options coordinator ledger parser path content
      (coordinator.runIncremental parser path content (digestOf content) edit) := by
  have fails := runIncremental_failsCleanly agrees.holds parser path content (digestOf content) edit
  let span := edit.locate ((coordinator.content? path).getD "") content
  cases answer : parser.reparse content path (coordinator.trees.takeTree path).1 span with
  | error error =>
    have failed : (coordinator.runIncremental parser path content (digestOf content)
        edit).outcome = .error error := by simp only [runIncremental, span, answer]
    exact fails.tallies failed
  | ok parsed =>
    obtain ⟨hits, misses, evictions⟩ := TreeCache.takeTree_counts coordinator.trees path span
    obtain ⟨-, lines, elsewhere, taken⟩ := takeTree_agrees agrees found
    obtain ⟨hitsKept, missesKept, evicted⟩ := store_counts taken path ⟨content, parsed.tree⟩
    have asked : (Call.incremental (coordinator.trees.takeTree path).1 span).ask parser path
        content = .ok parsed := answer
    have fresh : Route.incremental ≠ .cached := by simp
    simp only [Ledger.overflow, place, elsewhere, evictions] at evicted
    simp only [runIncremental, answer, span, ReadTallies, Event.ofRead_fresh asked fresh]
    exact Counts.ext rfl rfl rfl (hitsKept.trans hits) (missesKept.trans misses) evicted

theorem parse_tallies (agrees : Agrees digestOf options coordinator ledger) (parser : Parser τ)
    (path content : String) :
    ReadTallies options coordinator ledger parser path content
      (coordinator.parse digestOf parser path content) := by
  simp only [Coordinator.parse, strategy_eq agrees]
  cases found : remembered? options ledger path with
  | none => exact runFull_tallies agrees parser path content
  | some kept =>
    obtain ⟨-, held⟩ := remembered?_eq_some.mp found
    by_cases cached : (digestOf content).isCurrent ∧ digestOf kept.content = digestOf content
    · simp only [chosen, if_pos cached]
      exact runCached_tallies agrees held parser content
    · simp only [chosen, if_neg cached]
      cases Edit.between kept.content content with
      | none => exact runFull_tallies agrees parser path content
      | some edit => exact runIncremental_tallies agrees held parser content edit

theorem parseWithEdit_tallies (agrees : Agrees digestOf options coordinator ledger)
    (parser : Parser τ) (path content : String) (edit : Edit) :
    ReadTallies options coordinator ledger parser path content
      (coordinator.parseWithEdit digestOf parser path content edit) := by
  simp only [Coordinator.parseWithEdit, isConsistent_eq agrees]
  cases found : remembered? options ledger path with
  | none => exact runFull_tallies agrees parser path content
  | some kept =>
    obtain ⟨-, held⟩ := remembered?_eq_some.mp found
    simp only [Option.any_some]
    split
    · exact runIncremental_tallies agrees held parser content edit
    · exact runFull_tallies agrees parser path content

theorem invalidate_counts (coordinator : Coordinator τ) (paths : List String) :
    (coordinator.invalidate paths).counts = coordinator.counts := by
  unfold invalidate
  induction paths generalizing coordinator with
  | nil => rfl
  | cons path rest ih =>
    refine (ih (coordinator.invalidateOne path)).trans ?_
    simp only [counts, invalidateOne, TreeCache.invalidate]
    split <;> rfl

/-- A response that tells of no read goes with the same counts as before. -/
theorem tallies_of_same {later : Coordinator τ} {event : Event τ} {response : Response τ}
    (same : later.counts = coordinator.counts)
    (silent : ∀ outcome call, response ≠ .read outcome call)
    (room : ∀ path kept, event ≠ .kept path kept) :
    Tallies options coordinator ledger event response later := by
  have overflow : ledger.overflow (max 1 options.maxTrees) event = 0 := by
    cases event with
    | kept path kept => exact absurd rfl (room path kept)
    | _ => rfl
  rw [Tallies, overflow, same]
  cases response with
  | read outcome call => exact absurd rfl (silent outcome call)
  | none | count value | refused error => rfl

/-! ## Counting over a run -/

/-- Whether this disposes of the coordinator. -/
def Request.disposes : Request → Bool
  | .dispose => true
  | _ => false

/-- Whether the request starts the counting anew. Of the disposals only the first does. -/
def Request.restarts (disposed : Bool) : Request → Bool
  | .resetStats | .clear => true
  | .dispose => !disposed
  | _ => false

/-- The responses since the counting began, the latest first. -/
def responsesCounted (digestOf : String → Digest) (options : CoordinatorOptions) :
    List (Turn τ) → List (Response τ)
  | [] => []
  | turn :: past =>
    if turn.request.restarts (past.any (·.request.disposes)) then []
    else ((after digestOf options past).take digestOf turn).1 ::
      responsesCounted digestOf options past

/-- The paths that were stored in a run while they had no entry, once for each time. -/
def stored (digestOf : String → Digest) (options : CoordinatorOptions) :
    List (Turn τ) → List String
  | [] => []
  | turn :: past =>
    let before := after digestOf options past
    ((turn.event (before.take digestOf turn).1).added before.isCached).toList ++
      stored digestOf options past

/-- The paths whose entry was taken away in a run by an invalidation or by a read that failed, once
for each time. -/
def removed (digestOf : String → Digest) (options : CoordinatorOptions) :
    List (Turn τ) → List String
  | [] => []
  | turn :: past =>
    let before := after digestOf options past
    ((before.trees.entries.map Prod.fst).filter
        ((turn.event (before.take digestOf turn).1).removes ·)) ++
      removed digestOf options past

/-- What clears or disposes was asked to. -/
theorem Turn.request_of_event (turn : Turn τ) (response : Response τ) :
    (turn.event response = .cleared → turn.request = .clear) ∧
      (turn.event response = .disposed → turn.request = .dispose) := by
  have read : ∀ parser path content outcome (call : Call τ),
      Event.ofRead parser path content outcome call ≠ .cleared ∧
        Event.ofRead parser path content outcome call ≠ .disposed := by
    intro parser path content outcome call
    rcases outcome with error | ⟨facts, route⟩
    · simp [Event.ofRead]
    · cases route <;> simp [Event.ofRead]
  obtain ⟨parserFor, request⟩ := turn
  cases request with
  | parse path content =>
    cases response with
    | read outcome call =>
      obtain ⟨uncleared, undisposed⟩ := read (parserFor path) path content outcome call
      exact ⟨fun event => absurd event uncleared, fun event => absurd event undisposed⟩
    | _ => simp [Turn.event]
  | parseWithEdit path content edit =>
    cases response with
    | read outcome call =>
      obtain ⟨uncleared, undisposed⟩ := read (parserFor path) path content outcome call
      exact ⟨fun event => absurd event uncleared, fun event => absurd event undisposed⟩
    | _ => simp [Turn.event]
  | invalidateMatching compile pattern =>
    simp only [Turn.event]
    split <;> simp
  | _ => simp [Turn.event]

theorem take_disposed (agrees : Agrees digestOf options coordinator ledger) (turn : Turn τ) :
    (coordinator.take digestOf turn).2.disposed =
      (turn.request.disposes || coordinator.disposed) := by
  obtain ⟨-, disposes⟩ := turn.request_of_event (coordinator.take digestOf turn).1
  cases request : turn.request with
  | dispose =>
    simp only [take, step, request, Request.disposes, Bool.true_or, dispose]
    split
    · assumption
    · rfl
  | _ =>
    rw [request] at disposes
    rw [(take_agrees agrees turn).disposed, agrees.disposed]
    exact Ledger.disposed_write (by simpa using disposes) _

theorem disposed_after (digestOf : String → Digest) (options : CoordinatorOptions)
    (past : List (Turn τ)) :
    (after digestOf options past).disposed = past.any (·.request.disposes) := by
  induction past with
  | nil => rfl
  | cons turn past ih =>
    rw [List.any_cons, ← ih]
    exact take_disposed (after_agrees digestOf options past) turn

/-- A turn that does not start the counting anew counts what its response says. -/
theorem take_tallies (agrees : Agrees digestOf options coordinator ledger) (turn : Turn τ)
    (goesOn : turn.request.restarts coordinator.disposed = false) :
    Tallies options coordinator ledger (turn.event (coordinator.take digestOf turn).1)
      (coordinator.take digestOf turn).1 (coordinator.take digestOf turn).2 := by
  obtain ⟨parserFor, request⟩ := turn
  cases request with
  | parse path content => exact parse_tallies agrees (parserFor path) path content
  | parseWithEdit path content edit =>
    exact parseWithEdit_tallies agrees (parserFor path) path content edit
  | invalidate paths =>
    exact tallies_of_same (invalidate_counts coordinator paths) (by simp [take, step])
      (by simp [Turn.event])
  | invalidateWhere matching =>
    exact tallies_of_same rfl (by simp [take, step]) (by simp [Turn.event])
  | invalidateMatching compile pattern =>
    simp only [take, step, invalidateMatching, Turn.event]
    cases compile pattern with
    | error text => exact tallies_of_same rfl (by simp) (by simp)
    | ok matching => exact tallies_of_same rfl (by simp) (by simp)
  | resetStats => cases goesOn
  | clear => cases goesOn
  | dispose =>
    have disposed : coordinator.disposed = true := by simpa [Request.restarts] using goesOn
    have same : (coordinator.take digestOf ⟨parserFor, .dispose⟩).2 = coordinator := if_pos disposed
    rw [same]
    exact tallies_of_same rfl (by simp [take, step]) (by simp [Turn.event])

/-- A turn that starts the counting anew leaves nothing counted. -/
theorem take_restarts (digestOf : String → Digest) (turn : Turn τ)
    (anew : turn.request.restarts coordinator.disposed = true) :
    (coordinator.take digestOf turn).2.counts = {} := by
  obtain ⟨parserFor, request⟩ := turn
  cases request with
  | resetStats => rfl
  | clear => rfl
  | dispose =>
    have first : ¬ coordinator.disposed = true := by simpa [Request.restarts] using anew
    simp only [take, step, dispose, if_neg first]
    rfl
  | _ => cases anew

/-- What was counted in a run is what its responses say since the counting began. -/
theorem counts_after (digestOf : String → Digest) (options : CoordinatorOptions)
    (past : List (Turn τ)) :
    let counts := (after digestOf options past).counts
    let counted := responsesCounted digestOf options past
    counts.full = counted.countP (·.returned false false) ∧
      counts.incremental = counted.countP (·.returned true false) ∧
      counts.cached = counted.countP (·.returned true true) ∧
      counts.hits + counts.misses =
        counted.countP (·.returned true true) + counted.countP Response.reparsed ∧
      counts.misses = counted.countP Response.reparsedTreeless := by
  induction past with
  | nil => exact ⟨rfl, rfl, rfl, rfl, rfl⟩
  | cons turn past ih =>
    have agrees := after_agrees digestOf options past
    simp only [responsesCounted, ← disposed_after digestOf options past, after]
    by_cases anew : turn.request.restarts (after digestOf options past).disposed = true
    · rw [if_pos anew, take_restarts digestOf turn anew]
      exact ⟨rfl, rfl, rfl, rfl, rfl⟩
    · rw [if_neg anew, take_tallies agrees turn (Bool.not_eq_true _ ▸ anew)]
      obtain ⟨full, incremental, cached, uses, treeless⟩ := ih
      have own := Response.hits_add_misses ((after digestOf options past).take digestOf turn).1
      have ownMisses := Response.misses_eq ((after digestOf options past).take digestOf turn).1
      simp only [List.countP_cons, Counts.add, Response.gain]
      omega

/-- Where nothing was cleared and the counting never began anew, every entry that was added is
there, gave way or was taken away. -/
theorem size_after (digestOf : String → Digest) (options : CoordinatorOptions)
    (past : List (Turn τ))
    (throughout : ∀ turn ∈ past, turn.request ≠ .resetStats ∧ turn.request ≠ .clear ∧
      turn.request ≠ .dispose) :
    (after digestOf options past).trees.size + (after digestOf options past).trees.evictions
        + (removed digestOf options past).length = (stored digestOf options past).length := by
  induction past with
  | nil => rfl
  | cons turn past ih =>
    obtain ⟨unreset, uncleared, undisposed⟩ := throughout turn List.mem_cons_self
    have earlier := ih fun turn member => throughout turn (List.mem_cons_of_mem _ member)
    have agrees := after_agrees digestOf options past
    have later := after_agrees digestOf options (turn :: past)
    have goesOn : turn.request.restarts (after digestOf options past).disposed = false := by
      cases request : turn.request with
      | resetStats => exact absurd request unreset
      | clear => exact absurd request uncleared
      | dispose => exact absurd request undisposed
      | _ => rfl
    have evictions := congrArg Counts.evictions (take_tallies agrees turn goesOn)
    obtain ⟨clears, disposes⟩ :=
      turn.request_of_event ((after digestOf options past).take digestOf turn).1
    have lines := Ledger.write_length agrees.distinct (mt clears uncleared)
      (mt disposes undisposed) (max 1 options.maxTrees)
    have paths := (agrees.holds.entries.map Prod.fst).filter
      ((turn.event ((after digestOf options past).take digestOf turn).1).removes ·)
    have cached : (fun path => ((ledgerAfter digestOf options past).kept? path).isSome) =
        (after digestOf options past).isCached :=
      funext fun path => (agrees.has_eq path).symm
    rw [agrees.size_eq] at earlier
    rw [later.size_eq]
    simp only [stored, removed, List.length_append, paths.length_eq, map_fst_mapValues]
    rw [cached] at lines
    simp only [ledgerAfter, history, Ledger.ofHistory, after, counts, Counts.add,
      Response.gain] at *
    omega

/-- **The counts of a coordinator match its responses.** After any run, and since its counts were
last brought back to zero, the three counts of reads are the numbers of successes by their marks.
A use of the tree cache is a success on a cached content or a call for an edit, whether that call
succeeded or not, and it is a miss just where the call was given no tree. If nothing was ever reset,
cleared or disposed of, every entry that was stored for a path without one is still there, was
evicted, or was taken away by an invalidation or a failed read. -/
theorem counts_match_responses (digestOf : String → Digest) (options : CoordinatorOptions)
    (past : List (Turn τ)) :
    let stats := (after digestOf options past).stats
    let counted := responsesCounted digestOf options past
    stats.fullParses = counted.countP (·.returned false false) ∧
      stats.incrementalParses = counted.countP (·.returned true false) ∧
      stats.cachedParses = counted.countP (·.returned true true) ∧
      stats.treeCache.hits + stats.treeCache.misses =
        counted.countP (·.returned true true) + counted.countP Response.reparsed ∧
      stats.treeCache.misses = counted.countP Response.reparsedTreeless ∧
      ((∀ turn ∈ past, turn.request ≠ .resetStats ∧ turn.request ≠ .clear ∧
          turn.request ≠ .dispose) →
        stats.treeCache.size + stats.treeCache.evictions
            + (removed digestOf options past).length = (stored digestOf options past).length) := by
  intro stats counted
  obtain ⟨full, incremental, cached, uses, misses⟩ := counts_after digestOf options past
  exact ⟨full, incremental, cached, uses, misses, size_after digestOf options past⟩

/-- There is room for one file. The first is read, read again and edited; the second takes its
place, has no tree when it is edited, and is lost when its next edit cannot be read. -/
theorem lost_file_counted :
    let digestOf : String → Digest := fun content => ⟨content.utf8ByteSize.toUInt64, 1⟩
    let reader (tree : Option String) : Parser String :=
      ⟨fun _ _ => .ok ⟨⟨[], [], []⟩, tree⟩, fun _ _ _ _ => .ok ⟨⟨[], [], []⟩, tree⟩⟩
    let broken : Parser String :=
      ⟨fun _ _ => .error (.parse "?"), fun _ _ _ _ => .error (.parse "?")⟩
    let past : List (Turn String) :=
      [⟨fun _ => broken, .parse "b" "xyz"⟩,
        ⟨fun _ => reader none, .parse "b" "xy"⟩,
        ⟨fun _ => reader none, .parse "b" "x"⟩,
        ⟨fun _ => reader (some "t"), .parse "a" "xy"⟩,
        ⟨fun _ => reader (some "t"), .parse "a" "x"⟩,
        ⟨fun _ => reader (some "t"), .parse "a" "x"⟩]
    let stats := (after digestOf ⟨1, true⟩ past).stats
    (∀ turn ∈ past, turn.request ≠ .resetStats ∧ turn.request ≠ .clear ∧
        turn.request ≠ .dispose) ∧
      stats.fullParses = 2 ∧ stats.incrementalParses = 2 ∧ stats.cachedParses = 1 ∧
      stats.treeCache.hits + stats.treeCache.misses = 1 + 3 ∧ stats.treeCache.misses = 2 ∧
      removed digestOf ⟨1, true⟩ past = ["b"] ∧ stored digestOf ⟨1, true⟩ past = ["b", "a"] ∧
      stats.treeCache.size + stats.treeCache.evictions + 1 = 2 := by
  intro digestOf reader broken past stats
  have throughout : ∀ turn ∈ past, turn.request ≠ .resetStats ∧ turn.request ≠ .clear ∧
      turn.request ≠ .dispose := by simp [past]
  obtain ⟨full, incremental, cached, uses, misses, size⟩ :=
    counts_match_responses digestOf ⟨1, true⟩ past
  have gone : removed digestOf ⟨1, true⟩ past = ["b"] := by decide
  have added : stored digestOf ⟨1, true⟩ past = ["b", "a"] := by decide
  have kept := size throughout
  rw [gone, added] at kept
  refine ⟨throughout, full.trans ?_, incremental.trans ?_, cached.trans ?_, uses.trans ?_,
    misses.trans ?_, gone, added, kept⟩ <;> decide

end Coordinator

end SourceFacts

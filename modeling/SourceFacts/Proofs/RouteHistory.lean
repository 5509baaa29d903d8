import Mathlib.Data.List.Perm.Subperm
import SourceFacts.Grammar.Rust
import SourceFacts.Proofs.Reading

/-! The way to read a file is a function of what happened before. What is cached for a path
is told here from the events alone: the last read that was not from the cache, unless
something took it away since. The ledger keeps to this account, eviction included, and so
every coordinator does. -/
namespace SourceFacts
open Recency

variable {τ : Type} {capacity : Nat} {past events : List (Event τ)} {event : Event τ}
  {path other : String} {kept : Kept τ} {ledger : Ledger τ}

/-! ## What is cached, by history -/

/-- The path was read with success here, from what is cached or anew. -/
def Event.Uses (path : String) : Event τ → Prop
  | .kept other _ => other = path
  | .reused other => other = path
  | _ => False

/-- In a history, the latest event first, a path was used after the last use of another one. -/
def UsedSince (events : List (Event τ)) (path other : String) : Prop :=
  ∃ recent earlier, events = recent ++ earlier ∧ (∃ event ∈ recent, event.Uses path) ∧
    ∀ event ∈ recent, ¬ event.Uses other

/-- What takes away that a path is cached. For an eviction a path that is not cached has to be
read while as many paths are cached as there is room for, and all the others among these have
been used since. -/
inductive Drops (capacity : Nat) (past : List (Event τ)) (cached : String → Prop)
    (path : String) : Event τ → Prop where
  | failed : Drops capacity past cached path (.failed path)
  | invalidated {matching : String → Bool} (matched : matching path = true) :
      Drops capacity past cached path (.forgotten matching)
  | cleared : Drops capacity past cached path .cleared
  | disposed (first : .disposed ∉ past) : Drops capacity past cached path .disposed
  | evicted {other : String} {kept : Kept τ} (new : ¬ cached other)
      (full : ∃ paths : List String, paths.Nodup ∧ paths.length = capacity ∧
        ∀ held ∈ paths, cached held)
      (eldest : ∀ held, cached held → held ≠ path → UsedSince past held path) :
      Drops capacity past cached path (.kept other kept)

/-- A path is cached with what its last read kept, where that read was not from the cache and
nothing took it away since. -/
def CachedWith (capacity : Nat) : List (Event τ) → String → Kept τ → Prop
  | [], _, _ => False
  | event :: past, path, kept =>
    event = .kept path kept ∨
      CachedWith capacity past path kept ∧ (∀ newer, event ≠ .kept path newer) ∧
        ¬ Drops capacity past (fun held => ∃ kept, CachedWith capacity past held kept) path event

theorem UsedSince.later (since : UsedSince past path other) (unused : ¬ event.Uses other) :
    UsedSince (event :: past) path other := by
  obtain ⟨recent, earlier, rfl, used, none⟩ := since
  obtain ⟨use, member, uses⟩ := used
  refine ⟨event :: recent, earlier, rfl, ⟨use, List.mem_cons_of_mem _ member, uses⟩, ?_⟩
  intro later among
  rcases List.mem_cons.mp among with rfl | inside
  · exact unused
  · exact none later inside

theorem UsedSince.of_use (used : event.Uses path) (unused : ¬ event.Uses other) :
    UsedSince (event :: past) path other :=
  ⟨[event], past, rfl, ⟨event, List.mem_singleton_self _, used⟩, by simpa using unused⟩

/-- Of two paths only one can have been used since the other. -/
theorem UsedSince.asymm (since : UsedSince events path other) :
    ¬ UsedSince events other path := by
  intro converse
  obtain ⟨recent, earlier, shape, ⟨use, member, uses⟩, none⟩ := since
  obtain ⟨recent', earlier', shape', ⟨use', member', uses'⟩, none'⟩ := converse
  rcases List.prefix_or_prefix_of_prefix ⟨earlier, shape.symm⟩ ⟨earlier', shape'.symm⟩ with
    inside | inside
  · exact none' use (inside.subset member) uses
  · exact none use' (inside.subset member') uses'

section

variable {cached : String → Prop}

@[simp] theorem drops_failed : Drops capacity past cached path (.failed other) ↔ other = path :=
  ⟨fun | .failed => rfl, fun same => same ▸ .failed⟩

@[simp] theorem drops_forgotten {matching : String → Bool} :
    Drops capacity past cached path (.forgotten matching) ↔ matching path = true :=
  ⟨fun | .invalidated matched => matched, .invalidated⟩

@[simp] theorem drops_cleared : Drops capacity past cached path .cleared := .cleared

@[simp] theorem drops_disposed :
    Drops capacity past cached path .disposed ↔ .disposed ∉ past :=
  ⟨fun | .disposed first => first, .disposed⟩

@[simp] theorem drops_reused : ¬ Drops capacity past cached path (.reused other) := nofun

@[simp] theorem drops_untouched : ¬ Drops capacity past cached path .untouched := nofun

theorem drops_kept :
    Drops capacity past cached path (.kept other kept) ↔
      ¬ cached other ∧
        (∃ paths : List String, paths.Nodup ∧ paths.length = capacity ∧
          ∀ held ∈ paths, cached held) ∧
        ∀ held, cached held → held ≠ path → UsedSince past held path :=
  ⟨fun | .evicted new full eldest => ⟨new, full, eldest⟩,
    fun ⟨new, full, eldest⟩ => .evicted new full eldest⟩

end

/-- Other events than reads can only take away. -/
theorem cachedWith_of_no_read (event : Event τ)
    (noRead : ∀ path kept, event ≠ .kept path kept) :
    CachedWith capacity (event :: past) path kept ↔
      CachedWith capacity past path kept ∧
        ¬ Drops capacity past (fun held => ∃ kept, CachedWith capacity past held kept)
          path event := by
  rw [CachedWith]
  simp [noRead]

/-! ## The ledger keeps to the account -/

namespace Ledger

/-- A ledger tells what its history tells: the lines stand in order of use, and there is one
exactly for what is cached. -/
structure Recalls (capacity : Nat) (events : List (Event τ)) (ledger : Ledger τ) : Prop where
  distinct : Distinct ledger.lines
  bounded : ledger.lines.length ≤ capacity
  inOrder : ledger.lines.Pairwise fun earlier later => UsedSince events later.1 earlier.1
  disposed : ledger.disposed = true ↔ .disposed ∈ events
  cached : ∀ path kept, ledger.kept? path = some kept ↔ CachedWith capacity events path kept

theorem write_distinct (distinct : Distinct ledger.lines) (event : Event τ) :
    Distinct (ledger.write capacity event).lines := by
  cases event with
  | kept path kept => exact distinct_trim (distinct_place distinct) capacity
  | reused path =>
    simp only [write]
    split
    · exact distinct_place distinct
    · exact distinct
  | failed path => exact distinct_others distinct
  | forgotten matching => exact distinct_filter distinct fun path => !matching path
  | cleared => exact List.nodup_nil
  | disposed =>
    simp only [write]
    split
    · exact distinct
    · exact List.nodup_nil
  | untouched => exact distinct

theorem write_bounded (distinct : Distinct ledger.lines)
    (bounded : ledger.lines.length ≤ capacity) (event : Event τ) :
    (ledger.write capacity event).lines.length ≤ capacity := by
  cases event with
  | kept path kept => exact length_trim_le capacity
  | reused path =>
    simp only [write]
    split
    · rename_i kept found
      rw [length_place_of_present distinct found]
      exact bounded
    · exact bounded
  | failed path => exact Nat.le_trans (length_others_le path ledger.lines) bounded
  | forgotten matching => exact Nat.le_trans (List.length_filter_le _ _) bounded
  | cleared => exact Nat.zero_le _
  | disposed =>
    simp only [write]
    split
    · exact bounded
    · exact Nat.zero_le _
  | untouched => exact bounded

/-- Reading a path puts its line behind all the others. -/
theorem place_inOrder {lines : List (String × Kept τ)} (event : Event τ)
    (inOrder : lines.Pairwise fun earlier later => UsedSince past later.1 earlier.1)
    (used : event.Uses path) (only : ∀ other, event.Uses other → other = path) (kept : Kept τ) :
    (place path kept lines).Pairwise
      fun earlier later => UsedSince (event :: past) later.1 earlier.1 := by
  have unused : ∀ line ∈ others path lines, ¬ event.Uses line.1 := by
    intro line member use
    exact of_decide_eq_true (List.mem_filter.mp member).2 (only line.1 use)
  refine List.pairwise_append.mpr ⟨?_, List.pairwise_singleton _ _, ?_⟩
  · have rest : (others path lines).Pairwise fun earlier later =>
        UsedSince past later.1 earlier.1 := inOrder.sublist List.filter_sublist
    exact rest.imp_of_mem fun earlier _ since => since.later (unused _ earlier)
  · intro line member last isLast
    rw [List.mem_singleton.mp isLast]
    exact .of_use used (unused line member)

theorem write_inOrder
    (inOrder : ledger.lines.Pairwise fun earlier later => UsedSince past later.1 earlier.1)
    (event : Event τ) :
    (ledger.write capacity event).lines.Pairwise
      fun earlier later => UsedSince (event :: past) later.1 earlier.1 := by
  have still : ∀ {lines : List (String × Kept τ)}, lines.Sublist ledger.lines →
      (∀ line ∈ lines, ¬ event.Uses line.1) →
        lines.Pairwise fun earlier later => UsedSince (event :: past) later.1 earlier.1 := by
    intro lines part unused
    exact (inOrder.sublist part).imp_of_mem fun earlier _ since => since.later (unused _ earlier)
  cases event with
  | kept path kept =>
    have placed := place_inOrder (.kept path kept) inOrder rfl (fun _ => Eq.symm) kept
    exact placed.sublist (trim_sublist capacity)
  | reused path =>
    simp only [write]
    cases found : ledger.kept? path with
    | some kept => exact place_inOrder (.reused path) inOrder rfl (fun _ => Eq.symm) kept
    | none =>
      refine still (List.Sublist.refl _) fun line member use => ?_
      rw [← others_of_absent found] at member
      exact of_decide_eq_true (List.mem_filter.mp member).2 (Eq.symm use)
  | failed path => exact still List.filter_sublist fun _ _ => id
  | forgotten matching => exact still List.filter_sublist fun _ _ => id
  | cleared => exact List.Pairwise.nil
  | disposed =>
    simp only [write]
    split
    · exact still (List.Sublist.refl _) fun _ _ => id
    · exact List.Pairwise.nil
  | untouched => exact still (List.Sublist.refl _) fun _ _ => id

theorem write_disposed (disposed : ledger.disposed = true ↔ .disposed ∈ past) (event : Event τ) :
    (ledger.write capacity event).disposed = true ↔ .disposed ∈ event :: past := by
  cases event with
  | reused path =>
    simp only [write]
    split <;> simp [disposed]
  | disposed =>
    simp only [write]
    split <;> simp [*]
  | _ => simp [write, disposed]

namespace Recalls

theorem isCached_iff (recalls : Recalls capacity events ledger) (path : String) :
    (∃ kept, CachedWith capacity events path kept) ↔ path ∈ ledger.lines.map Prod.fst := by
  rw [← isSome_lookup, Option.isSome_iff_exists]
  exact exists_congr fun kept => (recalls.cached path kept).symm

theorem not_isCached_iff (recalls : Recalls capacity events ledger) (path : String) :
    (¬ ∃ kept, CachedWith capacity events path kept) ↔ ledger.kept? path = none := by
  rw [recalls.isCached_iff, ← isSome_lookup, Bool.not_eq_true, Option.isSome_eq_false_iff,
    Option.isNone_iff_eq_none, kept?]

/-- There is no room left where as many paths are cached as there are lines at most. -/
theorem full_iff (recalls : Recalls capacity events ledger) :
    (∃ paths : List String, paths.Nodup ∧ paths.length = capacity ∧
      ∀ held ∈ paths, ∃ kept, CachedWith capacity events held kept) ↔
        ledger.lines.length = capacity := by
  constructor
  · rintro ⟨paths, nodup, rfl, cached⟩
    have part : paths ⊆ ledger.lines.map Prod.fst :=
      fun held member => (recalls.isCached_iff held).mp (cached held member)
    have count := (List.subperm_of_subset nodup part).length_le
    rw [List.length_map] at count
    exact Nat.le_antisymm recalls.bounded count
  · intro full
    refine ⟨ledger.lines.map Prod.fst, recalls.distinct, by simpa using full, ?_⟩
    exact fun held member => (recalls.isCached_iff held).mpr member

/-- All other cached paths have been used since a cached path was, exactly if its line is the
first. -/
theorem eldest_iff (recalls : Recalls capacity events ledger)
    (found : ledger.kept? path = some kept) :
    (∀ held, (∃ kept, CachedWith capacity events held kept) → held ≠ path →
      UsedSince events held path) ↔ (ledger.lines.map Prod.fst).head? = some path := by
  have own : path ∈ ledger.lines.map Prod.fst := isSome_lookup.mp (by rw [← kept?, found]; rfl)
  have inOrder : (ledger.lines.map Prod.fst).Pairwise fun earlier later =>
      UsedSince events later earlier := List.pairwise_map.mpr recalls.inOrder
  simp only [recalls.isCached_iff]
  cases paths : ledger.lines.map Prod.fst with
  | nil => simp [paths] at own
  | cons first rest =>
    rw [paths] at own inOrder
    obtain ⟨since, -⟩ := List.pairwise_cons.mp inOrder
    rw [List.head?_cons, Option.some_inj]
    constructor
    · intro eldest
      by_contra later
      have inside : path ∈ rest := (List.mem_cons.mp own).resolve_left (Ne.symm later)
      exact (since path inside).asymm (eldest first List.mem_cons_self later)
    · rintro rfl held member different
      exact since held ((List.mem_cons.mp member).resolve_left different)

/-- A read of another path evicts a cached one, exactly if it is new, the lines are all taken
and the line of the cached path is the first. -/
theorem evicts_iff (recalls : Recalls capacity events ledger)
    (found : ledger.kept? path = some kept) {new : Kept τ} :
    Drops capacity events (fun held => ∃ kept, CachedWith capacity events held kept) path
        (.kept other new) ↔
      ledger.kept? other = none ∧ ledger.lines.length = capacity ∧
        (ledger.lines.map Prod.fst).head? = some path := by
  rw [drops_kept, recalls.not_isCached_iff, recalls.full_iff, recalls.eldest_iff found]

theorem write_cached (recalls : Recalls capacity past ledger) (positive : 0 < capacity)
    (event : Event τ) (path : String) (kept : Kept τ) :
    (ledger.write capacity event).kept? path = some kept ↔
      CachedWith capacity (event :: past) path kept := by
  cases event with
  | kept other new =>
    rw [write, kept?, lookup_trim_place positive recalls.distinct recalls.bounded, CachedWith,
      ← recalls.cached]
    by_cases same : path = other
    · subst same
      simp
    · have elsewhere : ∀ newer, (.kept other new : Event τ) ≠ .kept path newer := by
        rintro newer ⟨⟩
        exact same rfl
      rw [if_neg same, or_iff_right (elsewhere kept)]
      by_cases evicted : ledger.lines.lookup other = none ∧ ledger.lines.length = capacity ∧
          (ledger.lines.map Prod.fst).head? = some path
      · rw [if_pos evicted]
        constructor
        · intro found
          cases found
        · rintro ⟨found, -, remains⟩
          exact absurd ((recalls.evicts_iff found).mpr evicted) remains
      · rw [if_neg evicted]
        constructor
        · intro found
          exact ⟨found, elsewhere, fun drops => evicted ((recalls.evicts_iff found).mp drops)⟩
        · rintro ⟨found, -⟩
          exact found
  | reused other =>
    rw [cachedWith_of_no_read (.reused other) (by simp), ← recalls.cached,
      and_iff_left drops_reused, write]
    cases found : ledger.kept? other with
    | none => rfl
    | some held =>
      rw [kept?, lookup_place]
      split
      · rename_i same
        rw [same, found]
      · rfl
  | failed other =>
    rw [cachedWith_of_no_read (.failed other) (by simp), ← recalls.cached,
      drops_failed, write, kept?, lookup_others, kept?]
    by_cases same : path = other
    · simp [same]
    · simp [same, Ne.symm same]
  | forgotten matching =>
    rw [cachedWith_of_no_read (.forgotten matching) (by simp), ← recalls.cached,
      drops_forgotten, write, kept?, lookup_filter (fun path => !matching path), kept?]
    cases matching path <;> simp
  | cleared =>
    rw [cachedWith_of_no_read .cleared (by simp)]
    simp [write, kept?]
  | disposed =>
    rw [cachedWith_of_no_read .disposed (by simp), ← recalls.cached, drops_disposed,
      not_not, ← recalls.disposed, write]
    cases disposed : ledger.disposed <;> simp [kept?]
  | untouched =>
    rw [cachedWith_of_no_read .untouched (by simp), ← recalls.cached,
      and_iff_left drops_untouched, write]

end Recalls

/-- One more event keeps the ledger true to its history. -/
theorem write_recalls (recalls : Recalls capacity past ledger) (positive : 0 < capacity)
    (event : Event τ) : Recalls capacity (event :: past) (ledger.write capacity event) where
  distinct := write_distinct recalls.distinct event
  bounded := write_bounded recalls.distinct recalls.bounded event
  inOrder := write_inOrder recalls.inOrder event
  disposed := write_disposed recalls.disposed event
  cached := recalls.write_cached positive event

theorem ofHistory_recalls (positive : 0 < capacity) (events : List (Event τ)) :
    Recalls capacity events (ofHistory capacity events) := by
  induction events with
  | nil =>
    refine ⟨List.nodup_nil, Nat.zero_le _, List.Pairwise.nil, by simp [ofHistory, blank], ?_⟩
    intro path kept
    simp [ofHistory, blank, kept?, CachedWith]
  | cons event past ih => exact write_recalls ih positive event

end Ledger

/-! ## Routes by history -/

/-- How an outcome is marked that was reached this way: whether something kept was of use, and
whether the content was the one kept. -/
def Route.marks : Route → Bool × Bool
  | .cached => (true, true)
  | .incremental => (true, false)
  | .full => (false, false)

namespace Coordinator

variable {digestOf : String → Digest} {options : CoordinatorOptions}
  {coordinator : Coordinator τ} {content : String} {parser : Parser τ}

/-- The way of a strategy. -/
def Strategy.route : Strategy → Route
  | .cached => .cached
  | .incremental _ => .incremental
  | .full => .full

/-- The way in which a content will be read. -/
def parseRoute (digestOf : String → Digest) (coordinator : Coordinator τ)
    (path content : String) : Route :=
  (coordinator.strategy path content (digestOf content)).route

/-- The way in which a content will be read whose edit is known. -/
def editRoute (coordinator : Coordinator τ) (path content : String) (edit : Edit) : Route :=
  if coordinator.isConsistent path content edit then .incremental else .full

/-- A read went this way: its parser was called accordingly, and if it succeeded, it is marked
so and counted once, among the reads of this way. -/
structure Went (coordinator : Coordinator τ) (route : Route) (answered : Answered τ) : Prop where
  called : route = .incremental ↔ ∃ previous span, answered.call = .incremental previous span
  marked : ∀ outcome, answered.outcome = .ok outcome →
    (outcome.route.wasIncremental, outcome.route.wasCached) = route.marks
  counted : ∀ other, answered.state.parses other =
    coordinator.parses other + if answered.outcome.isOk && other = route then 1 else 0

/-- Reading goes by what is cached for the path: an unchanged content from the cache, another
one as the smallest edit of the cached one, with its tree, and one without a cached content in
full. -/
structure ReadsBy (digestOf : String → Digest) (cached : Kept τ → Prop) (content : String)
    (route : Route) (call : Call τ) : Prop where
  cached_iff : route = .cached ↔
    ∃ kept, cached kept ∧ digestOf content = digestOf kept.content
  incremental_iff : route = .incremental ↔
    ∃ kept, cached kept ∧ digestOf content ≠ digestOf kept.content
  full_iff : route = .full ↔ ¬ ∃ kept, cached kept
  call_eq : ∀ kept, cached kept → digestOf content ≠ digestOf kept.content →
    ∃ edit, Edit.between kept.content content = some edit ∧
      call = .incremental kept.tree (edit.locate kept.content content)

/-- Reading with an edit goes by what is cached for the path: the edit is used exactly if it
leads from the cached content to the new one. -/
structure ReadsEditBy (cached : Kept τ → Prop) (content : String) (edit : Edit)
    (route : Route) (call : Call τ) : Prop where
  incremental_iff : route = .incremental ↔
    ∃ kept, cached kept ∧ edit.transforms kept.content content = true
  full_iff : route = .full ↔
    ¬ ∃ kept, cached kept ∧ edit.transforms kept.content content = true
  call_eq : ∀ kept, cached kept → edit.transforms kept.content content = true →
    call = .incremental kept.tree (edit.locate kept.content content)

theorem parseRoute_eq (agrees : Agrees digestOf options coordinator ledger)
    (path content : String) :
    coordinator.parseRoute digestOf path content =
      (plan digestOf (remembered? options ledger path) content).1 := by
  rw [parseRoute, strategy_eq agrees]
  unfold chosen plan
  cases remembered? options ledger path with
  | none => rfl
  | some kept =>
    simp only
    split
    · rfl
    · cases Edit.between kept.content content <;> rfl

theorem editRoute_eq (agrees : Agrees digestOf options coordinator ledger)
    (path content : String) (edit : Edit) :
    coordinator.editRoute path content edit =
      (planWithEdit (remembered? options ledger path) content edit).1 := by
  rw [editRoute, isConsistent_eq agrees]
  cases remembered? options ledger path with
  | none => rfl
  | some kept =>
    simp only [planWithEdit, Option.any_some]
    split <;> rfl

theorem plan_called (digestOf : String → Digest) (kept? : Option (Kept τ)) (content : String) :
    (plan digestOf kept? content).1 = .incremental ↔
      ∃ previous span, (plan digestOf kept? content).2 = .incremental previous span := by
  unfold plan
  cases kept? with
  | none => simp
  | some kept =>
    simp only
    split
    · simp
    · cases Edit.between kept.content content <;> simp

theorem planWithEdit_called (kept? : Option (Kept τ)) (content : String) (edit : Edit) :
    (planWithEdit kept? content edit).1 = .incremental ↔
      ∃ previous span, (planWithEdit kept? content edit).2 = .incremental previous span := by
  unfold planWithEdit
  cases kept? with
  | none => simp
  | some kept =>
    simp only
    split <;> simp

theorem Carries.went {plan : Route × Call τ} {answered : Answered τ}
    (carries : Carries digestOf options coordinator ledger parser path content plan answered)
    (called : plan.1 = .incremental ↔ ∃ previous span, plan.2 = .incremental previous span) :
    Went coordinator plan.1 answered where
  called := by rw [carries.call]; exact called
  marked := by
    intro outcome succeeded
    obtain ⟨parsed, -, rfl⟩ := carries.answered_ok succeeded
    cases plan.1 <;> rfl
  counted := carries.counts

/-- A digest of today's scheme tells contents apart only if they differ, and then there is an
edit between them; so what is cached is never left unused. -/
theorem plan_readsBy (current : ∀ text, (digestOf text).isCurrent = true)
    (kept? : Option (Kept τ)) (content : String) :
    ReadsBy digestOf (fun kept => kept? = some kept) content
      (plan digestOf kept? content).1 (plan digestOf kept? content).2 := by
  unfold plan
  cases kept? with
  | none => constructor <;> simp
  | some kept =>
    by_cases same : digestOf kept.content = digestOf content
    · simp only [current, true_and, if_pos same]
      constructor <;> simp [same]
    · simp only [current, true_and, if_neg same]
      cases found : Edit.between kept.content content with
      | none =>
        rw [Edit.eq_of_between_eq_none found] at same
        exact absurd rfl same
      | some edit => constructor <;> simp [Ne.symm same, found]

theorem planWithEdit_readsEditBy (kept? : Option (Kept τ)) (content : String) (edit : Edit) :
    ReadsEditBy (fun kept => kept? = some kept) content edit
      (planWithEdit kept? content edit).1 (planWithEdit kept? content edit).2 := by
  unfold planWithEdit
  cases kept? with
  | none => constructor <;> simp
  | some kept =>
    by_cases leads : edit.transforms kept.content content = true
    · simp only [if_pos leads]
      constructor <;> simp [leads]
    · simp only [if_neg leads]
      constructor <;> simp [leads]

/-- **The way to read a file is a function of history.** After any run, whatever its parsers did and
whatever digests of the scheme in use it went by, a path is in the cache exactly if its history says
so. A read of any content, with or without an edit, goes its way: it makes the call, carries the marks
and has the count of that. Where contents are kept, the way and the call are those that the history of
the path gives, so that a path in the cache is never read in full by a plain read; where they are not,
every read is in full. -/
theorem routes_follow_history (digestOf : String → Digest)
    (current : ∀ text, (digestOf text).isCurrent = true) (options : CoordinatorOptions)
    (past : List (Turn τ)) (parser : Parser τ) (path content : String) (edit : Edit) :
    let coordinator := after digestOf options past
    let cached := CachedWith (max 1 options.maxTrees) (history digestOf options past) path
    let read := coordinator.parse digestOf parser path content
    let readWithEdit := coordinator.parseWithEdit digestOf parser path content edit
    let route := coordinator.parseRoute digestOf path content
    let routeWithEdit := coordinator.editRoute path content edit
    (coordinator.isCached path = true ↔ ∃ kept, cached kept) ∧
      Went coordinator route read ∧
      Went coordinator routeWithEdit readWithEdit ∧
      (options.cacheContent = true →
        ReadsBy digestOf cached content route read.call ∧
          ReadsEditBy cached content edit routeWithEdit readWithEdit.call) ∧
      (options.cacheContent = false → route = .full ∧ routeWithEdit = .full) := by
  intro coordinator cached read readWithEdit route routeWithEdit
  have agrees := after_agrees digestOf options past
  have recalls : Ledger.Recalls (max 1 options.maxTrees) (history digestOf options past)
      (ledgerAfter digestOf options past) :=
    Ledger.ofHistory_recalls (by omega) _
  have carries := parse_carries agrees parser path content
  have carriesEdit := parseWithEdit_carries agrees parser path content edit
  have way : route = _ := parseRoute_eq agrees path content
  have wayWithEdit : routeWithEdit = _ := editRoute_eq agrees path content edit
  rw [way, wayWithEdit]
  refine ⟨?_, carries.went (plan_called ..), carriesEdit.went (planWithEdit_called ..), ?_, ?_⟩
  · rw [isCached, agrees.has_eq, Option.isSome_iff_exists]
    exact exists_congr (recalls.cached path)
  · intro on
    have same : (fun kept =>
        remembered? options (ledgerAfter digestOf options past) path = some kept) =
          cached := by
      funext kept
      rw [remembered?_eq_some, and_iff_right on, recalls.cached]
    rw [← same, carries.call, carriesEdit.call]
    exact ⟨plan_readsBy current _ content, planWithEdit_readsEditBy _ content edit⟩
  · intro off
    simp [remembered?, off, plan, planWithEdit]

/-- With room for one file, reading a second one evicts the first: the second is read again from
the cache, the first in full. -/
theorem evicted_file_read_in_full :
    let options : CoordinatorOptions := ⟨1, true⟩
    let past : List (Turn SyntaxTree) :=
      [⟨fun _ => Grammar.rust.parser, .parse "b.rs" "fn b() {}"⟩,
        ⟨fun _ => Grammar.rust.parser, .parse "a.rs" "fn a() {}"⟩]
    let coordinator := after Digest.ofText options past
    options.cacheContent = true ∧
      coordinator.parseRoute Digest.ofText "b.rs" "fn b() {}" = .cached ∧
      coordinator.parseRoute Digest.ofText "a.rs" "fn a() {}" = .full := by
  intro options past coordinator
  obtain ⟨-, -, -, second, -⟩ := routes_follow_history Digest.ofText (fun _ => rfl) options past
    Grammar.rust.parser "b.rs" "fn b() {}" ⟨0, 0, ""⟩
  obtain ⟨there, -, -, first, -⟩ := routes_follow_history Digest.ofText (fun _ => rfl) options past
    Grammar.rust.parser "a.rs" "fn a() {}" ⟨0, 0, ""⟩
  refine ⟨rfl, ?_, ?_⟩
  · exact (second rfl).1.cached_iff.mpr ⟨_, .inl rfl, rfl⟩
  · have gone : ¬ coordinator.isCached "a.rs" = true := by decide
    exact (first rfl).1.full_iff.mpr (mt there.mpr gone)

end Coordinator

end SourceFacts

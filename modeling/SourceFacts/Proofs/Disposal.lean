import SourceFacts.Proofs.RouteHistory
import SourceFacts.Proofs.Tally

/-! What a disposal releases. The first one forgets all that is cached and all that was counted, and
leaves a mark. Nothing but another disposal ever looks at the mark, so a coordinator that was
disposed of goes on like a new one, and a disposal that finds the mark releases nothing, whatever
has been read since. -/
namespace SourceFacts
open Recency

theorem Counts.add_eq_zero_iff {counts more : Counts} :
    counts.add more = {} ↔ counts = {} ∧ more = {} := by
  simp only [Counts.ext_iff, Counts.add, Nat.add_eq_zero_iff]
  tauto

namespace Coordinator

variable {τ : Type} {digestOf : String → Digest} {options : CoordinatorOptions}
  {coordinator : Coordinator τ} {ledger : Ledger τ}

/-- The coordinator with the mark of a disposal. -/
def marked (coordinator : Coordinator τ) : Coordinator τ := { coordinator with disposed := true }

/-- No path is cached, and there is nothing in either cache. -/
structure Emptied (coordinator : Coordinator τ) : Prop where
  uncached : ∀ path, coordinator.isCached path = false
  trees : coordinator.trees.entries = [] ∧ coordinator.trees.order = []
  contents : coordinator.contents = []

/-- Nothing is cached and nothing is counted. -/
def Released (coordinator : Coordinator τ) : Prop :=
  coordinator.Emptied ∧ coordinator.counts = {}

/-! ## The mark does not show -/

theorem released_marked : coordinator.marked.Released ↔ coordinator.Released := by
  constructor
  · rintro ⟨⟨uncached, trees, contents⟩, counts⟩
    exact ⟨⟨uncached, trees, contents⟩, counts⟩
  · rintro ⟨⟨uncached, trees, contents⟩, counts⟩
    exact ⟨⟨uncached, trees, contents⟩, counts⟩

/-- What came of a request, with the mark of a disposal on the coordinator after it. -/
def Answered.marked (answered : Answered τ) : Answered τ :=
  { answered with state := answered.state.marked }

theorem runFull_marked (coordinator : Coordinator τ) (parser : Parser τ) (path content : String)
    (digest : Digest) :
    coordinator.marked.runFull parser path content digest =
      Answered.marked (coordinator.runFull parser path content digest) := by
  unfold runFull
  cases parser.parse content path <;> rfl

theorem runCached_marked (coordinator : Coordinator τ) (parser : Parser τ)
    (path content : String) :
    coordinator.marked.runCached parser path content =
      Answered.marked (coordinator.runCached parser path content) := by
  unfold runCached
  cases parser.parse content path <;> rfl

theorem runIncremental_marked (coordinator : Coordinator τ) (parser : Parser τ)
    (path content : String) (digest : Digest) (edit : Edit) :
    coordinator.marked.runIncremental parser path content digest edit =
      Answered.marked (coordinator.runIncremental parser path content digest edit) := by
  unfold runIncremental
  simp only [marked, content?]
  cases parser.reparse content path (coordinator.trees.takeTree path).1
    (edit.locate ((coordinator.contents.lookup path).getD "") content) <;> rfl

theorem parse_marked (digestOf : String → Digest) (coordinator : Coordinator τ) (parser : Parser τ)
    (path content : String) :
    coordinator.marked.parse digestOf parser path content =
      Answered.marked (coordinator.parse digestOf parser path content) := by
  have strategy : coordinator.marked.strategy path content (digestOf content) =
      coordinator.strategy path content (digestOf content) := rfl
  simp only [Coordinator.parse, strategy]
  cases coordinator.strategy path content (digestOf content) with
  | cached => exact runCached_marked ..
  | incremental edit => exact runIncremental_marked ..
  | full => exact runFull_marked ..

theorem parseWithEdit_marked (digestOf : String → Digest) (coordinator : Coordinator τ)
    (parser : Parser τ) (path content : String) (edit : Edit) :
    coordinator.marked.parseWithEdit digestOf parser path content edit =
      Answered.marked (coordinator.parseWithEdit digestOf parser path content edit) := by
  have consistent : coordinator.marked.isConsistent path content edit =
      coordinator.isConsistent path content edit := rfl
  simp only [Coordinator.parseWithEdit, consistent]
  cases coordinator.isConsistent path content edit with
  | true => exact runIncremental_marked ..
  | false => exact runFull_marked ..

theorem invalidate_marked (coordinator : Coordinator τ) (paths : List String) :
    coordinator.marked.invalidate paths = (coordinator.invalidate paths).marked := by
  unfold invalidate
  induction paths generalizing coordinator with
  | nil => rfl
  | cons path rest ih => exact ih (coordinator.invalidateOne path)

/-- Every request but a disposal is answered with or without the mark alike. -/
theorem take_marked (coordinator : Coordinator τ) {turn : Turn τ}
    (goesOn : turn.request.disposes = false) :
    coordinator.marked.take digestOf turn =
      ((coordinator.take digestOf turn).1, (coordinator.take digestOf turn).2.marked) := by
  obtain ⟨parserFor, request⟩ := turn
  cases request with
  | parse path content =>
    simp only [take, step, parse_marked]
    rfl
  | parseWithEdit path content edit =>
    simp only [take, step, parseWithEdit_marked]
    rfl
  | invalidate paths => simp only [take, step, invalidate_marked]
  | invalidateMatching compile pattern =>
    simp only [take, step, invalidateMatching]
    cases compile pattern <;> rfl
  | invalidateWhere matching | resetStats | clear => rfl
  | dispose => cases goesOn

/-- A disposal that finds no mark leaves a new coordinator with the mark. -/
theorem dispose_unmarked (agrees : Agrees digestOf options coordinator ledger)
    (first : coordinator.disposed = false) : coordinator.dispose = (new options).marked := by
  have capacity := agrees.capacity
  have configured := agrees.configured
  rw [dispose, first, if_neg Bool.false_ne_true]
  simp only [clear, resetStats, TreeCache.clear, TreeCache.dispose, TreeCache.resetStats, marked,
    new, TreeCache.new, capacity, configured]

/-! ## Since the first disposal -/

theorem Request.disposes_iff {request : Request} : request.disposes = true ↔ request = .dispose := by
  cases request <;> simp [Request.disposes]

/-- The turns since the first disposal, the latest first, without further disposals. There are none
where there was no disposal. -/
def sinceDisposal : List (Turn τ) → List (Turn τ)
  | [] => []
  | turn :: past =>
    if turn.request.disposes then sinceDisposal past
    else if past.any (·.request.disposes) then turn :: sinceDisposal past
    else []

theorem sinceDisposal_of_none {past : List (Turn τ)}
    (none : past.any (·.request.disposes) = false) : sinceDisposal past = [] := by
  cases past with
  | nil => rfl
  | cons turn past =>
    rw [List.any_cons, Bool.or_eq_false_iff] at none
    simp [sinceDisposal, none.1, none.2]

/-- Once it was disposed of, a coordinator is what a new one is after the turns since then, but for
the mark. -/
theorem after_disposal (digestOf : String → Digest) (options : CoordinatorOptions)
    {past : List (Turn τ)} (disposed : past.any (·.request.disposes) = true) :
    after digestOf options past = (after digestOf options (sinceDisposal past)).marked := by
  induction past with
  | nil => cases disposed
  | cons turn past ih =>
    have mark := disposed_after digestOf options past
    cases disposes : turn.request.disposes with
    | true =>
      have taken : after digestOf options (turn :: past) =
          (after digestOf options past).dispose := by
        simp only [after, take, Request.disposes_iff.mp disposes, step]
      rw [taken, sinceDisposal, if_pos disposes]
      cases earlier : past.any (·.request.disposes) with
      | true =>
        rw [earlier] at mark
        rw [dispose, if_pos mark]
        exact ih earlier
      | false =>
        rw [sinceDisposal_of_none earlier]
        exact dispose_unmarked (after_agrees digestOf options past) (mark.trans earlier)
    | false =>
      have earlier : past.any (·.request.disposes) = true := by
        simpa [disposes] using disposed
      rw [sinceDisposal, if_neg (by simp [disposes]), if_pos earlier, after, ih earlier,
        take_marked _ disposes]
      rfl

/-! ## What is released, by history -/

/-- Whether the response tells of something that is counted: a success, or a call for an edit that
failed. -/
def Response.tells : Response τ → Bool
  | .read (.ok _) _ => true
  | .read (.error _) (.incremental _ _) => true
  | _ => false

/-- Nothing is counted for a response that tells of nothing, and something for any other. -/
theorem Response.gain_eq_zero_iff (response : Response τ) (evictions : Nat)
    (room : response.tells = false → evictions = 0) :
    response.gain evictions = {} ↔ response.tells = false := by
  constructor
  · intro nothing
    have full := congrArg Counts.full nothing
    have incremental := congrArg Counts.incremental nothing
    have cached := congrArg Counts.cached nothing
    have hits := congrArg Counts.hits nothing
    have misses := congrArg Counts.misses nothing
    rcases response with _ | ⟨error | ⟨facts, route⟩, call⟩ | value | error
    · rfl
    · rcases call with _ | ⟨_ | tree, span⟩
      · rfl
      · cases misses
      · cases hits
    · cases route with
      | full => cases full
      | incremental => cases incremental
      | cached => cases cached
    · rfl
    · rfl
  · intro untold
    rw [room untold]
    rcases response with _ | ⟨error | outcome, _ | ⟨previous, span⟩⟩ | value | error
    · rfl
    · rfl
    · cases untold
    · cases untold
    · cases untold
    · rfl
    · rfl

/-- Nothing is counted exactly if no response since the counting began tells of anything. -/
theorem counts_eq_zero_iff (digestOf : String → Digest) (options : CoordinatorOptions)
    (past : List (Turn τ)) :
    (after digestOf options past).counts = {} ↔
      ∀ response ∈ responsesCounted digestOf options past, response.tells = false := by
  induction past with
  | nil => exact iff_of_true rfl (List.forall_mem_nil _)
  | cons turn past ih =>
    have agrees := after_agrees digestOf options past
    simp only [responsesCounted, ← disposed_after digestOf options past, after]
    by_cases anew : turn.request.restarts (after digestOf options past).disposed = true
    · rw [if_pos anew, take_restarts digestOf turn anew]
      exact iff_of_true rfl (List.forall_mem_nil _)
    · rw [if_neg anew, take_tallies agrees turn (Bool.not_eq_true _ ▸ anew), Counts.add_eq_zero_iff,
        ih, List.forall_mem_cons, and_comm]
      refine and_congr_left fun _ => Response.gain_eq_zero_iff _ _ fun untold => ?_
      cases event : turn.event ((after digestOf options past).take digestOf turn).1 with
      | kept path kept =>
        obtain ⟨content, read, call, -, told⟩ := Turn.event_kept event
        rw [told] at untold
        cases untold
      | _ => rfl

theorem Agrees.emptied (agrees : Agrees digestOf options coordinator ledger)
    (blank : ledger.lines = []) : coordinator.Emptied := by
  have holds := agrees.holds
  have contents := agrees.contents
  rw [blank] at holds contents
  refine ⟨?_, ⟨List.Perm.eq_nil holds.entries, holds.order⟩, ?_⟩
  · intro path
    rw [isCached, agrees.has_eq, Ledger.kept?, blank]
    rfl
  · apply List.Perm.eq_nil
    simpa [mapValues] using contents

/-- Both caches are empty exactly if no path is cached by its history. -/
theorem emptied_iff (digestOf : String → Digest) (options : CoordinatorOptions)
    (past : List (Turn τ)) :
    (after digestOf options past).Emptied ↔
      ∀ path kept,
        ¬ CachedWith (max 1 options.maxTrees) (history digestOf options past) path kept := by
  have agrees := after_agrees digestOf options past
  have recalls : Ledger.Recalls (max 1 options.maxTrees) (history digestOf options past)
      (ledgerAfter digestOf options past) :=
    Ledger.ofHistory_recalls (by omega) _
  constructor
  · intro emptied path kept cached
    have absent := emptied.uncached path
    rw [isCached, agrees.has_eq, (recalls.cached path kept).mpr cached] at absent
    cases absent
  · intro none
    apply agrees.emptied
    apply List.eq_nil_iff_forall_not_mem.mpr
    rintro ⟨path, kept⟩ member
    have found := (lookup_eq_some_iff_mem recalls.distinct).mpr member
    exact none path kept ((recalls.cached path kept).mp found)

theorem released_iff (digestOf : String → Digest) (options : CoordinatorOptions)
    (past : List (Turn τ)) :
    (after digestOf options past).Released ↔
      (∀ path kept,
        ¬ CachedWith (max 1 options.maxTrees) (history digestOf options past) path kept) ∧
      ∀ response ∈ responsesCounted digestOf options past, response.tells = false := by
  rw [Released, emptied_iff, counts_eq_zero_iff]

/-- **Only the first disposal releases anything.** After any run, a disposal that is the first leaves
no path cached, both caches empty and every count at zero; any later one leaves the coordinator
as it is. What a disposal leaves is, but for the mark, what the turns since the first disposal make
of a new coordinator. So everything is released exactly if no path is cached by the history of these
turns, and no response among them, since the counting last began, tells of a success or of a call
for an edit. -/
theorem only_first_disposal_releases (digestOf : String → Digest) (options : CoordinatorOptions)
    (past : List (Turn τ)) (parserFor : String → Parser τ) :
    let last := after digestOf options (⟨parserFor, .dispose⟩ :: past)
    let since := sinceDisposal past
    ((∀ turn ∈ past, turn.request ≠ .dispose) → last.Released) ∧
      ((∃ turn ∈ past, turn.request = .dispose) → last = after digestOf options past) ∧
      last = (after digestOf options since).marked ∧
      (last.Released ↔
        (∀ path kept,
          ¬ CachedWith (max 1 options.maxTrees) (history digestOf options since) path kept) ∧
        ∀ response ∈ responsesCounted digestOf options since, response.tells = false) := by
  intro last since
  have state : last = (after digestOf options since).marked := after_disposal digestOf options rfl
  have released : last.Released ↔ (after digestOf options since).Released := by
    rw [state, released_marked]
  refine ⟨?_, ?_, state, released.trans (released_iff digestOf options since)⟩
  · intro first
    have none : past.any (·.request.disposes) = false := by
      rw [List.any_eq_false]
      intro turn member disposes
      exact first turn member (Request.disposes_iff.mp disposes)
    rw [released, show since = [] from sinceDisposal_of_none none, released_iff]
    exact ⟨fun _ _ cached => cached, List.forall_mem_nil _⟩
  · rintro ⟨turn, member, request⟩
    have mark : (after digestOf options past).disposed = true := by
      rw [disposed_after, List.any_eq_true]
      exact ⟨turn, member, Request.disposes_iff.mpr request⟩
    exact if_pos mark

/-- A file is read and the coordinator disposed of, which releases everything. Then the file is read
again: another disposal leaves it cached and counted, unless what was read is cleared before. -/
theorem file_read_between_disposals :
    let reader : Parser String :=
      ⟨fun content _ => .ok ⟨⟨[], [], []⟩, some content⟩,
        fun content _ _ _ => .ok ⟨⟨[], [], []⟩, some content⟩⟩
    let read : Turn String := ⟨fun _ => reader, .parse "a" "x"⟩
    let dispose : Turn String := ⟨fun _ => reader, .dispose⟩
    let clear : Turn String := ⟨fun _ => reader, .clear⟩
    let options : CoordinatorOptions := ⟨2, true⟩
    (after Digest.ofText options [dispose, read]).Released ∧
      after Digest.ofText options [dispose, read, dispose, read] =
        (after Digest.ofText options [read]).marked ∧
      ¬ (after Digest.ofText options [dispose, read, dispose, read]).Released ∧
      (after Digest.ofText options [dispose, clear, read, dispose, read]).Released := by
  intro reader read dispose clear options
  obtain ⟨first, -, -, -⟩ :=
    only_first_disposal_releases Digest.ofText options [read] fun _ => reader
  obtain ⟨-, -, state, again⟩ :=
    only_first_disposal_releases Digest.ofText options [read, dispose, read] fun _ => reader
  obtain ⟨-, -, -, cleared⟩ := only_first_disposal_releases Digest.ofText options
    [clear, read, dispose, read] fun _ => reader
  refine ⟨first (by simp [read]), state, ?_, cleared.mpr ⟨?_, ?_⟩⟩
  · intro released
    exact (again.mp released).1 "a" ⟨"x", some "x"⟩ (.inl rfl)
  · rintro path kept (event | ⟨-, -, kept⟩)
    · cases event
    · exact kept .cleared
  · exact List.forall_mem_nil _

/-- A file that is read after a disposal is still there after the next one, in both caches and in
the counts. -/
theorem second_disposal_keeps_file :
    let reader : Parser String :=
      ⟨fun content _ => .ok ⟨⟨[], [], []⟩, some content⟩,
        fun content _ _ _ => .ok ⟨⟨[], [], []⟩, some content⟩⟩
    let read : Turn String := ⟨fun _ => reader, .parse "a" "x"⟩
    let dispose : Turn String := ⟨fun _ => reader, .dispose⟩
    let coordinator := after Digest.ofText ⟨2, true⟩ [dispose, read, dispose, read]
    coordinator.isCached "a" = true ∧ coordinator.trees.size = 1 ∧
      coordinator.contents = [("a", "x")] ∧ coordinator.fullParses = 1 ∧
      ¬ coordinator.Released := by
  intro reader read dispose coordinator
  have cached : coordinator.isCached "a" = true := by decide
  refine ⟨cached, by decide, by decide, by decide, ?_⟩
  intro released
  rw [released.1.uncached "a"] at cached
  cases cached

end Coordinator

end SourceFacts

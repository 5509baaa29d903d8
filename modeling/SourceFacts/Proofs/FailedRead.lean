import SourceFacts.Grammar.Rust
import SourceFacts.Proofs.Reading

/-! A read that fails takes its own path out of both caches and leaves the rest alone. When
the parser of an edit fails, the tree has been taken out already, its path is the one used
last, and the use is counted; the parsers of the other ways fail before any of this. All end
in the same coordinator, but for that count. -/
namespace SourceFacts
open Recency

namespace Call

variable {τ : Type}

/-- The trees that a call found in the cache. -/
def hits : Call τ → Nat
  | .incremental (some _) _ => 1
  | _ => 0

/-- The trees that a call looked for in vain. -/
def misses : Call τ → Nat
  | .incremental none _ => 1
  | _ => 0

end Call

namespace TreeCache

variable {τ : Type} {cache : TreeCache τ} {lines : List (String × CacheEntry τ)} {path : String}

/-- The cache without a path; the others keep their entries and their order. -/
def without (cache : TreeCache τ) (path : String) : TreeCache τ :=
  { cache with
    entries := others path cache.entries
    order := cache.order.filter (· ≠ path) }

/-- The cache with the uses of a call counted. -/
def counting (cache : TreeCache τ) (call : Call τ) : TreeCache τ :=
  { cache with hits := cache.hits + call.hits, misses := cache.misses + call.misses }

theorem without_modifyEntry (cache : TreeCache τ) (path : String)
    (change : CacheEntry τ → CacheEntry τ) :
    (cache.modifyEntry path change).without path = cache.without path := by
  have same : others path (cache.modifyEntry path change).entries = others path cache.entries := by
    simp only [modifyEntry]
    induction cache.entries with
    | nil => rfl
    | cons line rest ih =>
      obtain ⟨key, entry⟩ := line
      by_cases own : key = path
      · simpa [others, own] using ih
      · simpa [others, own] using ih
  simp only [without, same]
  rfl

theorem without_touch (cache : TreeCache τ) (path : String) :
    (cache.touch path).without path = cache.without path := by
  unfold touch
  split
  · rfl
  · simp [without, List.filter_append]

theorem without_hit (cache : TreeCache τ) (path : String) :
    (cache.hit path).without path = { cache.without path with hits := cache.hits + 1 } := by
  rw [← without_touch cache path]
  rfl

/-- Where every path of the order has an entry, a path that is not there is not in the order
either, so that removing it changes nothing. -/
theorem invalidate_eq_without (held : cache.Holds lines) (path : String) :
    (cache.invalidate path).2 = cache.without path := by
  unfold invalidate
  cases found : lines.lookup path with
  | some entry =>
    have present : cache.has path = true := by simp [held.has_eq, found]
    rw [if_pos present]
    rfl
  | none =>
    have absent : ¬ cache.has path = true := by simp [held.has_eq, found]
    have entries : others path cache.entries = cache.entries :=
      others_of_absent ((held.entry?_eq path).trans found)
    have order : cache.order.filter (· ≠ path) = cache.order := by
      rw [held.order, ← map_fst_others, others_of_absent found]
    rw [if_neg absent, without, entries, order]

/-- Whatever taking the tree of a path changed, removing the path leaves of it only the count. -/
theorem takeTree_invalidate (held : cache.Holds lines) (path : String) (span : EditSpan) :
    (TreeCache.invalidate (cache.takeTree path).2 path).2 =
      (cache.without path).counting (.incremental (cache.takeTree path).1 span) := by
  rw [takeTree_eq_find]
  cases looked : (lines.lookup path).bind CacheEntry.tree with
  | none =>
    rw [find_absent held looked, invalidate_eq_without (miss_holds held)]
    rfl
  | some tree =>
    obtain ⟨entry, found, present⟩ := Option.bind_eq_some_iff.mp looked
    obtain ⟨same, holds⟩ := find_present held found present ({ · with tree := none })
    rw [same, invalidate_eq_without holds, without_hit, without_modifyEntry]
    rfl

end TreeCache

namespace Ledger

variable {τ : Type} {capacity : Nat} {ledger : Ledger τ} {event : Event τ} {path : String}

/-- Only reading a path writes a line for it. -/
theorem write_absent (absent : ledger.kept? path = none)
    (unread : ∀ kept, event ≠ .kept path kept) :
    (ledger.write capacity event).kept? path = none := by
  have placed : ∀ other kept, other ≠ path →
      (place other kept ledger.lines).lookup path = none := by
    intro other kept different
    rw [lookup_place, if_neg (Ne.symm different)]
    exact absent
  cases event with
  | kept other kept =>
    have different : other ≠ path := by
      rintro rfl
      exact unread kept rfl
    exact (trim_sublist capacity).lookup_eq_none (placed other kept different)
  | reused other =>
    simp only [write]
    cases found : ledger.kept? other with
    | none => exact absent
    | some kept =>
      refine placed other kept ?_
      rintro rfl
      rw [absent] at found
      cases found
  | failed other => exact List.filter_sublist.lookup_eq_none absent
  | forgotten matching => exact List.filter_sublist.lookup_eq_none absent
  | cleared => rfl
  | disposed =>
    simp only [write]
    split
    · exact absent
    · rfl
  | untouched => exact absent

end Ledger

namespace Coordinator

variable {τ : Type} {digestOf : String → Digest} {options : CoordinatorOptions}
  {coordinator : Coordinator τ} {ledger : Ledger τ} {lines : List (String × CacheEntry τ)}
  {parser : Parser τ} {path content : String}

/-- The coordinator without a path: nothing else that it keeps or counts is different. -/
def without (coordinator : Coordinator τ) (path : String) : Coordinator τ :=
  { coordinator with
    trees := coordinator.trees.without path
    contents := others path coordinator.contents }

/-- The coordinator with the uses of a call counted. -/
def counting (coordinator : Coordinator τ) (call : Call τ) : Coordinator τ :=
  { coordinator with trees := coordinator.trees.counting call }

/-! ## The state that a failure leaves -/

/-- Where a read failed, it left the coordinator without its path, and counted its call. -/
def FailsCleanly (coordinator : Coordinator τ) (path : String) (answered : Answered τ) : Prop :=
  ∀ error, answered.outcome = .error error →
    answered.state = (coordinator.without path).counting answered.call

theorem invalidateOne_eq_without (held : coordinator.trees.Holds lines) (path : String) :
    coordinator.invalidateOne path = coordinator.without path := by
  simp only [invalidateOne, TreeCache.invalidate_eq_without held]
  rfl

theorem runFull_failsCleanly (held : coordinator.trees.Holds lines) (parser : Parser τ)
    (path content : String) (digest : Digest) :
    FailsCleanly coordinator path (coordinator.runFull parser path content digest) := by
  intro error failed
  unfold runFull at failed ⊢
  cases answer : parser.parse content path with
  | error error => exact invalidateOne_eq_without held path
  | ok parsed => simp [answer] at failed

theorem runCached_failsCleanly (held : coordinator.trees.Holds lines) (parser : Parser τ)
    (path content : String) :
    FailsCleanly coordinator path (coordinator.runCached parser path content) := by
  intro error failed
  unfold runCached at failed ⊢
  cases answer : parser.parse content path with
  | error error => exact invalidateOne_eq_without held path
  | ok parsed => simp [answer] at failed

theorem runIncremental_failsCleanly (held : coordinator.trees.Holds lines) (parser : Parser τ)
    (path content : String) (digest : Digest) (edit : Edit) :
    FailsCleanly coordinator path
      (coordinator.runIncremental parser path content digest edit) := by
  intro error failed
  unfold runIncremental at failed ⊢
  simp only at failed ⊢
  generalize edit.locate ((coordinator.content? path).getD "") content = span at failed ⊢
  cases answer : parser.reparse content path (coordinator.trees.takeTree path).1 span with
  | error error =>
    simp only [invalidateOne, TreeCache.takeTree_invalidate held path span]
    rfl
  | ok parsed => simp [answer] at failed

theorem parse_failsCleanly (held : coordinator.trees.Holds lines) (digestOf : String → Digest)
    (parser : Parser τ) (path content : String) :
    FailsCleanly coordinator path (coordinator.parse digestOf parser path content) := by
  unfold Coordinator.parse
  simp only
  cases coordinator.strategy path content (digestOf content) with
  | cached => exact runCached_failsCleanly held parser path content
  | incremental edit => exact runIncremental_failsCleanly held parser path content _ edit
  | full => exact runFull_failsCleanly held parser path content _

theorem parseWithEdit_failsCleanly (held : coordinator.trees.Holds lines)
    (digestOf : String → Digest) (parser : Parser τ) (path content : String) (edit : Edit) :
    FailsCleanly coordinator path
      (coordinator.parseWithEdit digestOf parser path content edit) := by
  unfold Coordinator.parseWithEdit
  simp only
  split
  · exact runIncremental_failsCleanly held parser path content _ edit
  · exact runFull_failsCleanly held parser path content _

theorem take_failsCleanly (held : coordinator.trees.Holds lines) {turn : Turn τ}
    (target : turn.request.target? = some (path, content)) {error : Error} {call : Call τ}
    (response : (coordinator.take digestOf turn).1 = .read (.error error) call) :
    (coordinator.take digestOf turn).2 = (coordinator.without path).counting call := by
  obtain ⟨parserFor, request⟩ := turn
  cases request with
  | parse other text =>
    cases target
    obtain ⟨outcome, rfl⟩ := Response.read.inj response
    exact parse_failsCleanly held digestOf (parserFor path) path content error outcome
  | parseWithEdit other text edit =>
    cases target
    obtain ⟨outcome, rfl⟩ := Response.read.inj response
    exact parseWithEdit_failsCleanly held digestOf (parserFor path) path content edit error outcome
  | _ => cases target

/-! ## What comes after a failure -/

/-- In these later turns of a run, the latest first, no read of a path succeeds. -/
def Unread (digestOf : String → Digest) (options : CoordinatorOptions) (past : List (Turn τ))
    (path : String) : List (Turn τ) → Prop
  | [] => True
  | turn :: later =>
    Unread digestOf options past path later ∧
      ∀ content, turn.request.target? = some (path, content) → ∀ read call,
        ((after digestOf options (later ++ past)).take digestOf turn).1 ≠ .read (.ok read) call

/-- Only a successful read of a path is written down as its line. -/
theorem Turn.event_kept {turn : Turn τ} {response : Response τ} {kept : Kept τ}
    (event : turn.event response = .kept path kept) :
    ∃ content read call, turn.request.target? = some (path, content) ∧
      response = .read (.ok read) call := by
  have succeeded : ∀ parser other content outcome call,
      Event.ofRead parser other content outcome call = .kept path kept →
        other = path ∧ ∃ read, outcome = .ok read := by
    intro parser other content outcome call event
    cases outcome with
    | error error => cases event
    | ok read =>
      simp only [Event.ofRead] at event
      split at event
      · cases event
      · cases event
        exact ⟨rfl, read, rfl⟩
  obtain ⟨parserFor, request⟩ := turn
  cases request with
  | parse other content =>
    cases response with
    | read outcome call =>
      obtain ⟨rfl, read, rfl⟩ := succeeded _ _ _ _ _ event
      exact ⟨content, read, call, rfl, rfl⟩
    | _ => cases event
  | parseWithEdit other content edit =>
    cases response with
    | read outcome call =>
      obtain ⟨rfl, read, rfl⟩ := succeeded _ _ _ _ _ event
      exact ⟨content, read, call, rfl, rfl⟩
    | _ => cases event
  | invalidateMatching compile pattern =>
    simp only [Turn.event] at event
    split at event <;> cases event
  | _ => cases event

/-- A path that is not cached stays so until a read of it succeeds. -/
theorem absent_while_unread {past later : List (Turn τ)}
    (absent : (ledgerAfter digestOf options past).kept? path = none)
    (unread : Unread digestOf options past path later) :
    (ledgerAfter digestOf options (later ++ past)).kept? path = none := by
  induction later with
  | nil => exact absent
  | cons turn later ih =>
    obtain ⟨earlier, fails⟩ := unread
    refine Ledger.write_absent (ih earlier) ?_
    intro kept event
    obtain ⟨content, read, call, target, response⟩ := Turn.event_kept event
    exact fails content target read call response

/-- Without anything cached for its path, a content is read in full, with or without an edit. -/
theorem reads_in_full (agrees : Agrees digestOf options coordinator ledger)
    (absent : ledger.kept? path = none) (parser : Parser τ) (content : String) (edit : Edit) :
    coordinator.parse digestOf parser path content =
        coordinator.runFull parser path content (digestOf content) ∧
      coordinator.parseWithEdit digestOf parser path content edit =
        coordinator.runFull parser path content (digestOf content) := by
  have nothing : remembered? options ledger path = none := by
    simp [remembered?, absent]
  constructor
  · simp only [Coordinator.parse, strategy_eq agrees, nothing, chosen]
  · simp [Coordinator.parseWithEdit, isConsistent_eq agrees, nothing]

/-- **A failed read drops only its own path.** After any run, take a turn that reads a path. If
the parser answers its call with an error, that error is the outcome. The coordinator is then
the one before without this path, with no tree and no content for it; of all the rest only the
uses of the cache may be counted higher, by one at most, and only where the call was for an edit.
As long as no read of the path succeeds, the next one is in full. -/
theorem failed_read_drops_only_its_path (digestOf : String → Digest)
    (options : CoordinatorOptions) (past : List (Turn τ)) (turn : Turn τ) (path content : String)
    (target : turn.request.target? = some (path, content)) :
    let before := after digestOf options past
    let failed := after digestOf options (turn :: past)
    ∃ outcome call, (before.take digestOf turn).1 = .read outcome call ∧
      ∀ error, call.ask (turn.parserFor path) path content = .error error →
        outcome = .error error ∧
        failed = (before.without path).counting call ∧
        (failed.trees.entry? path = none ∧ failed.content? path = none) ∧
        (call.hits + call.misses ≤ 1 ∧ (call = .full → call.hits = 0 ∧ call.misses = 0)) ∧
        ∀ later, Unread digestOf options (turn :: past) path later →
          let next := after digestOf options (later ++ turn :: past)
          ∀ parser text edit,
            next.parse digestOf parser path text =
                next.runFull parser path text (digestOf text) ∧
              next.parseWithEdit digestOf parser path text edit =
                next.runFull parser path text (digestOf text) := by
  intro before failed
  have agrees := after_agrees digestOf options past
  obtain ⟨plan, answered, carries, -, taken, event⟩ := take_reads agrees turn target
  have response : (before.take digestOf turn).1 = .read answered.outcome answered.call :=
    congrArg Prod.fst taken
  refine ⟨answered.outcome, answered.call, response, ?_⟩
  intro error answer
  have outcome : answered.outcome = .error error := by
    rw [carries.outcome, ← carries.call, answer]
    rfl
  rw [outcome] at response event
  have absent : (ledgerAfter digestOf options (turn :: past)).kept? path = none := by
    simp only [ledgerAfter, history, Ledger.ofHistory, event, Event.ofRead, Ledger.write,
      Ledger.kept?, lookup_others, ↓reduceIte]
  have left := after_agrees digestOf options (turn :: past)
  refine ⟨outcome, take_failsCleanly agrees.holds target response, ⟨?_, ?_⟩, ?_, ?_⟩
  · rw [left.entry?_eq, absent]
    rfl
  · simp [failed, left.content?_eq, absent]
  · rcases answered.call with _ | ⟨_ | tree, span⟩ <;> simp [Call.hits, Call.misses]
  · intro later unread next parser text edit
    exact reads_in_full (after_agrees digestOf options (later ++ turn :: past))
      (absent_while_unread absent unread) parser text edit

/-- Two files are cached and the edit of one cannot be read: the tree that it had is counted as
found, the other file stays, and after that one was looked at again the first is read in full. -/
theorem broken_edit_drops_file :
    let broken : Parser SyntaxTree :=
      ⟨fun _ _ => .error (.parse "?"), fun _ _ _ _ => .error (.parse "?")⟩
    let past : List (Turn SyntaxTree) :=
      [⟨fun _ => Grammar.rust.parser, .parse "b.rs" "fn b() {}"⟩,
        ⟨fun _ => Grammar.rust.parser, .parse "a.rs" "fn a() {}"⟩]
    let turn : Turn SyntaxTree := ⟨fun _ => broken, .parseWithEdit "a.rs" "fn c() {}" ⟨3, 4, "c"⟩⟩
    let again : Turn SyntaxTree := ⟨fun _ => Grammar.rust.parser, .parse "b.rs" "fn b() {}"⟩
    let failed := after Digest.ofText ⟨2, true⟩ (turn :: past)
    let next := after Digest.ofText ⟨2, true⟩ (again :: turn :: past)
    turn.request.target? = some ("a.rs", "fn c() {}") ∧
      Unread Digest.ofText ⟨2, true⟩ (turn :: past) "a.rs" [again] ∧
      failed.isCached "a.rs" = false ∧ failed.isCached "b.rs" = true ∧ failed.trees.hits = 1 ∧
      next.parse Digest.ofText Grammar.rust.parser "a.rs" "fn a() {}" =
        next.runFull Grammar.rust.parser "a.rs" "fn a() {}" (Digest.ofText "fn a() {}") := by
  intro broken past turn again failed next
  have target : turn.request.target? = some ("a.rs", "fn c() {}") := rfl
  have elsewhere : Unread Digest.ofText ⟨2, true⟩ (turn :: past) "a.rs" [again] := by
    refine ⟨trivial, ?_⟩
    intro content reads
    simp [again, Request.target?] at reads
  obtain ⟨outcome, call, response, fails⟩ :=
    failed_read_drops_only_its_path Digest.ofText ⟨2, true⟩ past turn "a.rs" "fn c() {}" target
  obtain ⟨-, state, ⟨gone, -⟩, -, later⟩ := fails (.parse "?") (by cases call <;> rfl)
  refine ⟨target, elsewhere, ?_, ?_, ?_, ?_⟩
  · rw [isCached, TreeCache.has, gone]
    rfl
  · have kept : ((after Digest.ofText ⟨2, true⟩ past).without "a.rs").isCached "b.rs" = true := by
      decide
    rw [show failed = _ from state]
    exact kept
  · decide
  · exact (later [again] elsewhere Grammar.rust.parser "fn a() {}" ⟨0, 0, ""⟩).1

end Coordinator

end SourceFacts

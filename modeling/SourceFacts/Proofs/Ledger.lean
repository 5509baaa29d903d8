import SourceFacts.Coordinator
import SourceFacts.Proofs.CacheRecency

/-! What a coordinator knows is a function of what has happened to it. A ledger has one
line for each cached path, in order of use, with the content that was last read and the
tree that the parser gave for it. It is written from the outside, from requests and
responses alone; the two caches of the coordinator always agree with it. -/
namespace SourceFacts
open Recency

/-- What the last read of a path left: its content, and the tree of that content. -/
structure Kept (τ : Type) where
  content : String
  tree : Option τ

namespace Kept

variable {τ : Type}

/-- The entry of a tree cache for what was kept. -/
def entry (digestOf : String → Digest) (kept : Kept τ) : CacheEntry τ :=
  ⟨kept.tree, digestOf kept.content⟩

end Kept

namespace Call

variable {τ : Type}

/-- What a parser answers to a call. -/
def ask (parser : Parser τ) (path content : String) : Call τ → Except Error (Parsed τ)
  | .full => parser.parse content path
  | .incremental previous span => parser.reparse content path previous span

end Call

/-- Something that happened, as far as it bears on what is cached. -/
inductive Event (τ : Type) where
  /-- A path was read in full or as an edit. -/
  | kept (path : String) (kept : Kept τ)
  /-- A cached content was looked at again. -/
  | reused (path : String)
  /-- A read of a path failed. -/
  | failed (path : String)
  /-- Some paths were invalidated. -/
  | forgotten (matching : String → Bool)
  | cleared
  | disposed
  | untouched

/-- What a read of a path amounts to, by its outcome and the call that its parser had. -/
def Event.ofRead {τ : Type} (parser : Parser τ) (path content : String)
    (outcome : Except Error Outcome) (call : Call τ) : Event τ :=
  match outcome with
  | .error _ => .failed path
  | .ok outcome =>
    match outcome.route with
    | .cached => .reused path
    | _ => .kept path ⟨content, (call.ask parser path content).toOption.bind Parsed.tree⟩

/-- A read that did not find its content cached keeps what its parser gave. -/
theorem Event.ofRead_fresh {τ : Type} {parser : Parser τ} {path content : String} {call : Call τ}
    {parsed : Parsed τ} {route : Route} (answer : call.ask parser path content = .ok parsed)
    (fresh : route ≠ .cached) (facts : Facts) :
    Event.ofRead parser path content (.ok ⟨facts, route⟩) call =
      .kept path ⟨content, parsed.tree⟩ := by
  cases route with
  | cached => exact absurd rfl fresh
  | incremental => simp [Event.ofRead, answer, Except.toOption]
  | full => simp [Event.ofRead, answer, Except.toOption]

/-- One line for each cached path, the least recently used first. -/
structure Ledger (τ : Type) where
  lines : List (String × Kept τ)
  disposed : Bool

namespace Ledger

variable {τ : Type}

/-- A ledger in which nothing is written. -/
def blank : Ledger τ := ⟨[], false⟩

/-- What is cached for a path. -/
def kept? (ledger : Ledger τ) (path : String) : Option (Kept τ) := ledger.lines.lookup path

/-- Writes down what happened. What was read is used last, and where there are more lines than
fit, the least recently used one is evicted; only a first disposal clears. -/
def write (capacity : Nat) (ledger : Ledger τ) : Event τ → Ledger τ
  | .kept path kept => { ledger with lines := trim capacity (place path kept ledger.lines) }
  | .reused path =>
    match ledger.kept? path with
    | some kept => { ledger with lines := place path kept ledger.lines }
    | none => ledger
  | .failed path => { ledger with lines := others path ledger.lines }
  | .forgotten matching =>
    { ledger with lines := ledger.lines.filter fun line => !matching line.1 }
  | .cleared => { ledger with lines := [] }
  | .disposed => if ledger.disposed then ledger else ⟨[], true⟩
  | .untouched => ledger

/-- Every line of a ledger was written when its path was read, so what is true of all that is
read is true of every line. -/
theorem write_lines {capacity : Nat} {ledger : Ledger τ} {event : Event τ}
    {holds : String → Kept τ → Prop} (held : ∀ line ∈ ledger.lines, holds line.1 line.2)
    (fresh : ∀ path kept, event = .kept path kept → holds path kept) :
    ∀ line ∈ (ledger.write capacity event).lines, holds line.1 line.2 := by
  have placed : ∀ path kept, holds path kept →
      ∀ line ∈ place path kept ledger.lines, holds line.1 line.2 := by
    intro path kept new line member
    rcases List.mem_append.mp member with earlier | last
    · exact held line (List.mem_of_mem_filter earlier)
    · rw [List.mem_singleton.mp last]
      exact new
  cases event with
  | kept path kept =>
    intro line member
    exact placed path kept (fresh path kept rfl) line ((trim_sublist capacity).subset member)
  | reused path =>
    simp only [write]
    cases found : ledger.kept? path with
    | some kept =>
      obtain ⟨front, back, shape, -⟩ := List.lookup_eq_some_iff.mp found
      exact placed path kept (held (path, kept) (by simp [shape]))
    | none => exact held
  | failed path => exact fun line member => held line (List.mem_of_mem_filter member)
  | forgotten matching => exact fun line member => held line (List.mem_of_mem_filter member)
  | cleared => simp [write]
  | disposed =>
    simp only [write]
    split
    · exact held
    · simp
  | untouched => exact held

/-- The ledger of a history, the latest event first. -/
def ofHistory (capacity : Nat) : List (Event τ) → Ledger τ
  | [] => blank
  | event :: past => (ofHistory capacity past).write capacity event

end Ledger

namespace Coordinator

variable {τ : Type}

/-- A request and the parsers that stand by for it. They need not be those of another turn. -/
structure Turn (τ : Type) where
  parserFor : String → Parser τ
  request : Request

/-- What a turn amounts to, by its response. -/
def Turn.event (turn : Turn τ) (response : Response τ) : Event τ :=
  match turn.request, response with
  | .parse path content, .read outcome call =>
    .ofRead (turn.parserFor path) path content outcome call
  | .parseWithEdit path content _, .read outcome call =>
    .ofRead (turn.parserFor path) path content outcome call
  | .invalidate paths, _ => .forgotten (· ∈ paths)
  | .invalidateWhere matching, _ => .forgotten matching
  | .invalidateMatching compile pattern, _ =>
    match compile pattern with
    | .ok matching => .forgotten matching
    | .error _ => .untouched
  | .clear, _ => .cleared
  | .dispose, _ => .disposed
  | _, _ => .untouched

/-- Takes a turn. -/
def take (digestOf : String → Digest) (coordinator : Coordinator τ) (turn : Turn τ) :
    Response τ × Coordinator τ :=
  coordinator.step digestOf turn.parserFor turn.request

/-- The coordinator after the turns of a run, the latest first. -/
def after (digestOf : String → Digest) (options : CoordinatorOptions) :
    List (Turn τ) → Coordinator τ
  | [] => .new options
  | turn :: past => ((after digestOf options past).take digestOf turn).2

/-- What happened in the turns of a run, the latest first. -/
def history (digestOf : String → Digest) (options : CoordinatorOptions) :
    List (Turn τ) → List (Event τ)
  | [] => []
  | turn :: past =>
    turn.event ((after digestOf options past).take digestOf turn).1 ::
      history digestOf options past

/-- The successful reads by route since counting began. -/
def parses (coordinator : Coordinator τ) : Route → Nat
  | .cached => coordinator.cachedParses
  | .incremental => coordinator.incrementalParses
  | .full => coordinator.fullParses

/-- Both caches of a coordinator have exactly the lines of a ledger; without the keeping of
contents there are none of these. -/
structure Agrees (digestOf : String → Digest) (options : CoordinatorOptions)
    (coordinator : Coordinator τ) (ledger : Ledger τ) : Prop where
  configured : coordinator.options = options
  holds : coordinator.trees.Holds (mapValues (Kept.entry digestOf) ledger.lines)
  contents : coordinator.contents.Perm
    (if options.cacheContent then mapValues Kept.content ledger.lines else [])
  capacity : coordinator.trees.capacity = max 1 options.maxTrees
  bounded : ledger.lines.length ≤ max 1 options.maxTrees
  disposed : coordinator.disposed = ledger.disposed

variable {digestOf : String → Digest} {options : CoordinatorOptions}
  {coordinator : Coordinator τ} {ledger : Ledger τ} {path content : String} {kept : Kept τ}

theorem new_agrees (digestOf : String → Digest) (options : CoordinatorOptions) :
    Agrees digestOf options (Coordinator.new (τ := τ) options) .blank where
  configured := rfl
  holds := TreeCache.new_holds options.maxTrees
  contents := by cases options.cacheContent <;> exact List.Perm.nil
  capacity := rfl
  bounded := Nat.zero_le _
  disposed := rfl

namespace Agrees

theorem distinct (agrees : Agrees digestOf options coordinator ledger) : Distinct ledger.lines :=
  distinct_mapValues.mp agrees.holds.distinct

theorem entry?_eq (agrees : Agrees digestOf options coordinator ledger) (path : String) :
    coordinator.trees.entry? path = (ledger.kept? path).map (Kept.entry digestOf) := by
  rw [agrees.holds.entry?_eq, lookup_mapValues, Ledger.kept?]

theorem has_eq (agrees : Agrees digestOf options coordinator ledger) (path : String) :
    coordinator.trees.has path = (ledger.kept? path).isSome := by
  rw [agrees.holds.has_eq, lookup_mapValues, Option.isSome_map, Ledger.kept?]

theorem size_eq (agrees : Agrees digestOf options coordinator ledger) :
    coordinator.trees.size = ledger.lines.length := by
  rw [agrees.holds.size_eq]
  simp [mapValues]

theorem contents_nil (agrees : Agrees digestOf options coordinator ledger)
    (off : options.cacheContent = false) : coordinator.contents = [] := by
  have contents := agrees.contents
  rw [off] at contents
  exact List.Perm.eq_nil contents

theorem content?_eq (agrees : Agrees digestOf options coordinator ledger) (path : String) :
    coordinator.content? path =
      if options.cacheContent then (ledger.kept? path).map Kept.content else none := by
  rw [content?]
  cases on : options.cacheContent with
  | true =>
    have contents := agrees.contents
    rw [on] at contents
    rw [lookup_perm (distinct_mapValues.mpr agrees.distinct) contents, lookup_mapValues]
    rfl
  | false =>
    rw [agrees.contents_nil on]
    rfl

/-- Only the caches, the options and the mark of disposal count. -/
theorem of_same {later : Coordinator τ} (agrees : Agrees digestOf options coordinator ledger)
    (configured : later.options = coordinator.options) (trees : later.trees = coordinator.trees)
    (contents : later.contents = coordinator.contents)
    (disposed : later.disposed = coordinator.disposed) :
    Agrees digestOf options later ledger where
  configured := configured.trans agrees.configured
  holds := trees ▸ agrees.holds
  contents := contents ▸ agrees.contents
  capacity := trees ▸ agrees.capacity
  bounded := agrees.bounded
  disposed := disposed.trans agrees.disposed

end Agrees

/-! ## Storing and forgetting -/

theorem putContent_perm (agrees : Agrees digestOf options coordinator ledger)
    (on : options.cacheContent = true) (path content : String) (tree : Option τ) :
    (putContent coordinator.contents path content).Perm
      (mapValues Kept.content (place path ⟨content, tree⟩ ledger.lines)) := by
  have contents := agrees.contents
  rw [if_pos on] at contents
  have distinct : Distinct (mapValues Kept.content ledger.lines) :=
    distinct_mapValues.mpr agrees.distinct
  have looked := lookup_perm distinct contents path
  rw [mapValues_place]
  unfold putContent
  cases found : (mapValues Kept.content ledger.lines).lookup path with
  | some old =>
    rw [looked, found, if_pos (by simp)]
    exact perm_update distinct contents found fun _ => content
  | none =>
    rw [looked, found, if_neg (by simp), place, others_of_absent found]
    exact contents.append_right _

/-- Dropping the contents whose tree is gone, where there are more contents than trees, leaves
those of the lines that fit. -/
theorem keep_contents {trees : TreeCache τ} {lines : List (String × Kept τ)} {capacity : Nat}
    {contents : List (String × String)} (distinct : Distinct lines)
    (holds : trees.Holds (mapValues (Kept.entry digestOf) (trim capacity lines)))
    (same : contents.Perm (mapValues Kept.content lines)) :
    (if trees.size < contents.length then contents.filter (trees.has ·.1) else contents).Perm
      (mapValues Kept.content (trim capacity lines)) := by
  have size : trees.size = (trim capacity lines).length := by
    rw [holds.size_eq]
    simp [mapValues]
  have count : contents.length = lines.length := by
    rw [same.length_eq]
    simp [mapValues]
  split
  · have present : ∀ path, trees.has path = ((trim capacity lines).lookup path).isSome := by
      intro path
      rw [holds.has_eq, lookup_mapValues, Option.isSome_map]
    have left := same.filter fun line => ((trim capacity lines).lookup line.1).isSome
    rw [← mapValues_filter Kept.content (fun path => ((trim capacity lines).lookup path).isSome),
      filter_trim distinct] at left
    simpa only [present] using left
  · rename_i enough
    have whole : trim capacity lines = lines := by
      apply (trim_sublist capacity).eq_of_length_le
      omega
    rw [whole]
    exact same

/-- Storing what was read writes its line; where a tree gives way, so does its content. -/
theorem store_agrees (agrees : Agrees digestOf options coordinator ledger)
    (path content : String) (tree : Option τ) :
    Agrees digestOf options (coordinator.store path content tree (digestOf content))
      (ledger.write (max 1 options.maxTrees) (.kept path ⟨content, tree⟩)) := by
  have bounded : (mapValues (Kept.entry digestOf) ledger.lines).length ≤
      coordinator.trees.capacity := by
    rw [agrees.capacity]
    simpa [mapValues] using agrees.bounded
  have holds := TreeCache.set_holds agrees.holds bounded path tree (digestOf content)
  have mapped := mapValues_place (Kept.entry digestOf) path ⟨content, tree⟩ ledger.lines
  rw [agrees.capacity, show (⟨tree, digestOf content⟩ : CacheEntry τ) =
    Kept.entry digestOf ⟨content, tree⟩ from rfl, ← mapped, ← mapValues_trim] at holds
  refine ⟨agrees.configured, holds, ?_, ?_, length_trim_le _, agrees.disposed⟩
  · simp only [store, agrees.configured]
    cases on : options.cacheContent with
    | true =>
      exact keep_contents (distinct_place agrees.distinct) holds
        (putContent_perm agrees on path content tree)
    | false => simp [agrees.contents_nil on]
  · rw [← agrees.capacity]
    exact TreeCache.set_capacity ..

/-- Forgetting by path drops the lines that match, in both caches. -/
theorem filter_agrees (agrees : Agrees digestOf options coordinator ledger)
    {later : Coordinator τ} (keep : String → Bool)
    (holds : later.trees.Holds
      ((mapValues (Kept.entry digestOf) ledger.lines).filter (keep ·.1)))
    (contents : later.contents = coordinator.contents.filter (keep ·.1))
    (configured : later.options = coordinator.options)
    (capacity : later.trees.capacity = coordinator.trees.capacity)
    (disposed : later.disposed = coordinator.disposed) :
    Agrees digestOf options later { ledger with lines := ledger.lines.filter (keep ·.1) } where
  configured := configured.trans agrees.configured
  holds := by rw [mapValues_filter]; exact holds
  contents := by
    have left := agrees.contents.filter (keep ·.1)
    rw [contents]
    cases on : options.cacheContent with
    | true =>
      rw [on] at left
      simpa only [↓reduceIte, mapValues_filter] using left
    | false =>
      rw [on] at left
      exact left
  capacity := capacity.trans agrees.capacity
  bounded := Nat.le_trans (List.length_filter_le _ _) agrees.bounded
  disposed := disposed.trans agrees.disposed

theorem invalidateOne_agrees (agrees : Agrees digestOf options coordinator ledger)
    (path : String) :
    Agrees digestOf options (coordinator.invalidateOne path)
      { ledger with lines := others path ledger.lines } :=
  filter_agrees agrees (fun other => decide (other ≠ path))
    (TreeCache.invalidate_holds agrees.holds path).2 rfl rfl
    (TreeCache.invalidate_capacity ..) rfl

theorem invalidate_agrees (agrees : Agrees digestOf options coordinator ledger)
    (paths : List String) :
    Agrees digestOf options (coordinator.invalidate paths)
      { ledger with lines := ledger.lines.filter fun line => !decide (line.1 ∈ paths) } := by
  unfold invalidate
  induction paths generalizing coordinator ledger with
  | nil => simpa using agrees
  | cons path rest ih =>
    have next := ih (invalidateOne_agrees agrees path)
    simp only [others, List.filter_filter] at next
    simpa [Bool.and_comm] using next

theorem invalidateWhere_agrees (agrees : Agrees digestOf options coordinator ledger)
    (matching : String → Bool) :
    Agrees digestOf options (coordinator.invalidateWhere matching).2
      { ledger with lines := ledger.lines.filter fun line => !matching line.1 } :=
  filter_agrees agrees (fun path => !matching path)
    (TreeCache.invalidateWhere_holds agrees.holds matching).2 rfl rfl rfl rfl

theorem lookup_entry (found : ledger.kept? path = some kept) :
    (mapValues (Kept.entry digestOf) ledger.lines).lookup path = some (kept.entry digestOf) := by
  rw [lookup_mapValues]
  exact congrArg (Option.map (Kept.entry digestOf)) found

/-- A use of a path that is there makes its line the last one, whatever tree it leaves. -/
theorem use_agrees (agrees : Agrees digestOf options coordinator ledger)
    (found : ledger.kept? path = some kept) {trees : TreeCache τ} (tree : Option τ)
    (holds : trees.Holds (place path ⟨tree, digestOf kept.content⟩
      (mapValues (Kept.entry digestOf) ledger.lines)))
    (capacity : trees.capacity = coordinator.trees.capacity) :
    Agrees digestOf options { coordinator with trees }
      { ledger with lines := place path { kept with tree } ledger.lines } where
  configured := agrees.configured
  holds := by rw [mapValues_place]; exact holds
  contents := by
    have contents := agrees.contents
    cases on : options.cacheContent with
    | true =>
      rw [on] at contents
      have same : (mapValues Kept.content ledger.lines).lookup path = some kept.content := by
        rw [lookup_mapValues]
        exact congrArg (Option.map Kept.content) found
      rw [if_pos rfl, mapValues_place]
      exact contents.trans (perm_place (distinct_mapValues.mpr agrees.distinct) same)
    | false =>
      rw [on] at contents
      exact contents
  capacity := capacity.trans agrees.capacity
  bounded := by
    rw [length_place_of_present agrees.distinct found]
    exact agrees.bounded
  disposed := agrees.disposed

theorem markUsed_agrees (agrees : Agrees digestOf options coordinator ledger)
    (found : ledger.kept? path = some kept) :
    Agrees digestOf options
      { coordinator with trees := (coordinator.trees.markUsed path).2 }
      { ledger with lines := place path kept ledger.lines } := by
  have present : coordinator.trees.has path = true := by simp [agrees.has_eq, found]
  rw [TreeCache.markUsed, if_pos present]
  exact use_agrees agrees found kept.tree (TreeCache.hit_holds agrees.holds (lookup_entry found))
    TreeCache.hit_capacity

/-- Taking the tree of a path hands out what was kept, and changes the line of that path only. -/
theorem takeTree_agrees (agrees : Agrees digestOf options coordinator ledger)
    (found : ledger.kept? path = some kept) :
    (coordinator.trees.takeTree path).1 = kept.tree ∧
      ∃ lines, others path lines = others path ledger.lines ∧
        Agrees digestOf options
          { coordinator with trees := (coordinator.trees.takeTree path).2 }
          { ledger with lines } := by
  have looked : (mapValues (Kept.entry digestOf) ledger.lines).lookup path =
      some (kept.entry digestOf) := lookup_entry found
  rw [TreeCache.takeTree_eq_find]
  cases present : kept.tree with
  | none =>
    rw [TreeCache.find_absent agrees.holds (by simp [looked, Kept.entry, present])]
    refine ⟨rfl, ledger.lines, rfl, ?_⟩
    exact ⟨agrees.configured, TreeCache.miss_holds agrees.holds, agrees.contents,
      agrees.capacity, agrees.bounded, agrees.disposed⟩
  | some tree =>
    obtain ⟨same, holds⟩ := TreeCache.find_present agrees.holds looked
      (show (kept.entry digestOf).tree = some tree from present) ({ · with tree := none })
    have capacity := TreeCache.find_capacity coordinator.trees path ({ · with tree := none })
    rw [same] at capacity ⊢
    exact ⟨rfl, _, others_place, use_agrees agrees found none holds capacity⟩

theorem clear_agrees (agrees : Agrees digestOf options coordinator ledger) :
    Agrees digestOf options coordinator.clear { ledger with lines := [] } where
  configured := agrees.configured
  holds := TreeCache.clear_holds coordinator.trees |>.of_same rfl rfl
  contents := by cases options.cacheContent <;> exact List.Perm.nil
  capacity := agrees.capacity
  bounded := Nat.zero_le _
  disposed := agrees.disposed

theorem dispose_agrees (agrees : Agrees digestOf options coordinator ledger) :
    Agrees digestOf options coordinator.dispose
      (ledger.write (max 1 options.maxTrees) .disposed) := by
  unfold dispose Ledger.write
  rw [agrees.disposed]
  split
  · exact agrees
  · have cleared := clear_agrees agrees
    exact ⟨cleared.configured, cleared.holds, cleared.contents, cleared.capacity,
      cleared.bounded, rfl⟩

end Coordinator

end SourceFacts

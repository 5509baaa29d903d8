import Mathlib.Data.Set.Card
import SourceFacts.Proofs.CacheMirror
import SourceFacts.Proofs.UseOrder

/-! Forgetting many paths at once is forgetting them one by one. At once, the entries, the order of use
and the contents are each filtered for themselves, and the count is a difference of lengths; one by one,
a path is looked for first and counted where it is found. Both come to the same because the three
containers have the same paths, each of them once. -/
namespace SourceFacts
open Recency

namespace TreeCache

variable {τ : Type} {cache : TreeCache τ} {lines : List (String × CacheEntry τ)}
  {matching other : String → Bool} {path : String} {paths : List String}

/-- The list has every cached path that matches and no cached path that does not. It may repeat some,
and have others that are not cached. -/
def Lists (cache : TreeCache τ) (matching : String → Bool) (paths : List String) : Prop :=
  ∀ path, cache.has path = true → (path ∈ paths ↔ matching path = true)

/-- What is left of a cache without the paths that match, and the number of those. -/
structure Forgets (cache : TreeCache τ) (matching : String → Bool) (count : Nat)
    (later : TreeCache τ) : Prop where
  count : count = {path | cache.has path = true ∧ later.has path = false}.ncard
  entries : ∀ path, later.entry? path = if matching path then none else cache.entry? path
  order : later.order = cache.order.filter later.has
  capacity : later.capacity = cache.capacity
  uses : later.hits = cache.hits ∧ later.misses = cache.misses
  evictions : later.evictions = cache.evictions

/-! ## At once -/

theorem Holds.has_of_mem (held : cache.Holds lines) {entry : String × CacheEntry τ}
    (member : entry ∈ cache.entries) : cache.has entry.1 = true := by
  rw [held.has_eq, isSome_lookup]
  exact List.mem_map_of_mem (held.entries.mem_iff.mp member)

/-- Only cached paths count. -/
theorem Holds.invalidateWhere_congr (held : cache.Holds lines)
    (same : ∀ path, cache.has path = true → matching path = other path) :
    cache.invalidateWhere matching = cache.invalidateWhere other := by
  have entries : cache.entries.filter (fun entry => !matching entry.1) =
      cache.entries.filter fun entry => !other entry.1 := by
    apply List.filter_congr
    intro entry member
    rw [same entry.1 (held.has_of_mem member)]
  have order : cache.order.filter (fun path => !matching path) =
      cache.order.filter fun path => !other path := by
    apply List.filter_congr
    intro path member
    rw [same path ((held.mem_order path).mp member)]
  rw [invalidateWhere, invalidateWhere, entries, order]

theorem invalidateWhere_twice (cache : TreeCache τ) (matching other : String → Bool) :
    cache.invalidateWhere (fun path => matching path || other path) =
      ((cache.invalidateWhere matching).1 +
          ((cache.invalidateWhere matching).2.invalidateWhere other).1,
        ((cache.invalidateWhere matching).2.invalidateWhere other).2) := by
  have entries : cache.entries.filter (fun entry => !(matching entry.1 || other entry.1)) =
      (cache.entries.filter fun entry => !matching entry.1).filter fun entry => !other entry.1 := by
    simp only [List.filter_filter, Bool.not_or, Bool.and_comm]
  have order : cache.order.filter (fun path => !(matching path || other path)) =
      (cache.order.filter fun path => !matching path).filter fun path => !other path := by
    simp only [List.filter_filter, Bool.not_or, Bool.and_comm]
  have first := List.length_filter_le (fun entry => !matching entry.1) cache.entries
  have second := List.length_filter_le (fun entry => !other entry.1)
    (cache.entries.filter fun entry => !matching entry.1)
  simp only [invalidateWhere, size, entries, order, Prod.mk.injEq, and_true]
  omega

theorem invalidateWhere_nothing (cache : TreeCache τ) :
    cache.invalidateWhere (fun _ => false) = (0, cache) := by
  simp [invalidateWhere, size]

/-! ## One by one -/

/-- A path that is not cached stands in no container, and one that is cached has one entry. -/
theorem Holds.invalidate_eq (held : cache.Holds lines) (path : String) :
    ((cache.invalidate path).1.toNat, (cache.invalidate path).2) =
      cache.invalidateWhere fun other => decide (other = path) := by
  cases found : lines.lookup path with
  | none =>
    have absent : cache.has path = false := by rw [held.has_eq, found]; rfl
    have nothing : cache.invalidateWhere (fun other => decide (other = path)) = (0, cache) := by
      rw [← invalidateWhere_nothing]
      apply held.invalidateWhere_congr
      intro other present
      apply decide_eq_false
      rintro rfl
      rw [absent] at present
      cases present
    rw [nothing, invalidate, absent]
    rfl
  | some entry =>
    have present : cache.has path = true := by rw [held.has_eq, found]; rfl
    have one : (others path lines).length + 1 = lines.length := by
      have placed := length_place_of_present held.distinct found entry
      rwa [place, List.length_append, List.length_singleton] at placed
    have counted : (cache.invalidateWhere fun other => decide (other = path)).1 = 1 := by
      rw [(invalidateWhere_holds held _).1]
      simp only [← decide_not]
      change lines.length - (others path lines).length = 1
      omega
    have left : (cache.invalidate path).2 =
        (cache.invalidateWhere fun other => decide (other = path)).2 := by
      simp only [invalidate, invalidateWhere, if_pos present, decide_not]
    have removed : (cache.invalidate path).1 = true := by
      rw [invalidate, if_pos present]
    rw [left, removed, Bool.toNat_true, ← counted]

/-- Forgetting a list of paths is forgetting whatever stands in it. -/
theorem Holds.invalidateMany_eq (held : cache.Holds lines) (paths : List String) :
    cache.invalidateMany paths = cache.invalidateWhere fun path => decide (path ∈ paths) := by
  induction paths generalizing cache lines with
  | nil =>
    simp only [List.not_mem_nil, decide_false]
    exact (invalidateWhere_nothing cache).symm
  | cons path rest ih =>
    have first := held.invalidate_eq path
    have later := ih (invalidate_holds held path).2
    have split : (fun other => decide (other ∈ path :: rest)) =
        fun other => decide (other = path) || decide (other ∈ rest) := by
      funext other
      simp
    rw [split, invalidateWhere_twice, ← first, ← later, invalidateMany, Nat.add_comm]

theorem Holds.invalidateMany_eq_invalidateWhere (held : cache.Holds lines)
    (lists : cache.Lists matching paths) :
    cache.invalidateMany paths = cache.invalidateWhere matching := by
  rw [held.invalidateMany_eq]
  apply held.invalidateWhere_congr
  intro path present
  exact Bool.eq_iff_iff.mpr (decide_eq_true_iff.trans (lists path present))

/-! ## What is left -/

theorem Holds.has_invalidateWhere (held : cache.Holds lines) (matching : String → Bool)
    (path : String) :
    (cache.invalidateWhere matching).2.has path = (cache.has path && !matching path) := by
  rw [(invalidateWhere_holds held matching).2.has_eq, held.has_eq, lookup_filter (!matching ·)]
  cases matching path <;> simp

/-- The paths that go are those of the order that match, each of which stands there once. -/
theorem Holds.invalidateWhere_count (held : cache.Holds lines) (matching : String → Bool) :
    (cache.invalidateWhere matching).1 =
      {path | cache.has path = true ∧
        (cache.invalidateWhere matching).2.has path = false}.ncard := by
  have gone : {path | cache.has path = true ∧
      (cache.invalidateWhere matching).2.has path = false} =
        ((cache.order.filter matching).toFinset : Set String) := by
    ext path
    rw [Set.mem_ofPred_eq, held.has_invalidateWhere, List.coe_toFinset, Set.mem_ofPred_eq,
      List.mem_filter, held.mem_order]
    cases cache.has path <;> simp
  rw [gone, Set.ncard_coe_finset, List.toFinset_card_of_nodup (held.order_nodup.filter matching),
    (invalidateWhere_holds held matching).1, held.order]
  have parts : lines.length = (lines.filter fun line => matching line.1).length +
      (lines.filter fun line => !matching line.1).length := List.length_eq_length_filter_add _
  rw [List.filter_map, List.length_map, Nat.sub_eq_iff_eq_add (by omega)]
  exact parts

theorem Holds.forgets (held : cache.Holds lines) (matching : String → Bool) :
    cache.Forgets matching (cache.invalidateWhere matching).1
      (cache.invalidateWhere matching).2 where
  count := held.invalidateWhere_count matching
  entries := by
    intro path
    rw [(invalidateWhere_holds held matching).2.entry?_eq, held.entry?_eq, lookup_filter (!matching ·)]
    cases matching path <;> simp
  order := by
    apply List.filter_congr
    intro path member
    rw [held.has_invalidateWhere, (held.mem_order path).mp member, Bool.true_and]
  capacity := rfl
  uses := ⟨rfl, rfl⟩
  evictions := rfl

end TreeCache

namespace Coordinator

variable {τ : Type} {digestOf : String → Digest} {options : CoordinatorOptions}
  {coordinator : Coordinator τ} {ledger : Ledger τ} {matching : String → Bool} {paths : List String}

/-! ## Both caches -/

theorem Agrees.has_of_content (agrees : Agrees digestOf options coordinator ledger)
    {entry : String × String} (member : entry ∈ coordinator.contents) :
    coordinator.trees.has entry.1 = true := by
  have inLines := agrees.contents.mem_iff.mp member
  rw [agrees.has_eq, Ledger.kept?, isSome_lookup]
  cases on : options.cacheContent with
  | true =>
    rw [on, if_pos rfl] at inLines
    have path := List.mem_map_of_mem (f := Prod.fst) inLines
    rwa [map_fst_mapValues] at path
  | false =>
    rw [on] at inLines
    cases inLines

/-- Forgetting paths one by one takes them out of either cache, and changes nothing else. -/
theorem invalidate_eq (coordinator : Coordinator τ) (paths : List String) :
    coordinator.invalidate paths =
      { coordinator with
        trees := (coordinator.trees.invalidateMany paths).2
        contents := coordinator.contents.filter fun entry => !decide (entry.1 ∈ paths) } := by
  induction paths generalizing coordinator with
  | nil => simp [invalidate, TreeCache.invalidateMany]
  | cons path rest ih =>
    have later := ih (coordinator.invalidateOne path)
    simp only [invalidate, List.foldl_cons] at later ⊢
    rw [later]
    simp [invalidateOne, TreeCache.invalidateMany, List.filter_filter, Bool.and_comm]

theorem Agrees.invalidate_eq_invalidateWhere (agrees : Agrees digestOf options coordinator ledger)
    (lists : coordinator.trees.Lists matching paths) :
    coordinator.invalidate paths = (coordinator.invalidateWhere matching).2 := by
  have contents : coordinator.contents.filter (fun entry => !decide (entry.1 ∈ paths)) =
      coordinator.contents.filter fun entry => !matching entry.1 := by
    apply List.filter_congr
    intro entry member
    have listed := lists entry.1 (agrees.has_of_content member)
    rw [Bool.eq_iff_iff.mpr (decide_eq_true_iff.trans listed)]
  rw [invalidate_eq, agrees.holds.invalidateMany_eq_invalidateWhere lists, contents]
  rfl

/-- **Forgetting at once is forgetting one by one.** After whatever was done to a cache of any capacity,
forgetting every path that matches leaves the same cache, and gives the same count, as forgetting the
paths of any list that has every cached path that matches and no cached path that does not. The count is
the number of paths that were cached and are no longer; what is left keeps its trees and digests and its
order of use, and no use and no eviction is counted. The same holds of a coordinator after any run: both
of its caches are left as by forgetting the paths of such a list, every other content is kept, and
nothing else changes. Whatever written patterns match, and whichever of them can be compiled, one that
can forgets the paths that it matches, and one that cannot is refused and changes nothing. -/
theorem forgetting_at_once_is_one_by_one {τ : Type} :
    (∀ (capacity : Nat) (operations : List (TreeCache.Operation τ)) (matching : String → Bool),
      let cache := (TreeCache.new capacity).after operations
      let bulk := cache.invalidateWhere matching
      cache.Forgets matching bulk.1 bulk.2 ∧
        ∀ paths, cache.Lists matching paths → cache.invalidateMany paths = bulk) ∧
    (∀ (digestOf : String → Digest) (options : CoordinatorOptions) (past : List (Turn τ))
        (matching : String → Bool),
      let coordinator := after digestOf options past
      let bulk := coordinator.invalidateWhere matching
      coordinator.trees.Forgets matching bulk.1 bulk.2.trees ∧
        (∀ path, bulk.2.content? path =
          if matching path then none else coordinator.content? path) ∧
        bulk.2 = { coordinator with trees := bulk.2.trees, contents := bulk.2.contents } ∧
        ∀ paths, coordinator.trees.Lists matching paths →
          coordinator.invalidate paths = bulk.2 ∧
            coordinator.trees.invalidateMany paths = (bulk.1, bulk.2.trees)) ∧
    (∀ (coordinator : Coordinator τ) (compile : String → Except String (String → Bool))
        (written : String),
      (∀ matching, compile written = .ok matching →
        coordinator.invalidateMatching compile written =
          .ok (coordinator.invalidateWhere matching) ∧
        ∀ digestOf parserFor,
          coordinator.step digestOf parserFor (.invalidateMatching compile written) =
            (.count (coordinator.invalidateWhere matching).1,
              (coordinator.invalidateWhere matching).2)) ∧
      (∀ text, compile written = .error text →
        coordinator.invalidateMatching compile written = .error (.invalidPattern text) ∧
        ∀ digestOf parserFor,
          coordinator.step digestOf parserFor (.invalidateMatching compile written) =
            (.refused (.invalidPattern text), coordinator))) := by
  refine ⟨?_, ?_, ?_⟩
  · intro capacity operations matching cache bulk
    obtain ⟨stamps, follows⟩ := (StampedMap.Follows.new (τ := τ) capacity).after operations
    refine ⟨follows.holds.forgets matching, ?_⟩
    intro paths lists
    exact follows.holds.invalidateMany_eq_invalidateWhere lists
  · intro digestOf options past matching coordinator bulk
    have agrees := after_agrees digestOf options past
    refine ⟨agrees.holds.forgets matching, ?_, rfl, ?_⟩
    · intro path
      have left := lookup_filter (fun key => !matching key) path coordinator.contents
      rw [content?, content?]
      refine left.trans ?_
      cases matching path <;> rfl
    · intro paths lists
      exact ⟨agrees.invalidate_eq_invalidateWhere lists,
        agrees.holds.invalidateMany_eq_invalidateWhere lists⟩
  · intro coordinator compile written
    refine ⟨?_, ?_⟩
    · intro matching compiled
      have forgets : coordinator.invalidateMatching compile written =
          .ok (coordinator.invalidateWhere matching) := by
        rw [invalidateMatching, compiled]
      refine ⟨forgets, ?_⟩
      intro digestOf parserFor
      simp only [step, forgets]
    · intro text refused
      have error : coordinator.invalidateMatching compile written =
          .error (.invalidPattern text) := by
        rw [invalidateMatching, refused]
      refine ⟨error, ?_⟩
      intro digestOf parserFor
      simp only [step, error]

/-- Four files are read and those of one folder forgotten by a pattern, which is taken for what a path
begins with. A list that has them in another order, one of them twice and another path that is not
cached, forgets the same two. -/
theorem folder_forgotten_by_pattern :
    let parser : Parser String :=
      ⟨fun content _ => .ok ⟨.empty, some content⟩, fun content _ _ _ => .ok ⟨.empty, some content⟩⟩
    let turn : String → Turn String := fun path => ⟨fun _ => parser, .parse path "x"⟩
    let coordinator := after Digest.ofText ⟨9, true⟩ [turn "b/2", turn "a/2", turn "b/1", turn "a/1"]
    let paths := ["a/2", "a/3", "a/1", "a/2"]
    let compile : String → Except String (String → Bool) := fun written =>
      if written = "(" then .error "unclosed group"
      else .ok fun path => written.toList.isPrefixOf path.toList
    (coordinator.trees.Lists (fun path => "a/".toList.isPrefixOf path.toList) paths) ∧
      coordinator.invalidateMatching compile "a/" = .ok (2, coordinator.invalidate paths) ∧
      (coordinator.invalidate paths).trees.order = ["b/1", "b/2"] ∧
      coordinator.invalidateMatching compile "(" = .error (.invalidPattern "unclosed group") := by
  intro parser turn coordinator paths compile
  have cached : coordinator.trees.entries.map Prod.fst = ["a/1", "b/1", "a/2", "b/2"] := by decide
  have matched : ∀ path ∈ ["a/1", "b/1", "a/2", "b/2"],
      (path ∈ paths ↔ "a/".toList.isPrefixOf path.toList = true) := by decide
  have lists : coordinator.trees.Lists (fun path => "a/".toList.isPrefixOf path.toList) paths := by
    intro path present
    rw [TreeCache.has, TreeCache.entry?, isSome_lookup, cached] at present
    exact matched path present
  have counted : (coordinator.trees.invalidateMany paths).1 = 2 := by decide
  have order : (coordinator.trees.invalidateMany paths).2.order = ["b/1", "b/2"] := by decide
  obtain ⟨-, bulk, written⟩ := forgetting_at_once_is_one_by_one (τ := String)
  obtain ⟨-, -, -, pointwise⟩ := bulk Digest.ofText ⟨9, true⟩ _ _
  obtain ⟨same, many⟩ := pointwise paths lists
  refine ⟨lists, ?_, ?_, ((written coordinator compile "(").2 _ rfl).1⟩
  · rw [((written coordinator compile "a/").1 _ rfl).1, ← counted, many, same]
  · rw [same, ← order, many]

end Coordinator

end SourceFacts

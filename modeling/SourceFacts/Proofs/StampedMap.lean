import Mathlib.Data.List.Pairwise
import SourceFacts.Proofs.CacheRecency

/-! A tree cache is a map whose entries carry the time of their last use. The map here
has no order of use at all: each use stamps its entry with the clock, and when there are
too many entries the one with the smallest stamp goes. The cache keeps a queue instead,
and no observer can tell the two apart. -/
namespace SourceFacts
open Recency TreeCache

/-- What is kept for a path, and when it was last used. -/
structure Stamped (τ : Type) extends CacheEntry τ where
  stamp : Nat

/-- Entries by path, in no order that matters, with the time that the next use will get. -/
structure StampedMap (τ : Type) where
  capacity : Nat
  clock : Nat
  entries : List (String × Stamped τ)
  hits : Nat
  misses : Nat
  evictions : Nat

namespace StampedMap

variable {τ : Type}

/-- A map without entries. -/
def new (capacity : Nat) : StampedMap τ := ⟨max 1 capacity, 0, [], 0, 0, 0⟩

/-- The entry of a path. -/
def stamped? (map : StampedMap τ) (path : String) : Option (Stamped τ) := map.entries.lookup path

/-- The tree of a path. -/
def tree? (map : StampedMap τ) (path : String) : Option τ := (map.stamped? path).bind (·.tree)

/-- A use of a path: it has this entry from now on, with the stamp of now. -/
def record (map : StampedMap τ) (path : String) (entry : CacheEntry τ) : StampedMap τ :=
  { map with
    entries := (path, ⟨entry, map.clock⟩) :: others path map.entries
    clock := map.clock + 1 }

/-- Counts a use that found what it wanted. -/
def hit (map : StampedMap τ) : StampedMap τ := { map with hits := map.hits + 1 }

/-- Counts a use that found nothing; no stamp changes. -/
def miss (map : StampedMap τ) : StampedMap τ := { map with misses := map.misses + 1 }

/-- The smallest stamp there is. -/
def oldest (map : StampedMap τ) : Nat := (map.entries.map (·.2.stamp)).min?.getD 0

/-- Where there is one entry too many, the one with the smallest stamp goes. -/
def settle (map : StampedMap τ) : StampedMap τ :=
  if map.capacity < map.entries.length then
    { map with
      entries := map.entries.filter (·.2.stamp ≠ map.oldest)
      evictions := map.evictions + 1 }
  else map

/-- Keeps the entries of the paths that do not match. -/
def remove (map : StampedMap τ) (matching : String → Bool) : StampedMap τ :=
  { map with entries := map.entries.filter fun line => !matching line.1 }

/-- Looks at the tree of a path, or takes it: what is found leaves `left` behind. -/
def find (map : StampedMap τ) (path : String) (left : CacheEntry τ → CacheEntry τ) :
    Option τ × StampedMap τ :=
  match map.stamped? path with
  | none => (none, map.miss)
  | some stamped =>
    match stamped.tree with
    | none => (none, map.miss)
    | some tree => (some tree, (map.record path (left stamped.toCacheEntry)).hit)

/-- Uses the entry of a path without looking at its tree. -/
def markUsed (map : StampedMap τ) (path : String) : Bool × StampedMap τ :=
  match map.stamped? path with
  | none => (false, map.miss)
  | some stamped => (true, (map.record path stamped.toCacheEntry).hit)

/-- Removes paths one after the other and counts those that were there. -/
def removeMany (map : StampedMap τ) : List String → Nat × StampedMap τ
  | [] => (0, map)
  | path :: rest =>
    let (count, removed) := (map.remove (· = path)).removeMany rest
    (count + (map.stamped? path).isSome.toNat, removed)

/-- Does an operation of a cache. -/
def step (map : StampedMap τ) : Operation τ → Reply τ × StampedMap τ
  | .set path tree digest => (.none, (map.record path ⟨tree, digest⟩).settle)
  | .get path => let (tree, map) := map.find path id; (.tree tree, map)
  | .takeTree path =>
    let (tree, map) := map.find path ({ · with tree := none }); (.tree tree, map)
  | .isValid path digest =>
    (.flag (digest.version = Digest.currentVersion &&
      (map.stamped? path).any (·.digest = digest)), map)
  | .has path => (.flag (map.stamped? path).isSome, map)
  | .markUsed path => let (found, map) := map.markUsed path; (.flag found, map)
  | .invalidate path => (.flag (map.stamped? path).isSome, map.remove (· = path))
  | .invalidateMany paths =>
    let (count, map) := map.removeMany paths; (.count count, map)
  | .invalidateWhere matching =>
    (.count (map.entries.countP (matching ·.1)), map.remove matching)
  | .clear => (.none, map.remove fun _ => true)
  | .dispose => (.none, map.remove fun _ => true)
  | .resetStats => (.none, { map with hits := 0, misses := 0, evictions := 0 })

/-- The path that an operation uses: one that is set, one whose tree is found, or one that is
marked and has an entry. -/
def used? (map : StampedMap τ) : Operation τ → Option String
  | .set path _ _ => some path
  | .get path | .takeTree path => if (map.tree? path).isSome then some path else none
  | .markUsed path => if (map.stamped? path).isSome then some path else none
  | _ => none

/-- The counts of a map. -/
def stats (map : StampedMap τ) : Stats :=
  ⟨map.hits, map.misses, map.evictions, map.entries.length, map.capacity⟩

/-- What an observer sees of a run: each reply, and the counts after it. -/
def observe (map : StampedMap τ) : List (Operation τ) → List (Reply τ × Stats)
  | [] => []
  | operation :: rest =>
    ((map.step operation).1, (map.step operation).2.stats) ::
      (map.step operation).2.observe rest

/-- The map after a run. -/
def after (map : StampedMap τ) (operations : List (Operation τ)) : StampedMap τ :=
  operations.foldl (fun map operation => (map.step operation).2) map

end StampedMap

namespace TreeCache

variable {τ : Type}

/-- What an observer sees of a run: each reply, and the counts after it. -/
def observe (cache : TreeCache τ) : List (Operation τ) → List (Reply τ × Stats)
  | [] => []
  | operation :: rest =>
    ((cache.step operation).1, (cache.step operation).2.stats) ::
      (cache.step operation).2.observe rest

/-- The cache after a run. -/
def after (cache : TreeCache τ) (operations : List (Operation τ)) : TreeCache τ :=
  operations.foldl (fun cache operation => (cache.step operation).2) cache

theorem after_capacity (cache : TreeCache τ) (operations : List (Operation τ)) :
    (cache.after operations).capacity = cache.capacity := by
  induction operations generalizing cache with
  | nil => rfl
  | cons operation rest ih => exact (ih _).trans (step_capacity cache operation)

end TreeCache

namespace StampedMap

variable {τ : Type} {map : StampedMap τ} {cache : TreeCache τ}
  {lines : List (String × Stamped τ)} {path other : String} {stamped : Stamped τ}

/-- The map has exactly these lines, which ascend by stamp, and all of them are past. -/
structure Ascends (map : StampedMap τ) (lines : List (String × Stamped τ)) : Prop where
  distinct : Distinct lines
  entries : map.entries.Perm lines
  ascending : lines.Pairwise fun earlier later => earlier.2.stamp < later.2.stamp
  past : ∀ line ∈ lines, line.2.stamp < map.clock

/-- The order of use of a cache is the order of the stamps of a map. -/
structure Follows (cache : TreeCache τ) (map : StampedMap τ)
    (lines : List (String × Stamped τ)) : Prop where
  ascends : map.Ascends lines
  holds : cache.Holds (mapValues Stamped.toCacheEntry lines)
  positive : 1 ≤ cache.capacity
  bounded : lines.length ≤ cache.capacity
  capacity : cache.capacity = map.capacity
  hits : cache.hits = map.hits
  misses : cache.misses = map.misses
  evictions : cache.evictions = map.evictions

/-! ## What an operation does to the stamps -/

namespace Ascends

theorem stamped?_eq (ascends : map.Ascends lines) (path : String) :
    map.stamped? path = lines.lookup path :=
  lookup_perm ascends.distinct ascends.entries path

theorem length_eq (ascends : map.Ascends lines) : map.entries.length = lines.length :=
  ascends.entries.length_eq

/-- Counting does not touch the entries. -/
theorem of_same {later : StampedMap τ} (ascends : map.Ascends lines)
    (entries : later.entries = map.entries) (clock : later.clock = map.clock) :
    later.Ascends lines :=
  ⟨ascends.distinct, entries ▸ ascends.entries, ascends.ascending, clock ▸ ascends.past⟩

/-- A use has the greatest stamp, so its line is the last. -/
theorem record (ascends : map.Ascends lines) (path : String) (entry : CacheEntry τ) :
    (map.record path entry).Ascends (place path ⟨entry, map.clock⟩ lines) where
  distinct := distinct_place ascends.distinct
  entries := by
    have kept : (others path map.entries).Perm (others path lines) := ascends.entries.filter _
    exact (List.perm_append_singleton _ _).symm.trans (kept.append_right _)
  ascending := by
    rw [place, List.pairwise_append]
    refine ⟨ascends.ascending.sublist List.filter_sublist, List.pairwise_singleton _ _, ?_⟩
    intro line member last isLast
    rw [List.mem_singleton.mp isLast]
    exact ascends.past line (List.mem_of_mem_filter member)
  past := by
    intro line member
    rcases List.mem_append.mp member with earlier | last
    · exact Nat.lt_succ_of_lt (ascends.past line (List.mem_of_mem_filter earlier))
    · rw [List.mem_singleton.mp last]
      exact Nat.lt_succ_self map.clock

theorem remove (ascends : map.Ascends lines) (matching : String → Bool) :
    (map.remove matching).Ascends (lines.filter fun line => !matching line.1) :=
  ⟨distinct_filter ascends.distinct (!matching ·), ascends.entries.filter _,
    ascends.ascending.sublist List.filter_sublist,
    fun line member => ascends.past line (List.mem_of_mem_filter member)⟩

/-- The first line has the smallest stamp. -/
theorem oldest_eq {first : String × Stamped τ} {rest : List (String × Stamped τ)}
    (ascends : map.Ascends (first :: rest)) : map.oldest = first.2.stamp := by
  have smallest : (map.entries.map (·.2.stamp)).min? = some first.2.stamp := by
    rw [List.min?_eq_some_iff]
    constructor
    · exact List.mem_map.mpr ⟨first, ascends.entries.mem_iff.mpr (by simp), rfl⟩
    · intro stamp member
      obtain ⟨line, held, rfl⟩ := List.mem_map.mp member
      rcases List.mem_cons.mp (ascends.entries.mem_iff.mp held) with rfl | later
      · exact Nat.le_refl _
      · exact Nat.le_of_lt ((List.pairwise_cons.mp ascends.ascending).1 line later)
  rw [oldest, smallest, Option.getD_some]

/-- Eviction takes the first line and no other. -/
theorem drop_oldest {first : String × Stamped τ} {rest : List (String × Stamped τ)}
    (ascends : map.Ascends (first :: rest)) :
    (map.entries.filter (·.2.stamp ≠ map.oldest)).Perm rest := by
  have filtered := ascends.entries.filter fun line => decide (line.2.stamp ≠ map.oldest)
  have kept : rest.filter (fun line => decide (line.2.stamp ≠ map.oldest)) = rest := by
    apply List.filter_eq_self.mpr
    intro line member
    have later := (List.pairwise_cons.mp ascends.ascending).1 line member
    rw [ascends.oldest_eq]
    exact decide_eq_true (Nat.ne_of_gt later)
  rw [List.filter_cons_of_neg (by simp [ascends.oldest_eq]), kept] at filtered
  exact filtered

/-- A map that is one entry above its capacity settles on the last lines that fit. -/
theorem settle (ascends : map.Ascends lines) (excess : lines.length ≤ map.capacity + 1) :
    map.settle.Ascends (trim map.capacity lines) ∧
      map.settle.evictions = map.evictions + (lines.length - map.capacity) ∧
      map.settle.capacity = map.capacity ∧ map.settle.hits = map.hits ∧
      map.settle.misses = map.misses := by
  unfold StampedMap.settle
  rw [ascends.length_eq]
  split
  · rename_i full
    cases lines with
    | nil => simp at full
    | cons first rest =>
      have single : (first :: rest).length - map.capacity = 1 := by omega
      have shorter : trim map.capacity (first :: rest) = rest := by rw [trim, single]; rfl
      rw [shorter, single]
      exact ⟨⟨(List.nodup_cons.mp ascends.distinct).2, ascends.drop_oldest,
        (List.pairwise_cons.mp ascends.ascending).2,
        fun line member => ascends.past line (List.mem_cons_of_mem _ member)⟩, rfl, rfl, rfl, rfl⟩
  · rename_i room
    have fits : lines.length ≤ map.capacity := by omega
    rw [trim_of_room fits]
    exact ⟨ascends, by omega, rfl, rfl, rfl⟩

end Ascends

/-! ## A step of both -/

namespace Follows

theorem lookup_eq (follows : Follows cache map lines) (path : String) :
    (mapValues Stamped.toCacheEntry lines).lookup path =
      (map.stamped? path).map Stamped.toCacheEntry := by
  rw [lookup_mapValues, follows.ascends.stamped?_eq]

theorem has_eq (follows : Follows cache map lines) (path : String) :
    cache.has path = (map.stamped? path).isSome := by
  rw [follows.holds.has_eq, follows.lookup_eq, Option.isSome_map]

theorem stats_eq (follows : Follows cache map lines) : cache.stats = map.stats := by
  have size : cache.size = map.entries.length := by
    rw [follows.holds.size_eq, follows.ascends.length_eq]
    simp [mapValues]
  simp only [TreeCache.stats, StampedMap.stats, size, follows.capacity, follows.hits,
    follows.misses, follows.evictions]

/-- A use that found what it wanted, with whatever entry it leaves. -/
theorem use {later : TreeCache τ} (follows : Follows cache map lines)
    (found : map.stamped? path = some stamped) (entry : CacheEntry τ)
    (holds : later.Holds (place path entry (mapValues Stamped.toCacheEntry lines)))
    (capacity : later.capacity = cache.capacity) (hits : later.hits = cache.hits + 1)
    (misses : later.misses = cache.misses) (evictions : later.evictions = cache.evictions) :
    Follows later (map.record path entry).hit (place path ⟨entry, map.clock⟩ lines) where
  ascends := (follows.ascends.record path entry).of_same rfl rfl
  holds := by rw [mapValues_place]; exact holds
  positive := capacity ▸ follows.positive
  bounded := by
    rw [follows.ascends.stamped?_eq] at found
    rw [length_place_of_present follows.ascends.distinct found, capacity]
    exact follows.bounded
  capacity := capacity.trans follows.capacity
  hits := hits.trans (congrArg (· + 1) follows.hits)
  misses := misses.trans follows.misses
  evictions := evictions.trans follows.evictions

theorem miss (follows : Follows cache map lines) : Follows cache.miss map.miss lines where
  ascends := follows.ascends.of_same rfl rfl
  holds := miss_holds follows.holds
  positive := follows.positive
  bounded := follows.bounded
  capacity := follows.capacity
  hits := follows.hits
  misses := congrArg (· + 1) follows.misses
  evictions := follows.evictions

theorem set (follows : Follows cache map lines) (path : String) (tree : Option τ)
    (digest : Digest) :
    Follows (cache.set path tree digest) (map.record path ⟨tree, digest⟩).settle
      (trim map.capacity (place path ⟨⟨tree, digest⟩, map.clock⟩ lines)) := by
  have bounded : (mapValues Stamped.toCacheEntry lines).length ≤ cache.capacity := by
    simpa [mapValues] using follows.bounded
  have excess : (place path (⟨⟨tree, digest⟩, map.clock⟩ : Stamped τ) lines).length ≤
      map.capacity + 1 := by
    have longer := length_place_le path (⟨⟨tree, digest⟩, map.clock⟩ : Stamped τ) lines
    have room := follows.bounded
    rw [follows.capacity] at room
    omega
  have sameLength : (place path (⟨tree, digest⟩ : CacheEntry τ)
      (mapValues Stamped.toCacheEntry lines)).length =
        (place path (⟨⟨tree, digest⟩, map.clock⟩ : Stamped τ) lines).length := by
    have mapped := mapValues_place Stamped.toCacheEntry path
      (⟨⟨tree, digest⟩, map.clock⟩ : Stamped τ) lines
    rw [← mapped]
    simp [mapValues]
  obtain ⟨settled, mapEvictions, mapCapacity, mapHits, mapMisses⟩ :=
    (follows.ascends.record path ⟨tree, digest⟩).settle excess
  obtain ⟨evictions, hits, misses⟩ := set_counts follows.holds bounded path tree digest
  refine ⟨settled, ?_, ?_, ?_, ?_, ?_, ?_, ?_⟩
  · have held := set_holds follows.holds bounded path tree digest
    rw [mapValues_trim, mapValues_place, ← follows.capacity]
    exact held
  · rw [set_capacity]
    exact follows.positive
  · rw [set_capacity, follows.capacity]
    exact length_trim_le _
  · rw [set_capacity]
    exact follows.capacity.trans mapCapacity.symm
  · exact hits.trans (follows.hits.trans mapHits.symm)
  · exact misses.trans (follows.misses.trans mapMisses.symm)
  · rw [evictions, mapEvictions, sameLength, follows.evictions, follows.capacity]
    rfl

/-- Removing paths leaves the other lines as they stand. -/
theorem remove {later : TreeCache τ} (follows : Follows cache map lines)
    (matching : String → Bool)
    (holds : later.Holds
      ((mapValues Stamped.toCacheEntry lines).filter fun line => !matching line.1))
    (capacity : later.capacity = cache.capacity) (hits : later.hits = cache.hits)
    (misses : later.misses = cache.misses) (evictions : later.evictions = cache.evictions) :
    Follows later (map.remove matching) (lines.filter fun line => !matching line.1) where
  ascends := follows.ascends.remove matching
  holds := by rw [mapValues_filter Stamped.toCacheEntry (!matching ·)]; exact holds
  positive := capacity ▸ follows.positive
  bounded := by
    rw [capacity]
    exact Nat.le_trans (List.length_filter_le _ _) follows.bounded
  capacity := capacity.trans follows.capacity
  hits := hits.trans follows.hits
  misses := misses.trans follows.misses
  evictions := evictions.trans follows.evictions

theorem invalidate (follows : Follows cache map lines) (path : String) :
    (cache.invalidate path).1 = (map.stamped? path).isSome ∧
      ∃ later, Follows (cache.invalidate path).2 (map.remove (· = path)) later := by
  obtain ⟨removed, holds⟩ := invalidate_holds follows.holds path
  refine ⟨by rw [removed, follows.lookup_eq, Option.isSome_map], _,
    follows.remove (· = path) (by simpa [others] using holds) ?_ ?_ ?_ ?_⟩
  all_goals
    unfold TreeCache.invalidate
    split <;> rfl

theorem invalidateMany (follows : Follows cache map lines) (paths : List String) :
    (cache.invalidateMany paths).1 = (map.removeMany paths).1 ∧
      ∃ later, Follows (cache.invalidateMany paths).2 (map.removeMany paths).2 later := by
  induction paths generalizing cache map lines with
  | nil => exact ⟨rfl, lines, follows⟩
  | cons path rest ih =>
    obtain ⟨removed, _, next⟩ := follows.invalidate path
    obtain ⟨count, later, final⟩ := ih next
    simp only [TreeCache.invalidateMany, removeMany]
    exact ⟨by rw [count, removed], later, final⟩

theorem find (follows : Follows cache map lines) (path : String)
    (left : CacheEntry τ → CacheEntry τ) :
    (cache.find path left).1 = (map.find path left).1 ∧
      ∃ later, Follows (cache.find path left).2 (map.find path left).2 later := by
  unfold StampedMap.find
  cases found : map.stamped? path with
  | none =>
    rw [find_absent follows.holds (by simp [follows.lookup_eq, found])]
    exact ⟨rfl, lines, follows.miss⟩
  | some stamped =>
    have looked : (mapValues Stamped.toCacheEntry lines).lookup path =
        some stamped.toCacheEntry := by
      simp [follows.lookup_eq, found]
    cases held : stamped.tree with
    | none =>
      rw [find_absent follows.holds (by simp [looked, held])]
      simp only [held]
      exact ⟨trivial, lines, follows.miss⟩
    | some tree =>
      obtain ⟨same, holds⟩ := find_present follows.holds looked held left
      rw [same]
      simp only [held]
      refine ⟨trivial, _, follows.use found _ holds ?_ ?_ ?_ ?_⟩ <;> simp [modifyEntry]

theorem markUsed (follows : Follows cache map lines) (path : String) :
    (cache.markUsed path).1 = (map.markUsed path).1 ∧
      ∃ later, Follows (cache.markUsed path).2 (map.markUsed path).2 later := by
  unfold StampedMap.markUsed TreeCache.markUsed
  rw [follows.has_eq]
  cases found : map.stamped? path with
  | none => exact ⟨rfl, lines, follows.miss⟩
  | some stamped =>
    have looked : (mapValues Stamped.toCacheEntry lines).lookup path =
        some stamped.toCacheEntry := by
      simp [follows.lookup_eq, found]
    refine ⟨rfl, _, follows.use found _ (hit_holds follows.holds looked) ?_ ?_ ?_ ?_⟩ <;>
      simp

theorem invalidateWhere (follows : Follows cache map lines) (matching : String → Bool) :
    (cache.invalidateWhere matching).1 = map.entries.countP (matching ·.1) ∧
      ∃ later, Follows (cache.invalidateWhere matching).2 (map.remove matching) later := by
  obtain ⟨count, holds⟩ := invalidateWhere_holds follows.holds matching
  refine ⟨?_, _, follows.remove matching holds rfl rfl rfl rfl⟩
  have split := List.length_eq_countP_add_countP (fun line => matching line.1) (l := lines)
  have dropped : lines.countP (fun line => decide ¬matching line.1 = true) =
      (lines.filter fun line => !matching line.1).length := by
    simp [List.countP_eq_length_filter]
  rw [count, follows.ascends.entries.countP_eq,
    ← mapValues_filter Stamped.toCacheEntry (!matching ·)]
  simp only [mapValues, List.length_map]
  omega

theorem clear (follows : Follows cache map lines) :
    ∃ later, Follows cache.clear (map.remove fun _ => true) later := by
  refine ⟨_, follows.remove (fun _ => true) ?_ rfl rfl rfl rfl⟩
  simpa using clear_holds cache

theorem resetStats (follows : Follows cache map lines) :
    Follows cache.resetStats { map with hits := 0, misses := 0, evictions := 0 } lines where
  ascends := follows.ascends.of_same rfl rfl
  holds := follows.holds.of_same rfl rfl
  positive := follows.positive
  bounded := follows.bounded
  capacity := follows.capacity
  hits := rfl
  misses := rfl
  evictions := rfl

theorem isValid_eq (follows : Follows cache map lines) (path : String) (digest : Digest) :
    cache.isValid path digest =
      (digest.version = Digest.currentVersion && (map.stamped? path).any (·.digest = digest)) := by
  rw [TreeCache.isValid, Digest.isCurrent, follows.holds.entry?_eq, follows.lookup_eq]
  cases map.stamped? path <;> rfl

/-- Every operation answers alike, and the two stay together. -/
theorem step (follows : Follows cache map lines) (operation : Operation τ) :
    (cache.step operation).1 = (map.step operation).1 ∧
      ∃ later, Follows (cache.step operation).2 (map.step operation).2 later := by
  cases operation with
  | set path tree digest => exact ⟨rfl, _, follows.set path tree digest⟩
  | get path =>
    obtain ⟨same, later⟩ := follows.find path id
    rw [← get_eq_find] at same later
    exact ⟨congrArg Reply.tree same, later⟩
  | takeTree path =>
    obtain ⟨same, later⟩ := follows.find path ({ · with tree := none })
    exact ⟨congrArg Reply.tree same, later⟩
  | isValid path digest =>
    exact ⟨congrArg Reply.flag (follows.isValid_eq path digest), lines, follows⟩
  | has path => exact ⟨congrArg Reply.flag (follows.has_eq path), lines, follows⟩
  | markUsed path =>
    obtain ⟨same, later⟩ := follows.markUsed path
    exact ⟨congrArg Reply.flag same, later⟩
  | invalidate path =>
    obtain ⟨same, later⟩ := follows.invalidate path
    exact ⟨congrArg Reply.flag same, later⟩
  | invalidateMany paths =>
    obtain ⟨same, later⟩ := follows.invalidateMany paths
    exact ⟨congrArg Reply.count same, later⟩
  | invalidateWhere matching =>
    obtain ⟨same, later⟩ := follows.invalidateWhere matching
    exact ⟨congrArg Reply.count same, later⟩
  | clear => exact ⟨rfl, follows.clear⟩
  | dispose => exact ⟨rfl, follows.clear⟩
  | resetStats => exact ⟨rfl, lines, follows.resetStats⟩

theorem new (capacity : Nat) :
    Follows (TreeCache.new (τ := τ) capacity) (StampedMap.new capacity) [] where
  ascends := ⟨List.nodup_nil, List.Perm.nil, List.Pairwise.nil, by simp⟩
  holds := new_holds capacity
  positive := Nat.le_max_left 1 capacity
  bounded := Nat.zero_le _
  capacity := rfl
  hits := rfl
  misses := rfl
  evictions := rfl

theorem after (follows : Follows cache map lines) (operations : List (Operation τ)) :
    ∃ later, Follows (cache.after operations) (map.after operations) later := by
  induction operations generalizing cache map lines with
  | nil => exact ⟨lines, follows⟩
  | cons operation rest ih =>
    obtain ⟨_, _, next⟩ := follows.step operation
    exact ih next

theorem observe (follows : Follows cache map lines) (operations : List (Operation τ)) :
    cache.observe operations = map.observe operations := by
  induction operations generalizing cache map lines with
  | nil => rfl
  | cons operation rest ih =>
    obtain ⟨same, _, next⟩ := follows.step operation
    simp only [TreeCache.observe, StampedMap.observe, same, next.stats_eq, ih next]

end Follows

/-! ## Stamps are times of last use -/

/-- A path has the stamp that it had before, unless this operation used it. -/
def StampsUses (map : StampedMap τ) (operation : Operation τ) (later : StampedMap τ) : Prop :=
  ∀ path stamped, later.stamped? path = some stamped →
    if map.used? operation = some path then stamped.stamp = map.clock
    else (map.stamped? path).map Stamped.stamp = some stamped.stamp

theorem record_stamped? (map : StampedMap τ) (path : String) (entry : CacheEntry τ)
    (other : String) :
    (map.record path entry).stamped? other =
      if other = path then some ⟨entry, map.clock⟩ else map.stamped? other := by
  simp only [stamped?, record, List.lookup_cons, lookup_others]
  by_cases same : other = path
  · simp [same]
  · simp [same, beq_eq_false_iff_ne.mpr same]

theorem remove_stamped? (map : StampedMap τ) (matching : String → Bool) (path : String) :
    (map.remove matching).stamped? path = if matching path then none else map.stamped? path := by
  have found := lookup_filter (!matching ·) path map.entries
  cases matched : matching path <;> simpa [stamped?, remove, matched] using found

theorem removeMany_stamped? (map : StampedMap τ) (paths : List String) (path : String)
    (found : (map.removeMany paths).2.stamped? path = some stamped) :
    map.stamped? path = some stamped := by
  induction paths generalizing map with
  | nil => exact found
  | cons first rest ih =>
    have kept := ih (map.remove (· = first)) found
    rw [remove_stamped?] at kept
    by_cases gone : path = first
    · simp [gone] at kept
    · simpa [gone] using kept

theorem settle_stamped? (ascends : map.Ascends lines) (excess : lines.length ≤ map.capacity + 1)
    (found : map.settle.stamped? path = some stamped) : map.stamped? path = some stamped := by
  have settled := (ascends.settle excess).1
  rw [settled.stamped?_eq, lookup_eq_some_iff_mem settled.distinct] at found
  rw [ascends.stamped?_eq, lookup_eq_some_iff_mem ascends.distinct]
  exact (trim_sublist map.capacity).subset found

private theorem stamps_record {later : StampedMap τ} {operation : Operation τ}
    {entry : CacheEntry τ} (used : map.used? operation = some path)
    (kept : ∀ other stamped, later.stamped? other = some stamped →
      (map.record path entry).stamped? other = some stamped) :
    StampsUses map operation later := by
  intro other stamped found
  have recorded := kept other stamped found
  rw [record_stamped?] at recorded
  rw [used]
  by_cases same : other = path
  · simp only [same, ↓reduceIte, Option.some.injEq] at recorded ⊢
    rw [← recorded]
  · simp only [same, ↓reduceIte] at recorded
    simp [Ne.symm same, recorded]

private theorem stamps_kept {later : StampedMap τ} {operation : Operation τ}
    (unused : map.used? operation = none)
    (kept : ∀ other stamped, later.stamped? other = some stamped →
      map.stamped? other = some stamped) : StampsUses map operation later := by
  intro other stamped found
  simp [unused, kept other stamped found]

private theorem stamps_find (operation : Operation τ) (left : CacheEntry τ → CacheEntry τ)
    (used : map.used? operation = if (map.tree? path).isSome then some path else none) :
    StampsUses map operation (map.find path left).2 := by
  unfold find
  cases found : map.stamped? path with
  | none => exact stamps_kept (by simp [used, tree?, found]) fun _ _ kept => kept
  | some stamped =>
    cases held : stamped.tree with
    | none =>
      simp only [held]
      exact stamps_kept (by simp [used, tree?, found, held]) fun _ _ kept => kept
    | some tree =>
      simp only [held]
      exact stamps_record (by simp [used, tree?, found, held]) fun _ _ kept => kept

private theorem stamps_markUsed (map : StampedMap τ) (path : String) :
    StampsUses map (.markUsed path) (map.markUsed path).2 := by
  unfold markUsed
  cases found : map.stamped? path with
  | none => exact stamps_kept (by simp [used?, found]) fun _ _ kept => kept
  | some stamped => exact stamps_record (by simp [used?, found]) fun _ _ kept => kept

private theorem stamps_remove {operation : Operation τ} (unused : map.used? operation = none)
    (matching : String → Bool) : StampsUses map operation (map.remove matching) := by
  refine stamps_kept unused fun other stamped found => ?_
  rw [remove_stamped?] at found
  cases matched : matching other <;> simp [matched] at found
  exact found

/-- Every operation stamps what it uses with the clock, and nothing else. -/
theorem step_stamps (ascends : map.Ascends lines) (bounded : lines.length ≤ map.capacity)
    (operation : Operation τ) : StampsUses map operation (map.step operation).2 := by
  cases operation with
  | set path tree digest =>
    have recorded := ascends.record path ⟨tree, digest⟩
    have longer := length_place_le path (⟨⟨tree, digest⟩, map.clock⟩ : Stamped τ) lines
    exact stamps_record rfl fun other stamped found =>
      settle_stamped? recorded (Nat.le_trans longer (Nat.succ_le_succ bounded)) found
  | get path => exact stamps_find (.get path) id rfl
  | takeTree path => exact stamps_find (.takeTree path) ({ · with tree := none }) rfl
  | isValid path digest => exact stamps_kept rfl fun _ _ kept => kept
  | has path => exact stamps_kept rfl fun _ _ kept => kept
  | markUsed path => exact stamps_markUsed map path
  | invalidate path => exact stamps_remove rfl _
  | invalidateMany paths =>
    exact stamps_kept rfl fun other stamped found => removeMany_stamped? map paths other found
  | invalidateWhere matching => exact stamps_remove rfl matching
  | clear => exact stamps_remove rfl _
  | dispose => exact stamps_remove rfl _
  | resetStats => exact stamps_kept rfl fun _ _ kept => kept

/-! ## The one that gives way -/

/-- The path with the smallest stamp of all. -/
def Eldest (map : StampedMap τ) (victim : String) : Prop :=
  ∃ oldest, map.stamped? victim = some oldest ∧
    ∀ other stamped, other ≠ victim → map.stamped? other = some stamped →
      oldest.stamp < stamped.stamp

/-- The first line is the eldest. -/
theorem Ascends.eldest {first : String × Stamped τ} {rest : List (String × Stamped τ)}
    (ascends : map.Ascends (first :: rest)) : map.Eldest first.1 := by
  have own : map.stamped? first.1 = some first.2 := by
    rw [ascends.stamped?_eq, lookup_eq_some_iff_mem ascends.distinct]
    exact List.mem_cons_self
  refine ⟨first.2, own, ?_⟩
  intro other stamped different found
  rw [ascends.stamped?_eq, lookup_eq_some_iff_mem ascends.distinct] at found
  rcases List.mem_cons.mp found with same | member
  · exact absurd (congrArg Prod.fst same) different
  · exact (List.pairwise_cons.mp ascends.ascending).1 _ member

/-- A new path in a full cache pushes out the eldest and no other. -/
theorem Follows.set_evicts (follows : Follows cache map lines) (tree : Option τ)
    (digest : Digest) (absent : cache.has path = false)
    (full : cache.capacity < cache.size + 1) :
    ∃ victim, map.Eldest victim ∧
      (∀ other, TreeCache.entry? (cache.set path tree digest) other =
        if other = path then some ⟨tree, digest⟩
        else if other = victim then none else cache.entry? other) ∧
      (cache.set path tree digest).evictions = cache.evictions + 1 := by
  have bounded : (mapValues Stamped.toCacheEntry lines).length ≤ cache.capacity := by
    simpa [mapValues] using follows.bounded
  have positive := follows.positive
  have missing : (mapValues Stamped.toCacheEntry lines).lookup path = none := by
    simpa [follows.holds.has_eq] using absent
  obtain ⟨evictions, -, -⟩ := set_counts follows.holds bounded path tree digest
  have held := set_holds follows.holds bounded path tree digest
  have taken : cache.capacity = (mapValues Stamped.toCacheEntry lines).length := by
    rw [follows.holds.size_eq] at full
    omega
  rw [length_place_of_absent missing] at evictions
  cases lines with
  | nil =>
    rw [taken] at positive
    simp [mapValues] at positive
  | cons first rest =>
    refine ⟨first.1, follows.ascends.eldest, ?_, by omega⟩
    intro other
    rw [held.entry?_eq, follows.holds.entry?_eq,
      lookup_trim_place positive follows.holds.distinct bounded]
    simp [missing, ← taken, eq_comm]

end StampedMap

/-- **A tree cache is a map with times of last use.** Whatever is done to a cache of any
capacity, every reply and all counts after it are those of the map, and both keep the same
trees and digests. A stamp is the time of the last use; a new path that exceeds the capacity
pushes out exactly the path with the smallest stamp; a path without a tree is a miss that
changes nothing else; taking a tree leaves its entry and digest; and only a digest of the
current scheme that equals the stored one is valid. -/
theorem cache_refines_stamped_map {τ : Type} (capacity : Nat) (operations : List (Operation τ)) :
    let cache := (TreeCache.new capacity).after operations
    let map := (StampedMap.new capacity).after operations
    (TreeCache.new capacity).observe operations =
        (StampedMap.new capacity).observe operations ∧
      (∀ path, cache.entry? path = (map.stamped? path).map Stamped.toCacheEntry) ∧
      (∀ operation, map.StampsUses operation (map.step operation).2) ∧
      (∀ path tree digest, cache.has path = false → max 1 capacity < cache.size + 1 →
        ∃ victim, map.Eldest victim ∧
          (∀ other, TreeCache.entry? (cache.set path tree digest) other =
            if other = path then some ⟨tree, digest⟩
            else if other = victim then none else cache.entry? other) ∧
          (cache.set path tree digest).evictions = cache.evictions + 1) ∧
      (∀ path, cache.tree? path = none →
        cache.get path = (none, { cache with misses := cache.misses + 1 }) ∧
          cache.takeTree path = (none, { cache with misses := cache.misses + 1 })) ∧
      (∀ path, TreeCache.entry? (cache.takeTree path).2 path =
        (cache.entry? path).map fun entry => { entry with tree := none }) ∧
      (∀ path digest, cache.isValid path digest = true ↔
        digest.version = Digest.currentVersion ∧
          ∃ entry, cache.entry? path = some entry ∧ entry.digest = digest) := by
  intro cache map
  obtain ⟨lines, follows⟩ := (StampedMap.Follows.new (τ := τ) capacity).after operations
  refine ⟨(StampedMap.Follows.new capacity).observe operations, ?_, ?_, ?_, ?_, ?_, ?_⟩
  · intro path
    rw [follows.holds.entry?_eq, follows.lookup_eq]
  · intro operation
    exact StampedMap.step_stamps follows.ascends (follows.capacity ▸ follows.bounded) operation
  · intro path tree digest absent full
    exact follows.set_evicts tree digest absent (by rwa [after_capacity])
  · intro path absent
    simp [TreeCache.get, TreeCache.takeTree, absent, TreeCache.miss]
  · exact takeTree_keeps_entry follows.holds
  · exact isValid_iff cache

/-- Two paths fill a cache of two; marking the first leaves the second, which has no tree, as
the eldest. -/
theorem full_cache_evicts_unmarked :
    let operations : List (Operation String) :=
      [.set "a" (some "x") ⟨1, 1⟩, .set "b" none ⟨2, 1⟩, .markUsed "a"]
    let cache := (TreeCache.new 2).after operations
    (cache.has "c" = false ∧ max 1 2 < cache.size + 1 ∧ cache.tree? "b" = none) ∧
      (∃ victim, ((StampedMap.new 2).after operations).Eldest victim ∧
        (∀ other, TreeCache.entry? (cache.set "c" (some "z") ⟨3, 1⟩) other =
          if other = "c" then some ⟨some "z", ⟨3, 1⟩⟩
          else if other = victim then none else cache.entry? other) ∧
        (cache.set "c" (some "z") ⟨3, 1⟩).evictions = cache.evictions + 1) ∧
      cache.takeTree "b" = (none, { cache with misses := cache.misses + 1 }) := by
  intro operations cache
  have fresh : cache.has "c" = false := by decide
  have full : max 1 2 < cache.size + 1 := by decide
  have bare : cache.tree? "b" = none := by decide
  obtain ⟨-, -, -, evicts, misses, -, -⟩ := cache_refines_stamped_map 2 operations
  exact ⟨⟨fresh, full, bare⟩, evicts "c" (some "z") ⟨3, 1⟩ fresh full, (misses "b" bare).2⟩

end SourceFacts

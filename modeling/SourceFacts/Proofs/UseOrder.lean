import SourceFacts.Proofs.StampedMap

/-! The two containers of a tree cache stay in step. The entries and the order of use are
changed by separate statements, and a path that stood twice in the order, or in the order
alone, would show only when its turn to give way came. No such path ever gets there, so a set
evicts one path at most, never its own, and eviction never runs out of paths. -/
namespace SourceFacts.TreeCache
open Recency

variable {τ : Type} {cache start : TreeCache τ} {lines : List (String × CacheEntry τ)}
  {path other : String}

/-- The order of use has every path with an entry once and no other path, and the entries, one
for each path, are no more than there is room for. -/
structure InStep (cache : TreeCache τ) : Prop where
  distinct : (cache.entries.map Prod.fst).Nodup
  order : ∀ path, cache.order.count path = if cache.has path then 1 else 0
  positive : 1 ≤ cache.capacity
  bounded : cache.size ≤ cache.capacity

theorem Holds.mem_order (held : cache.Holds lines) (path : String) :
    path ∈ cache.order ↔ cache.has path = true := by
  rw [held.has_eq, held.order, isSome_lookup]

theorem Holds.inStep (held : cache.Holds lines) (positive : 1 ≤ cache.capacity)
    (bounded : lines.length ≤ cache.capacity) : cache.InStep where
  distinct := Distinct.perm held.distinct held.entries
  order := by
    intro path
    have present := held.mem_order path
    split
    · rename_i found
      exact List.count_eq_one_of_mem held.order_nodup (present.mpr found)
    · rename_i missing
      exact List.count_eq_zero.mpr (mt present.mp missing)
  positive := positive
  bounded := by rwa [held.size_eq]

/-! ## What gives way -/

/-- The path that gives way when a path is set: where a new one finds no room, the path used
least recently. -/
def victim? (cache : TreeCache τ) (path : String) : Option String :=
  if cache.has path || decide (cache.size < cache.capacity) then none else cache.order.head?

theorem Holds.has_victim (held : cache.Holds lines) (victim : cache.victim? path = some other) :
    cache.has path = false ∧ cache.has other = true := by
  unfold victim? at victim
  split at victim
  · cases victim
  · rename_i evicts
    rw [Bool.or_eq_true, not_or, Bool.not_eq_true] at evicts
    exact ⟨evicts.1, (held.mem_order other).mp (List.mem_of_head? victim)⟩

/-- A path does not give way to itself. -/
theorem Holds.victim_ne (held : cache.Holds lines) (path : String) :
    cache.victim? path ≠ some path := by
  intro victim
  obtain ⟨absent, present⟩ := held.has_victim victim
  rw [absent] at present
  cases present

theorem Holds.victim_iff (held : cache.Holds lines) (bounded : lines.length ≤ cache.capacity) :
    cache.victim? path = some other ↔
      lines.lookup path = none ∧ lines.length = cache.capacity ∧
        (lines.map Prod.fst).head? = some other := by
  unfold victim?
  rw [held.has_eq, held.size_eq, held.order]
  cases lines.lookup path with
  | some entry => simp
  | none =>
    have full : lines.length = cache.capacity ↔ ¬ lines.length < cache.capacity := by omega
    by_cases room : lines.length < cache.capacity
    · simp [room, full]
    · simp [room, full]

/-- Setting a path gives it its entry and takes the entry of the victim, if there is one; all
other entries stay. -/
theorem Holds.set_entry? (held : cache.Holds lines) (positive : 1 ≤ cache.capacity)
    (bounded : lines.length ≤ cache.capacity) (path : String) (tree : Option τ)
    (digest : Digest) (other : String) :
    TreeCache.entry? (cache.set path tree digest) other =
      if other = path then some ⟨tree, digest⟩
      else if cache.victim? path = some other then none else cache.entry? other := by
  have later := set_holds held bounded path tree digest
  rw [later.entry?_eq, held.entry?_eq, lookup_trim_place positive held.distinct bounded]
  simp only [held.victim_iff bounded]

/-- Evictions are counted one for each victim. -/
theorem Holds.set_evictions (held : cache.Holds lines) (positive : 1 ≤ cache.capacity)
    (bounded : lines.length ≤ cache.capacity) (path : String) (tree : Option τ)
    (digest : Digest) :
    (cache.set path tree digest).evictions =
      cache.evictions + (cache.victim? path).toList.length := by
  rw [(set_counts held bounded path tree digest).1]
  cases found : lines.lookup path with
  | some entry =>
    have none : cache.victim? path = none := by simp [victim?, held.has_eq, found]
    rw [length_place_of_present held.distinct found, none, Option.toList_none, List.length_nil]
    omega
  | none =>
    rw [length_place_of_absent found]
    by_cases room : lines.length < cache.capacity
    · have none : cache.victim? path = none := by simp [victim?, held.size_eq, room]
      rw [none, Option.toList_none, List.length_nil]
      omega
    · cases lines with
      | nil =>
        rw [List.length_nil] at room
        omega
      | cons first rest =>
        have victim : cache.victim? path = some first.1 :=
          (held.victim_iff bounded).mpr ⟨found, by omega, rfl⟩
        rw [victim, Option.toList_some, List.length_singleton]
        omega

/-! ## Rounds of eviction -/

/-- The cache with a new path behind all others, before any of them gives way. -/
def extended (cache : TreeCache τ) (path : String) (tree : Option τ) (digest : Digest) :
    TreeCache τ :=
  { cache with
    entries := cache.entries ++ [(path, ⟨tree, digest⟩)]
    order := cache.order ++ [path] }

/-- The caches that eviction passes through: as long as there are too many entries, the first
path of the order gives way. -/
inductive Evicting (start : TreeCache τ) : TreeCache τ → Prop where
  | begins : Evicting start start
  | round {cache : TreeCache τ} {path : String} {rest : List String}
      (evicting : Evicting start cache) (full : cache.capacity < cache.size)
      (first : cache.order = path :: rest) :
      Evicting start
        { cache with
          entries := cache.entries.filter (·.1 ≠ path)
          order := rest
          evictions := cache.evictions + if cache.has path then 1 else 0 }

/-- Eviction takes one round after the other. -/
theorem Evicting.evict (evicting : Evicting start cache) :
    Evicting start (cache.evict cache.order) := by
  generalize shape : cache.order = order
  induction order generalizing cache with
  | nil =>
    rw [TreeCache.evict, ← shape]
    exact evicting
  | cons path rest ih =>
    unfold TreeCache.evict
    split
    · rename_i full
      exact ih (evicting.round full shape) rfl
    · rw [← shape]
      exact evicting

theorem set_evicting (absent : cache.has path = false) (tree : Option τ) (digest : Digest) :
    Evicting (cache.extended path tree digest) (cache.set path tree digest) := by
  rw [TreeCache.set, if_neg (by simp [absent])]
  exact Evicting.begins.evict

theorem Holds.extended (held : cache.Holds lines) (absent : cache.has path = false)
    (tree : Option τ) (digest : Digest) :
    (cache.extended path tree digest).Holds (place path ⟨tree, digest⟩ lines) := by
  have missing : lines.lookup path = none := by simpa [held.has_eq] using absent
  refine ⟨distinct_place held.distinct, ?_, ?_⟩
  · simp [TreeCache.extended, place, others_of_absent missing, held.order]
  · rw [place, others_of_absent missing]
    exact held.entries.append_right _

/-- A round takes the first line and leaves the two containers in step. -/
theorem Evicting.holds (evicting : Evicting start cache) (held : start.Holds lines) :
    ∃ left, cache.Holds left := by
  induction evicting with
  | begins => exact ⟨lines, held⟩
  | @round cache path rest evicting full first ih =>
    obtain ⟨left, holds⟩ := ih
    have shape := holds.order
    rw [first] at shape
    cases left with
    | nil => cases shape
    | cons line left =>
      obtain ⟨rfl, rfl⟩ := List.cons.inj shape
      have entries := holds.entries.filter fun entry => decide (entry.1 ≠ line.1)
      have apart : (line :: left).filter (fun entry => decide (entry.1 ≠ line.1)) = left :=
        others_first holds.distinct
      rw [apart] at entries
      exact ⟨left, (List.nodup_cons.mp holds.distinct).2, rfl, entries⟩

/-- There are as many paths in the order as there are entries, so where there are too many
entries there is a path to give way. -/
theorem Holds.order_ne_nil (held : cache.Holds lines) (full : cache.capacity < cache.size) :
    cache.order ≠ [] := by
  intro empty
  have paths := congrArg List.length held.order
  rw [empty, List.length_nil, List.length_map, ← held.size_eq] at paths
  omega

/-- **The order of use has every cached path once and nothing else**, after whatever was done to
a cache of any capacity, and the cache never has more entries than it has room for, which is one
at least. Setting a path therefore leaves it there with its new entry. It evicts nothing unless
the path is new and there is no room, and then the one path used least recently, which is another
one; and eviction never finds the order empty while there are too many entries. -/
theorem order_lists_cached_paths_once (capacity : Nat) (operations : List (Operation τ)) :
    let cache := (TreeCache.new capacity).after operations
    cache.InStep ∧ cache.capacity = max 1 capacity ∧
      ∀ path tree digest,
        let later := cache.set path tree digest
        let evicted := cache.victim? path
        later.has path = true ∧
          (∀ other, TreeCache.entry? later other =
            if other = path then some ⟨tree, digest⟩
            else if evicted = some other then none else cache.entry? other) ∧
          later.evictions = cache.evictions + evicted.toList.length ∧
          evicted ≠ some path ∧
          (cache.has path = false →
            Evicting (cache.extended path tree digest) later ∧
              ∀ between, Evicting (cache.extended path tree digest) between →
                between.capacity < between.size → between.order ≠ []) := by
  intro cache
  obtain ⟨stamps, follows⟩ := (StampedMap.Follows.new (τ := τ) capacity).after operations
  have held := follows.holds
  have positive := follows.positive
  have bounded : (mapValues Stamped.toCacheEntry stamps).length ≤ cache.capacity := by
    simpa [mapValues] using follows.bounded
  refine ⟨held.inStep positive bounded, after_capacity _ operations, ?_⟩
  intro path tree digest later evicted
  have entries := held.set_entry? positive bounded path tree digest
  have evictions := held.set_evictions positive bounded path tree digest
  refine ⟨?_, entries, evictions, held.victim_ne path, ?_⟩
  · have own : TreeCache.entry? later path = some ⟨tree, digest⟩ :=
      (entries path).trans (if_pos rfl)
    rw [TreeCache.has, own]
    rfl
  · intro absent
    refine ⟨set_evicting absent tree digest, ?_⟩
    intro between evicting full
    obtain ⟨left, holds⟩ := evicting.holds (held.extended absent tree digest)
    exact holds.order_ne_nil full

/-- A cache that was asked to hold nothing holds one path. Setting a second one makes room by
one round of eviction, which finds the first in the order. -/
theorem second_path_takes_only_room :
    let cache := (TreeCache.new 0).after [.set "a" (some "x") ⟨1, 1⟩, .get "a"]
    let crowded := cache.extended "b" none ⟨2, 1⟩
    (cache.has "b" = false ∧ crowded.capacity < crowded.size) ∧
      crowded.order ≠ [] ∧ cache.victim? "b" = some "a" ∧
      (cache.set "b" none ⟨2, 1⟩).evictions = cache.evictions + 1 ∧
      TreeCache.entry? (cache.set "b" none ⟨2, 1⟩) "a" = none := by
  intro cache crowded
  have absent : cache.has "b" = false := by decide
  have full : crowded.capacity < crowded.size := by decide
  have victim : cache.victim? "b" = some "a" := by decide
  obtain ⟨-, -, sets⟩ :=
    order_lists_cached_paths_once 0 [.set "a" (some "x") ⟨1, 1⟩, .get "a"]
  obtain ⟨-, entries, evictions, -, rounds⟩ := sets "b" none ⟨2, 1⟩
  refine ⟨⟨absent, full⟩, (rounds absent).2 crowded .begins full, victim, ?_, ?_⟩
  · rw [evictions, victim]
    rfl
  · rw [entries, victim]
    rfl

end SourceFacts.TreeCache

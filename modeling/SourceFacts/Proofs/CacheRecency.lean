import SourceFacts.TreeCache
import SourceFacts.Proofs.Recency

/-! A tree cache seen through its order of use. `Holds` ties the two containers of a
cache, the entries and the order, to one list of lines; each operation is described by
what it does to these lines, and no later proof opens an operation again. -/
namespace SourceFacts.TreeCache
open Recency

variable {τ : Type} {cache : TreeCache τ} {lines : List (String × CacheEntry τ)}
  {path other : String} {entry : CacheEntry τ}

/-- The cache has exactly these entries, and uses their paths in this order. -/
structure Holds (cache : TreeCache τ) (lines : List (String × CacheEntry τ)) : Prop where
  distinct : Distinct lines
  order : cache.order = lines.map Prod.fst
  entries : cache.entries.Perm lines

theorem new_holds (capacity : Nat) : (new (τ := τ) capacity).Holds [] :=
  ⟨List.nodup_nil, rfl, List.Perm.nil⟩

namespace Holds

theorem entry?_eq (held : cache.Holds lines) (path : String) :
    cache.entry? path = lines.lookup path :=
  lookup_perm held.distinct held.entries path

theorem has_eq (held : cache.Holds lines) (path : String) :
    cache.has path = (lines.lookup path).isSome := by
  rw [has, held.entry?_eq]

theorem tree?_eq (held : cache.Holds lines) (path : String) :
    cache.tree? path = (lines.lookup path).bind CacheEntry.tree := by
  rw [tree?, held.entry?_eq]

theorem size_eq (held : cache.Holds lines) : cache.size = lines.length :=
  held.entries.length_eq

theorem order_nodup (held : cache.Holds lines) : cache.order.Nodup :=
  held.order ▸ held.distinct

/-- Only the two containers count: two caches that share them hold the same lines. -/
theorem of_same {later : TreeCache τ} (held : cache.Holds lines)
    (entries : later.entries = cache.entries) (order : later.order = cache.order) :
    later.Holds lines :=
  ⟨held.distinct, order.trans held.order, entries ▸ held.entries⟩

end Holds

/-! ## Touching -/

@[simp] theorem touch_entries : (cache.touch path).entries = cache.entries := by
  unfold touch; split <;> rfl

@[simp] theorem touch_capacity : (cache.touch path).capacity = cache.capacity := by
  unfold touch; split <;> rfl

@[simp] theorem touch_hits : (cache.touch path).hits = cache.hits := by
  unfold touch; split <;> rfl

@[simp] theorem touch_misses : (cache.touch path).misses = cache.misses := by
  unfold touch; split <;> rfl

@[simp] theorem touch_evictions : (cache.touch path).evictions = cache.evictions := by
  unfold touch; split <;> rfl

@[simp] theorem hit_capacity : (cache.hit path).capacity = cache.capacity := touch_capacity

@[simp] theorem hit_hits : (cache.hit path).hits = cache.hits + 1 := rfl

@[simp] theorem hit_misses : (cache.hit path).misses = cache.misses := touch_misses

@[simp] theorem hit_evictions : (cache.hit path).evictions = cache.evictions := touch_evictions

/-- The shortcut for a path at the back is sound: with no path twice in the order, taking
it out and putting it behind changes nothing. -/
theorem touch_order (distinct : cache.order.Nodup) :
    (cache.touch path).order = cache.order.filter (· ≠ path) ++ [path] := by
  unfold touch
  split
  · rename_i last
    obtain ⟨front, shape⟩ := List.getLast?_eq_some_iff.mp last
    rw [shape] at distinct
    have absent : path ∉ front := fun member =>
      (List.nodup_append.mp distinct).2.2 path member path (by simp) rfl
    have kept : front.filter (fun used => decide (used ≠ path)) = front := by
      apply List.filter_eq_self.mpr
      intro used member
      exact decide_eq_true fun same => absent (same ▸ member)
    rw [shape, List.filter_append, kept]
    simp
  · rfl

/-- Changing an entry and touching its path makes it the last line. -/
theorem modifyEntry_touch_holds (held : cache.Holds lines)
    (found : lines.lookup path = some entry) (change : CacheEntry τ → CacheEntry τ) :
    ((cache.modifyEntry path change).touch path).Holds (place path (change entry) lines) where
  distinct := distinct_place held.distinct
  order := by
    have distinct : (cache.modifyEntry path change).order.Nodup := held.order_nodup
    rw [touch_order distinct, map_fst_place, ← held.order]
    rfl
  entries := by
    rw [touch_entries]
    exact perm_update held.distinct held.entries found change

theorem modifyEntry_id (cache : TreeCache τ) (path : String) :
    cache.modifyEntry path id = cache := by
  simp [modifyEntry]

theorem hit_holds (held : cache.Holds lines) (found : lines.lookup path = some entry) :
    (cache.hit path).Holds (place path entry lines) := by
  have touched := modifyEntry_touch_holds held found id
  rw [modifyEntry_id] at touched
  exact touched.of_same rfl rfl

theorem miss_holds (held : cache.Holds lines) : cache.miss.Holds lines :=
  held.of_same rfl rfl

/-! ## Looking and taking -/

/-- Looking at a tree and taking it differ only in what they leave behind. -/
def find (cache : TreeCache τ) (path : String) (left : CacheEntry τ → CacheEntry τ) :
    Option τ × TreeCache τ :=
  match cache.tree? path with
  | some tree => (some tree, (cache.modifyEntry path left).hit path)
  | none => (none, cache.miss)

theorem takeTree_eq_find (cache : TreeCache τ) (path : String) :
    cache.takeTree path = cache.find path ({ · with tree := none }) := rfl

theorem get_eq_find (cache : TreeCache τ) (path : String) :
    cache.get path = cache.find path id := by
  unfold get find
  cases cache.tree? path <;> simp only [modifyEntry_id]

@[simp] theorem find_capacity (cache : TreeCache τ) (path : String)
    (left : CacheEntry τ → CacheEntry τ) : (cache.find path left).2.capacity = cache.capacity := by
  unfold find
  split
  · exact hit_capacity
  · rfl

theorem find_present (held : cache.Holds lines) {tree : τ}
    (found : lines.lookup path = some entry) (present : entry.tree = some tree)
    (left : CacheEntry τ → CacheEntry τ) :
    cache.find path left = (some tree, (cache.modifyEntry path left).hit path) ∧
      ((cache.modifyEntry path left).hit path).Holds (place path (left entry) lines) := by
  have looked : cache.tree? path = some tree := by simp [held.tree?_eq, found, present]
  refine ⟨by simp only [find, looked], ?_⟩
  exact (modifyEntry_touch_holds held found left).of_same rfl rfl

theorem find_absent (held : cache.Holds lines)
    (absent : (lines.lookup path).bind CacheEntry.tree = none)
    (left : CacheEntry τ → CacheEntry τ) : cache.find path left = (none, cache.miss) := by
  simp [find, held.tree?_eq, absent]

/-- Taking a tree leaves the rest of its entry in place. -/
theorem takeTree_keeps_entry (held : cache.Holds lines) (path : String) :
    TreeCache.entry? (cache.takeTree path).2 path =
      (cache.entry? path).map fun entry => { entry with tree := none } := by
  rw [takeTree_eq_find, held.entry?_eq]
  cases found : lines.lookup path with
  | none =>
    rw [find_absent held (by simp [found])]
    exact (miss_holds held).entry?_eq path |>.trans found
  | some entry =>
    cases present : entry.tree with
    | none =>
      rw [find_absent held (by simp [found, present])]
      rw [(miss_holds held).entry?_eq path, found]
      cases entry
      simp_all
    | some tree =>
      obtain ⟨same, holds⟩ := find_present held found present ({ · with tree := none })
      rw [same]
      simp [holds.entry?_eq, lookup_place]

/-- Only a digest of the current scheme that equals the stored one is valid. -/
theorem isValid_iff (cache : TreeCache τ) (path : String) (digest : Digest) :
    cache.isValid path digest = true ↔ digest.version = Digest.currentVersion ∧
      ∃ entry, cache.entry? path = some entry ∧ entry.digest = digest := by
  simp [isValid, Digest.isCurrent, Option.any_eq_true]

/-! ## Setting -/

@[simp] theorem evict_capacity (cache : TreeCache τ) (order : List String) :
    (cache.evict order).capacity = cache.capacity := by
  induction order generalizing cache with
  | nil => rfl
  | cons path rest ih =>
    unfold evict
    split
    · exact ih _
    · rfl

@[simp] theorem set_capacity (cache : TreeCache τ) (path : String) (tree : Option τ)
    (digest : Digest) : (cache.set path tree digest).capacity = cache.capacity := by
  unfold set
  split
  · exact touch_capacity
  · exact evict_capacity _ _

/-- Eviction leaves the last lines that fit, and counts the others. -/
theorem evict_holds (lines : List (String × CacheEntry τ)) (cache : TreeCache τ)
    (distinct : Distinct lines) (entries : cache.entries.Perm lines) :
    (cache.evict (lines.map Prod.fst)).Holds (trim cache.capacity lines) ∧
      (cache.evict (lines.map Prod.fst)).evictions =
        cache.evictions + (lines.length - cache.capacity) ∧
      (cache.evict (lines.map Prod.fst)).hits = cache.hits ∧
      (cache.evict (lines.map Prod.fst)).misses = cache.misses := by
  induction lines generalizing cache with
  | nil =>
    have shape : trim cache.capacity ([] : List (String × CacheEntry τ)) = [] := by simp [trim]
    rw [shape]
    exact ⟨⟨List.nodup_nil, rfl, entries⟩, by simp [evict], rfl, rfl⟩
  | cons line rest ih =>
    have restDistinct : Distinct rest := (List.nodup_cons.mp distinct).2
    have size : cache.size = rest.length + 1 := entries.length_eq
    simp only [List.map_cons, evict, size, List.length_cons]
    by_cases full : cache.capacity < rest.length + 1
    · have found : cache.has line.1 = true := by
        rw [has, entry?, lookup_perm distinct entries]
        simp
      have left : (cache.entries.filter (·.1 ≠ line.1)).Perm rest := by
        have filtered : (others line.1 cache.entries).Perm (others line.1 (line :: rest)) :=
          entries.filter _
        rw [others_first distinct] at filtered
        exact filtered
      simp only [full, ↓reduceIte, found]
      obtain ⟨holds, evictions, hits, misses⟩ := ih
        { cache with
          entries := cache.entries.filter (·.1 ≠ line.1)
          order := rest.map Prod.fst
          evictions := cache.evictions + 1 } restDistinct left
      refine ⟨?_, ?_, hits, misses⟩
      · have shorter : trim cache.capacity (line :: rest) = trim cache.capacity rest := by
          simp only [trim, List.length_cons]
          rw [show rest.length + 1 - cache.capacity = (rest.length - cache.capacity) + 1 by omega,
            List.drop_succ_cons]
        rw [shorter]
        exact holds
      · rw [evictions]
        simp only
        omega
    · have room : (line :: rest).length ≤ cache.capacity := by simp only [List.length_cons]; omega
      simp only [full, ↓reduceIte, trim_of_room room, and_self, and_true]
      refine ⟨⟨distinct, rfl, entries⟩, ?_⟩
      simp only [List.length_cons] at room
      omega

theorem set_of_present (held : cache.Holds lines) (found : lines.lookup path = some entry)
    (tree : Option τ) (digest : Digest) :
    cache.set path tree digest =
      (cache.modifyEntry path fun _ => ⟨tree, digest⟩).touch path := by
  have present : cache.has path = true := by simp [held.has_eq, found]
  rw [set, if_pos present]

theorem set_of_absent (held : cache.Holds lines) (absent : lines.lookup path = none)
    (tree : Option τ) (digest : Digest) :
    cache.set path tree digest =
      evict
        { cache with
          entries := cache.entries ++ [(path, ⟨tree, digest⟩)]
          order := (place path (⟨tree, digest⟩ : CacheEntry τ) lines).map Prod.fst }
        ((place path (⟨tree, digest⟩ : CacheEntry τ) lines).map Prod.fst) := by
  have missing : ¬ cache.has path = true := by simp [held.has_eq, absent]
  have order : cache.order ++ [path] =
      (place path (⟨tree, digest⟩ : CacheEntry τ) lines).map Prod.fst := by
    rw [place, others_of_absent absent]
    simp [held.order]
  rw [set, if_neg missing]
  simp only [order]

private theorem append_perm (held : cache.Holds lines) (absent : lines.lookup path = none) :
    (cache.entries ++ [(path, entry)]).Perm (place path entry lines) := by
  rw [place, others_of_absent absent]
  exact held.entries.append_right _

/-- Setting a path makes it the last line; a path in excess gives way. -/
theorem set_holds (held : cache.Holds lines) (bounded : lines.length ≤ cache.capacity)
    (path : String) (tree : Option τ) (digest : Digest) :
    (cache.set path tree digest).Holds
      (trim cache.capacity (place path ⟨tree, digest⟩ lines)) := by
  cases found : lines.lookup path with
  | some entry =>
    have room : (place path (⟨tree, digest⟩ : CacheEntry τ) lines).length ≤ cache.capacity := by
      rw [length_place_of_present held.distinct found]
      exact bounded
    rw [set_of_present held found, trim_of_room room]
    exact modifyEntry_touch_holds held found fun _ => ⟨tree, digest⟩
  | none =>
    rw [set_of_absent held found]
    exact (evict_holds _ _ (distinct_place held.distinct) (append_perm held found)).1

/-- What setting a path counts, and what it leaves alone. -/
theorem set_counts (held : cache.Holds lines) (bounded : lines.length ≤ cache.capacity)
    (path : String) (tree : Option τ) (digest : Digest) :
    (cache.set path tree digest).evictions = cache.evictions +
        ((place path (⟨tree, digest⟩ : CacheEntry τ) lines).length - cache.capacity) ∧
      (cache.set path tree digest).hits = cache.hits ∧
      (cache.set path tree digest).misses = cache.misses := by
  cases found : lines.lookup path with
  | some entry =>
    rw [set_of_present held found, length_place_of_present held.distinct found]
    simp only [touch_evictions, touch_hits, touch_misses, modifyEntry,
      and_self, and_true]
    omega
  | none =>
    rw [set_of_absent held found]
    exact (evict_holds _ _ (distinct_place held.distinct) (append_perm held found)).2

/-! ## Removing -/

theorem invalidate_holds (held : cache.Holds lines) (path : String) :
    (cache.invalidate path).1 = (lines.lookup path).isSome ∧
      (cache.invalidate path).2.Holds (others path lines) := by
  unfold invalidate
  cases found : lines.lookup path with
  | some entry =>
    have present : cache.has path = true := by simp [held.has_eq, found]
    rw [if_pos present]
    exact ⟨rfl, distinct_others held.distinct, by rw [held.order, map_fst_others],
      held.entries.filter _⟩
  | none =>
    have absent : ¬ cache.has path = true := by simp [held.has_eq, found]
    rw [if_neg absent, others_of_absent found]
    exact ⟨rfl, held⟩

theorem invalidateWhere_holds (held : cache.Holds lines) (matching : String → Bool) :
    (cache.invalidateWhere matching).1 =
        lines.length - (lines.filter fun line => !matching line.1).length ∧
      (cache.invalidateWhere matching).2.Holds (lines.filter fun line => !matching line.1) := by
  have left := held.entries.filter fun line => !matching line.1
  refine ⟨?_, distinct_filter held.distinct (!matching ·), ?_, left⟩
  · rw [invalidateWhere, held.size_eq, left.length_eq]
  · simp [invalidateWhere, held.order, List.filter_map, Function.comp_def]

@[simp] theorem invalidate_capacity (cache : TreeCache τ) (path : String) :
    (cache.invalidate path).2.capacity = cache.capacity := by
  unfold invalidate
  split <;> rfl

theorem invalidateMany_capacity (cache : TreeCache τ) (paths : List String) :
    (cache.invalidateMany paths).2.capacity = cache.capacity := by
  induction paths generalizing cache with
  | nil => rfl
  | cons path rest ih => exact (ih _).trans (invalidate_capacity cache path)

theorem clear_holds (cache : TreeCache τ) : cache.clear.Holds [] :=
  ⟨List.nodup_nil, rfl, List.Perm.nil⟩

/-- No operation changes the capacity. -/
theorem step_capacity (cache : TreeCache τ) (operation : Operation τ) :
    (cache.step operation).2.capacity = cache.capacity := by
  cases operation with
  | get path => simp [step, get_eq_find]
  | takeTree path => simp [step, takeTree_eq_find]
  | markUsed path => simp only [step, markUsed]; split <;> simp [miss]
  | invalidateMany paths => exact invalidateMany_capacity cache paths
  | _ => simp [step, invalidateWhere, clear, dispose, resetStats]

end SourceFacts.TreeCache

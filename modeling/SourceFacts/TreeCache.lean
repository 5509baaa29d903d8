import SourceFacts.Digest

/-!
A bounded cache of syntax trees. Each path has at most one entry: a tree, unless there is none or it
was taken out, and the digest of the content that it was read from. When a new path exceeds the
capacity, the path that has gone unused for longest gives way.
-/
namespace SourceFacts

/-- What is kept for a path. -/
structure CacheEntry (τ : Type) where
  tree : Option τ
  digest : Digest

/-- Trees by path, the paths in order of use, the least recent first, and what happened so far. -/
structure TreeCache (τ : Type) where
  capacity : Nat
  entries : List (String × CacheEntry τ)
  order : List String
  hits : Nat
  misses : Nat
  evictions : Nat

namespace TreeCache

variable {τ : Type}

/-- The capacity of a cache if none is asked for. -/
def defaultCapacity : Nat := 100

/-- A cache without entries. Its capacity is at least one. -/
def new (capacity : Nat) : TreeCache τ := ⟨max 1 capacity, [], [], 0, 0, 0⟩

/-- The entry of a path. -/
def entry? (cache : TreeCache τ) (path : String) : Option (CacheEntry τ) :=
  cache.entries.lookup path

/-- Whether a path has an entry. -/
def has (cache : TreeCache τ) (path : String) : Bool := (cache.entry? path).isSome

/-- The number of entries. -/
def size (cache : TreeCache τ) : Nat := cache.entries.length

/-- Makes a path the one used last. Where it already is, nothing moves. -/
def touch (cache : TreeCache τ) (path : String) : TreeCache τ :=
  if cache.order.getLast? = some path then cache
  else { cache with order := cache.order.filter (· ≠ path) ++ [path] }

/-- Counts a use that found what it wanted, and makes its path the one used last. -/
def hit (cache : TreeCache τ) (path : String) : TreeCache τ :=
  { cache.touch path with hits := cache.hits + 1 }

/-- Counts a use that found nothing. -/
def miss (cache : TreeCache τ) : TreeCache τ := { cache with misses := cache.misses + 1 }

/-- The tree of a path. -/
def tree? (cache : TreeCache τ) (path : String) : Option τ :=
  (cache.entry? path).bind CacheEntry.tree

/-- Looks at the tree of a path. -/
def get (cache : TreeCache τ) (path : String) : Option τ × TreeCache τ :=
  match cache.tree? path with
  | some tree => (some tree, cache.hit path)
  | none => (none, cache.miss)

/-- Changes the entry of a path where it stands. -/
def modifyEntry (cache : TreeCache τ) (path : String) (change : CacheEntry τ → CacheEntry τ) :
    TreeCache τ :=
  { cache with
    entries := cache.entries.map fun (key, entry) =>
      if key = path then (key, change entry) else (key, entry) }

/-- Takes the tree of a path out; its entry and digest stay. -/
def takeTree (cache : TreeCache τ) (path : String) : Option τ × TreeCache τ :=
  match cache.tree? path with
  | some tree => (some tree, (cache.modifyEntry path ({ · with tree := none })).hit path)
  | none => (none, cache.miss)

/-- Removes the paths used least recently while there are too many entries. The list is the order of
use that is still to be looked at. -/
def evict (cache : TreeCache τ) : List String → TreeCache τ
  | [] => { cache with order := [] }
  | path :: rest =>
    if cache.capacity < cache.size then
      let entries := cache.entries.filter (·.1 ≠ path)
      let evicted := if cache.has path then 1 else 0
      evict { cache with entries, order := rest, evictions := cache.evictions + evicted } rest
    else { cache with order := path :: rest }

/-- Sets the entry of a path. A new path may push out others. -/
def set (cache : TreeCache τ) (path : String) (tree : Option τ) (digest : Digest) : TreeCache τ :=
  if cache.has path then (cache.modifyEntry path fun _ => ⟨tree, digest⟩).touch path
  else
    let order := cache.order ++ [path]
    evict { cache with entries := cache.entries ++ [(path, ⟨tree, digest⟩)], order } order

/-- Whether a path was read from a content with this digest. A digest of another scheme says
nothing. -/
def isValid (cache : TreeCache τ) (path : String) (digest : Digest) : Bool :=
  digest.isCurrent && (cache.entry? path).any (·.digest = digest)

/-- Counts a use of a path without looking at its tree. -/
def markUsed (cache : TreeCache τ) (path : String) : Bool × TreeCache τ :=
  if cache.has path then (true, cache.hit path) else (false, cache.miss)

/-- Removes a path. -/
def invalidate (cache : TreeCache τ) (path : String) : Bool × TreeCache τ :=
  if cache.has path then
    (true, { cache with
      entries := cache.entries.filter (·.1 ≠ path)
      order := cache.order.filter (· ≠ path) })
  else (false, cache)

/-- Removes paths one after the other and counts those that were there. -/
def invalidateMany (cache : TreeCache τ) : List String → Nat × TreeCache τ
  | [] => (0, cache)
  | path :: rest =>
    let (removed, cache) := cache.invalidate path
    let (count, cache) := invalidateMany cache rest
    (count + removed.toNat, cache)

/-- Removes every path that matches and counts the removed entries. -/
def invalidateWhere (cache : TreeCache τ) (matching : String → Bool) : Nat × TreeCache τ :=
  let entries := cache.entries.filter fun entry => !matching entry.1
  (cache.size - entries.length,
    { cache with entries, order := cache.order.filter fun path => !matching path })

/-- Removes every path; the counts stay. -/
def clear (cache : TreeCache τ) : TreeCache τ := { cache with entries := [], order := [] }

/-- Lets go of every tree. -/
def dispose (cache : TreeCache τ) : TreeCache τ := cache.clear

/-- Starts counting anew. -/
def resetStats (cache : TreeCache τ) : TreeCache τ :=
  { cache with hits := 0, misses := 0, evictions := 0 }

/-- What has happened so far, and how full the cache is. -/
structure Stats where
  hits : Nat
  misses : Nat
  evictions : Nat
  size : Nat
  capacity : Nat
  deriving DecidableEq, Repr, Inhabited

/-- The counts of a cache. -/
def stats (cache : TreeCache τ) : Stats :=
  ⟨cache.hits, cache.misses, cache.evictions, cache.size, cache.capacity⟩

/-- The share of uses that found what they wanted; zero if there were none. -/
def Stats.hitRate (stats : Stats) : Float :=
  let total := stats.hits + stats.misses
  if total = 0 then 0 else stats.hits.toFloat / total.toFloat

/-- Something done to a cache. -/
inductive Operation (τ : Type) where
  | set (path : String) (tree : Option τ) (digest : Digest)
  | get (path : String)
  | takeTree (path : String)
  | isValid (path : String) (digest : Digest)
  | has (path : String)
  | markUsed (path : String)
  | invalidate (path : String)
  | invalidateMany (paths : List String)
  | invalidateWhere (matching : String → Bool)
  | clear
  | dispose
  | resetStats

/-- What an operation gives back. -/
inductive Reply (τ : Type) where
  | none
  | tree (tree : Option τ)
  | flag (value : Bool)
  | count (value : Nat)

/-- Does an operation. -/
def step (cache : TreeCache τ) : Operation τ → Reply τ × TreeCache τ
  | .set path tree digest => (.none, cache.set path tree digest)
  | .get path => let (tree, cache) := cache.get path; (.tree tree, cache)
  | .takeTree path => let (tree, cache) := cache.takeTree path; (.tree tree, cache)
  | .isValid path digest => (.flag (cache.isValid path digest), cache)
  | .has path => (.flag (cache.has path), cache)
  | .markUsed path => let (found, cache) := cache.markUsed path; (.flag found, cache)
  | .invalidate path => let (removed, cache) := cache.invalidate path; (.flag removed, cache)
  | .invalidateMany paths => let (count, cache) := cache.invalidateMany paths; (.count count, cache)
  | .invalidateWhere matching =>
    let (count, cache) := cache.invalidateWhere matching; (.count count, cache)
  | .clear => (.none, cache.clear)
  | .dispose => (.none, cache.dispose)
  | .resetStats => (.none, cache.resetStats)

end TreeCache

end SourceFacts

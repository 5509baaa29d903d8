import SourceFacts.TreeCache
import SourceFacts.Parser

/-!
Reading files again and again. The coordinator keeps a tree and the content for each path, and
chooses for each request the least work that gives the right facts: a content that is cached is only
looked at again, a changed one is read as an edit of the old one, and anything else is read in full.
-/
namespace SourceFacts

/-- How many trees a coordinator keeps, and whether it keeps contents at all. -/
structure CoordinatorOptions where
  maxTrees : Nat := TreeCache.defaultCapacity
  cacheContent : Bool := true
  deriving DecidableEq, Repr, Inhabited

/-- Which way a file was read. -/
inductive Route where
  | cached
  | incremental
  | full
  deriving DecidableEq, Repr, Inhabited

namespace Route

/-- Whether something kept was of use. -/
def wasIncremental : Route → Bool
  | full => false
  | _ => true

/-- Whether the content was the one kept. -/
def wasCached : Route → Bool
  | cached => true
  | _ => false

end Route

/-- The facts of a file and the way that led to them. -/
structure Outcome where
  facts : Facts
  route : Route
  deriving DecidableEq, Repr, Inhabited

/-- What a parser was asked to do. -/
inductive Call (τ : Type) where
  | full
  | incremental (previous : Option τ) (span : EditSpan)

/-- What is kept between requests. -/
structure Coordinator (τ : Type) where
  options : CoordinatorOptions
  trees : TreeCache τ
  contents : List (String × String)
  incrementalParses : Nat
  fullParses : Nat
  cachedParses : Nat
  /-- Time spent on incremental reading, in milliseconds. -/
  incrementalTime : Float
  /-- Time spent on full reading, in milliseconds. -/
  fullTime : Float
  disposed : Bool

/-- What came of a request: the outcome, the call that it took, and the coordinator after it. -/
structure Answered (τ : Type) where
  outcome : Except Error Outcome
  call : Call τ
  state : Coordinator τ

namespace Coordinator

variable {τ : Type}

/-- A coordinator that has read nothing. -/
def new (options : CoordinatorOptions) : Coordinator τ :=
  ⟨options, .new options.maxTrees, [], 0, 0, 0, 0, 0, false⟩

/-- The content kept for a path. -/
def content? (coordinator : Coordinator τ) (path : String) : Option String :=
  coordinator.contents.lookup path

/-- Whether something is kept for a path. -/
def isCached (coordinator : Coordinator τ) (path : String) : Bool := coordinator.trees.has path

/-- What to do with a request. -/
inductive Strategy where
  | cached
  | incremental (edit : Edit)
  | full
  deriving DecidableEq, Repr, Inhabited

/-- Chooses what to do with a content. -/
def strategy (coordinator : Coordinator τ) (path content : String) (digest : Digest) : Strategy :=
  if !coordinator.options.cacheContent then .full
  else if coordinator.trees.isValid path digest then .cached
  else if !coordinator.trees.has path then .full
  else
    match (coordinator.content? path).bind (Edit.between · content) with
    | some edit => .incremental edit
    | none => .full

/-- Keeps a content in place of the one before it. -/
def putContent (contents : List (String × String)) (path content : String) :
    List (String × String) :=
  if (contents.lookup path).isSome then
    contents.map fun (key, old) => if key = path then (key, content) else (key, old)
  else contents ++ [(path, content)]

/-- Keeps what was read. Where a tree gives way, so does its content. -/
def store (coordinator : Coordinator τ) (path content : String) (tree : Option τ)
    (digest : Digest) : Coordinator τ :=
  let trees := coordinator.trees.set path tree digest
  let contents :=
    if coordinator.options.cacheContent then putContent coordinator.contents path content
    else coordinator.contents
  let contents :=
    if trees.size < contents.length then contents.filter (trees.has ·.1) else contents
  { coordinator with trees, contents }

/-- Forgets a path. -/
def invalidateOne (coordinator : Coordinator τ) (path : String) : Coordinator τ :=
  { coordinator with
    trees := (coordinator.trees.invalidate path).2
    contents := coordinator.contents.filter (·.1 ≠ path) }

/-- Looks again at a content whose tree is kept. -/
def runCached (coordinator : Coordinator τ) (parser : Parser τ) (path content : String) :
    Answered τ :=
  match parser.parse content path with
  | .error error => ⟨.error error, .full, coordinator.invalidateOne path⟩
  | .ok parsed =>
    ⟨.ok ⟨parsed.facts, .cached⟩, .full,
      { coordinator with
        trees := (coordinator.trees.markUsed path).2
        cachedParses := coordinator.cachedParses + 1 }⟩

/-- Reads a content as an edit of the one before it. The tree is taken out before the parser has it,
so a failure leaves none behind. -/
def runIncremental (coordinator : Coordinator τ) (parser : Parser τ) (path content : String)
    (digest : Digest) (edit : Edit) : Answered τ :=
  let span := edit.locate ((coordinator.content? path).getD "") content
  let (previous, trees) := coordinator.trees.takeTree path
  let taken := { coordinator with trees }
  let call := .incremental previous span
  match parser.reparse content path previous span with
  | .error error => ⟨.error error, call, taken.invalidateOne path⟩
  | .ok parsed =>
    let stored := taken.store path content parsed.tree digest
    ⟨.ok ⟨parsed.facts, .incremental⟩, call,
      { stored with incrementalParses := stored.incrementalParses + 1 }⟩

/-- Reads a content in full. -/
def runFull (coordinator : Coordinator τ) (parser : Parser τ) (path content : String)
    (digest : Digest) : Answered τ :=
  match parser.parse content path with
  | .error error => ⟨.error error, .full, coordinator.invalidateOne path⟩
  | .ok parsed =>
    let stored := coordinator.store path content parsed.tree digest
    ⟨.ok ⟨parsed.facts, .full⟩, .full, { stored with fullParses := stored.fullParses + 1 }⟩

/-- Reads a file with whatever is kept for it. -/
def parse (coordinator : Coordinator τ) (digestOf : String → Digest) (parser : Parser τ)
    (path content : String) : Answered τ :=
  let digest := digestOf content
  match coordinator.strategy path content digest with
  | .cached => coordinator.runCached parser path content
  | .incremental edit => coordinator.runIncremental parser path content digest edit
  | .full => coordinator.runFull parser path content digest

/-- Whether an edit leads from what is kept for a path to a content. -/
def isConsistent (coordinator : Coordinator τ) (path content : String) (edit : Edit) : Bool :=
  coordinator.trees.has path && (coordinator.content? path).any (edit.transforms · content)

/-- Reads a file whose edit is known. An edit that does not lead to the content is not used. -/
def parseWithEdit (coordinator : Coordinator τ) (digestOf : String → Digest) (parser : Parser τ)
    (path content : String) (edit : Edit) : Answered τ :=
  let digest := digestOf content
  if coordinator.isConsistent path content edit then
    coordinator.runIncremental parser path content digest edit
  else coordinator.runFull parser path content digest

/-- Forgets some paths. -/
def invalidate (coordinator : Coordinator τ) (paths : List String) : Coordinator τ :=
  paths.foldl invalidateOne coordinator

/-- Forgets every path that matches, and counts the trees that go. -/
def invalidateWhere (coordinator : Coordinator τ) (matching : String → Bool) :
    Nat × Coordinator τ :=
  let (count, trees) := coordinator.trees.invalidateWhere matching
  (count, { coordinator with
    trees, contents := coordinator.contents.filter fun entry => !matching entry.1 })

/-- Forgets every path that a written pattern matches. What a pattern matches, if anything, is up to
the one who compiles it. -/
def invalidateMatching (coordinator : Coordinator τ)
    (compile : String → Except String (String → Bool)) (pattern : String) :
    Except Error (Nat × Coordinator τ) :=
  match compile pattern with
  | .error text => .error (.invalidPattern text)
  | .ok matching => .ok (coordinator.invalidateWhere matching)

/-- Starts counting anew. -/
def resetStats (coordinator : Coordinator τ) : Coordinator τ :=
  { coordinator with
    trees := coordinator.trees.resetStats
    incrementalParses := 0
    fullParses := 0
    cachedParses := 0
    incrementalTime := 0
    fullTime := 0 }

/-- Forgets everything and starts counting anew. -/
def clear (coordinator : Coordinator τ) : Coordinator τ :=
  resetStats { coordinator with trees := coordinator.trees.clear, contents := [] }

/-- Lets go of every tree, once. -/
def dispose (coordinator : Coordinator τ) : Coordinator τ :=
  if coordinator.disposed then coordinator
  else
    let cleared := coordinator.clear
    { cleared with trees := cleared.trees.dispose, disposed := true }

/-- Adds the time that a successful request took. Looking again at a content is not timed. -/
def charge (coordinator : Coordinator τ) (route : Route) (elapsed : Float) : Coordinator τ :=
  match route with
  | .cached => coordinator
  | .incremental => { coordinator with incrementalTime := coordinator.incrementalTime + elapsed }
  | .full => { coordinator with fullTime := coordinator.fullTime + elapsed }

/-- What a coordinator has done so far. -/
structure Stats where
  treeCache : TreeCache.Stats
  incrementalParses : Nat
  fullParses : Nat
  cachedParses : Nat
  incrementalTime : Float
  fullTime : Float
  contentCount : Nat

/-- The counts of a coordinator. -/
def stats (coordinator : Coordinator τ) : Stats :=
  { treeCache := coordinator.trees.stats
    incrementalParses := coordinator.incrementalParses
    fullParses := coordinator.fullParses
    cachedParses := coordinator.cachedParses
    incrementalTime := coordinator.incrementalTime
    fullTime := coordinator.fullTime
    contentCount := coordinator.contents.length }

/-- A total spread over a count; zero if there is nothing to spread over. -/
def average (total : Float) (count : Nat) : Float :=
  if count = 0 then 0 else total / count.toFloat

/-- The mean time of incremental reading. -/
def Stats.averageIncremental (stats : Stats) : Float :=
  average stats.incrementalTime stats.incrementalParses

/-- The mean time of full reading. -/
def Stats.averageFull (stats : Stats) : Float := average stats.fullTime stats.fullParses

/-- Something asked of a coordinator. -/
inductive Request where
  | parse (path content : String)
  | parseWithEdit (path content : String) (edit : Edit)
  | invalidate (paths : List String)
  | invalidateWhere (matching : String → Bool)
  | invalidateMatching (compile : String → Except String (String → Bool)) (pattern : String)
  | resetStats
  | clear
  | dispose

/-- What a request gives back. -/
inductive Response (τ : Type) where
  | none
  | read (outcome : Except Error Outcome) (call : Call τ)
  | count (value : Nat)
  | refused (error : Error)

/-- Answers a request. Every path has its own parser. -/
def step (digestOf : String → Digest) (parserFor : String → Parser τ)
    (coordinator : Coordinator τ) : Request → Response τ × Coordinator τ
  | .parse path content =>
    let answered := coordinator.parse digestOf (parserFor path) path content
    (.read answered.outcome answered.call, answered.state)
  | .parseWithEdit path content edit =>
    let answered := coordinator.parseWithEdit digestOf (parserFor path) path content edit
    (.read answered.outcome answered.call, answered.state)
  | .invalidate paths => (.none, coordinator.invalidate paths)
  | .invalidateWhere matching =>
    let (count, coordinator) := coordinator.invalidateWhere matching
    (.count count, coordinator)
  | .invalidateMatching compile pattern =>
    match coordinator.invalidateMatching compile pattern with
    | .ok (count, coordinator) => (.count count, coordinator)
    | .error error => (.refused error, coordinator)
  | .resetStats => (.none, coordinator.resetStats)
  | .clear => (.none, coordinator.clear)
  | .dispose => (.none, coordinator.dispose)

end Coordinator

end SourceFacts

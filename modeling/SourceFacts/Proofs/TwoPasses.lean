import SourceFacts.Command.Stats
import SourceFacts.Proofs.Tally

/-! Two passes over the same files. Whether a file is still cached when its turn comes again depends
on one number, the files read since: it is there if they leave it among the last ones for which
there is room. So it is enough to keep the order in which files were last read, without ever
dropping one. In the second pass every file has all the others behind it, and either all of them
are still cached or none is. -/
namespace SourceFacts
open Recency

namespace Counts

/-- What the same gain comes to when it is had several times. -/
def times (number : Nat) (gain : Counts) : Counts where
  full := number * gain.full
  incremental := number * gain.incremental
  cached := number * gain.cached
  hits := number * gain.hits
  misses := number * gain.misses
  evictions := number * gain.evictions

theorem add_times_succ (counts gain : Counts) (number : Nat) :
    (counts.add gain).add (gain.times number) = counts.add (gain.times (number + 1)) := by
  ext <;> simp only [add, times, Nat.add_one_mul] <;> omega

end Counts

/-! ## Reading by the order of use -/

/-- Every file read so far, once, the one read last at the end, and what was counted. -/
structure Replay where
  stack : List String
  counts : Counts

namespace Replay

variable {options : CoordinatorOptions} {path : String} {stack done rest : List String}
  {counts gain : Counts}

/-- The files that are still cached: as many of the last ones as there is room for. -/
def recent (options : CoordinatorOptions) (stack : List String) : List String :=
  stack.drop (stack.length - max 1 options.maxTrees)

/-- What reading a file adds to the counts. One that is still cached is looked at again, if contents
are kept; any other read is in full, and a file that is not cached needs room. -/
def gainOf (options : CoordinatorOptions) (stack : List String) (path : String) : Counts :=
  if path ∈ recent options stack then
    if options.cacheContent then { cached := 1, hits := 1 } else { full := 1 }
  else
    { full := 1, evictions := (recent options stack).length + 1 - max 1 options.maxTrees }

/-- Reads a file. -/
def read (options : CoordinatorOptions) (replay : Replay) (path : String) : Replay where
  stack := replay.stack.filter (· ≠ path) ++ [path]
  counts := replay.counts.add (gainOf options replay.stack path)

theorem length_recent (options : CoordinatorOptions) (stack : List String) :
    (recent options stack).length = min stack.length (max 1 options.maxTrees) := by
  simp only [recent, List.length_drop]
  omega

/-- In a first pass every file is new, and there are evictions once there is no room. -/
theorem first_pass (distinct : (done ++ rest).Nodup) :
    rest.foldl (read options)
        ⟨done, { full := done.length, evictions := done.length - max 1 options.maxTrees }⟩ =
      ⟨done ++ rest,
        { full := (done ++ rest).length
          evictions := (done ++ rest).length - max 1 options.maxTrees }⟩ := by
  induction rest generalizing done with
  | nil => simp
  | cons path rest ih =>
    have shape : done ++ path :: rest = (done ++ [path]) ++ rest := by simp
    rw [shape] at distinct ⊢
    have new : path ∉ done := by
      intro earlier
      have apart := (List.nodup_append.mp (List.nodup_append.mp distinct).1).2.2
      exact apart path earlier path (List.mem_singleton_self path) rfl
    have away : path ∉ recent options done := fun member => new (List.mem_of_mem_drop member)
    rw [← ih distinct, List.foldl_cons]
    congr 1
    have others : done.filter (· ≠ path) = done := by
      apply List.filter_eq_self.mpr
      intro other member
      exact decide_eq_true (ne_of_mem_of_not_mem member new)
    rw [read, others, gainOf, if_neg away, length_recent]
    congr 1
    ext <;> simp only [Counts.add, List.length_append, List.length_singleton]
    omega

/-- Where the file that was read longest ago always adds the same, reading all files again in their
order adds it once for each. -/
theorem next_pass {number : Nat}
    (each : ∀ path others, (path :: others).Nodup → (path :: others).length = number →
      gainOf options (path :: others) path = gain)
    (distinct : (rest ++ done).Nodup) (all : (rest ++ done).length = number) :
    rest.foldl (read options) ⟨rest ++ done, counts⟩ =
      ⟨done ++ rest, counts.add (gain.times rest.length)⟩ := by
  induction rest generalizing done counts with
  | nil => simp [Counts.add, Counts.times]
  | cons path rest ih =>
    have moved : (path :: (rest ++ done)).Perm (rest ++ (done ++ [path])) := by
      rw [← List.append_assoc]
      exact (List.perm_append_singleton path (rest ++ done)).symm
    have others : (path :: rest ++ done).filter (· ≠ path) = rest ++ done := by
      rw [List.cons_append, List.filter_cons_of_neg (by simp)]
      apply List.filter_eq_self.mpr
      intro other member
      exact decide_eq_true (ne_of_mem_of_not_mem member (List.nodup_cons.mp distinct).1)
    have first : read options ⟨path :: rest ++ done, counts⟩ path =
        ⟨rest ++ (done ++ [path]), counts.add gain⟩ := by
      rw [read, others, List.append_assoc, List.cons_append, each path (rest ++ done) distinct all]
    rw [List.foldl_cons, first, ih (moved.nodup_iff.mp distinct) (moved.length_eq ▸ all),
      Counts.add_times_succ, List.append_assoc]
    rfl

/-- The file read longest ago is cached exactly if there is room for all. -/
theorem eldest_mem_recent (distinct : (path :: rest).Nodup) :
    path ∈ recent options (path :: rest) ↔
      (path :: rest).length ≤ max 1 options.maxTrees := by
  by_cases fits : (path :: rest).length ≤ max 1 options.maxTrees
  · have whole : recent options (path :: rest) = path :: rest := by
      rw [recent, Nat.sub_eq_zero_of_le fits, List.drop_zero]
    rw [whole]
    exact iff_of_true List.mem_cons_self fits
  · have behind : (path :: rest).length - max 1 options.maxTrees =
        rest.length - max 1 options.maxTrees + 1 := by
      rw [List.length_cons] at fits ⊢
      omega
    have away : path ∉ recent options (path :: rest) := by
      rw [recent, behind, List.drop_succ_cons]
      exact fun member => (List.nodup_cons.mp distinct).1 (List.mem_of_mem_drop member)
    exact iff_of_false away fits

/-- What every file adds in a second pass. -/
def secondGain (options : CoordinatorOptions) (number : Nat) : Counts :=
  if number ≤ max 1 options.maxTrees then
    if options.cacheContent then { cached := 1, hits := 1 } else { full := 1 }
  else { full := 1, evictions := 1 }

theorem gainOf_eldest (distinct : (path :: rest).Nodup) :
    gainOf options (path :: rest) path = secondGain options (path :: rest).length := by
  simp only [gainOf, secondGain, eldest_mem_recent distinct, length_recent]
  split
  · rfl
  · congr 1
    omega

/-- What two passes count. -/
def totals (options : CoordinatorOptions) (number : Nat) : Counts :=
  Counts.add { full := number, evictions := number - max 1 options.maxTrees }
    ((secondGain options number).times number)

theorem two_passes (options : CoordinatorOptions) {files : List String} (distinct : files.Nodup) :
    files.foldl (read options) (files.foldl (read options) ⟨[], {}⟩) =
      ⟨files, totals options files.length⟩ := by
  have cold : files.foldl (read options) ⟨[], {}⟩ =
      ⟨files, { full := files.length, evictions := files.length - max 1 options.maxTrees }⟩ := by
    simpa using @first_pass options [] files distinct
  have each : ∀ path others, (path :: others).Nodup → (path :: others).length = files.length →
      gainOf options (path :: others) path = secondGain options files.length := by
    intro path others apart all
    rw [gainOf_eldest apart, all]
  rw [cold, totals]
  simpa using @next_pass options [] files _ _ _ each (by simpa using distinct) (by simp)

variable {number : Nat}

theorem totals_of_room (on : options.cacheContent = true)
    (fits : number ≤ max 1 options.maxTrees) :
    totals options number = { full := number, cached := number, hits := number } := by
  rw [totals, secondGain, if_pos fits, if_pos on]
  ext <;> simp only [Counts.add, Counts.times] <;> omega

theorem totals_of_room_off (off : options.cacheContent = false)
    (fits : number ≤ max 1 options.maxTrees) : totals options number = { full := 2 * number } := by
  rw [totals, secondGain, if_pos fits, if_neg (by simp [off])]
  ext <;> simp only [Counts.add, Counts.times] <;> omega

theorem totals_of_crowd (crowded : max 1 options.maxTrees < number) :
    totals options number =
      { full := 2 * number, evictions := 2 * number - max 1 options.maxTrees } := by
  rw [totals, secondGain, if_neg (Nat.not_le.mpr crowded)]
  ext <;> simp only [Counts.add, Counts.times] <;> omega

theorem incremental_totals (options : CoordinatorOptions) (number : Nat) :
    (totals options number).incremental = 0 := by
  by_cases fits : number ≤ max 1 options.maxTrees
  · cases on : options.cacheContent with
    | true => rw [totals_of_room on fits]
    | false => rw [totals_of_room_off on fits]
  · rw [totals_of_crowd (Nat.not_le.mp fits)]

end Replay

/-! ## Passes of a command -/

namespace Coordinator

variable {τ : Type} {digestOf : String → Digest} {options : CoordinatorOptions}
  {coordinator : Coordinator τ} {ledger : Ledger τ} {parser : Parser τ} {path content : String}

/-- A content that is unchanged since it was kept is looked at again. -/
theorem plan_unchanged (current : (digestOf content).isCurrent = true) (tree : Option τ) :
    plan digestOf (some ⟨content, tree⟩) content = (.cached, .full) :=
  if_pos ⟨current, rfl⟩

/-- A successful read that takes no edit, and what it adds to the counts. -/
theorem Carries.whole {answered : Answered τ} {route : Route} {parsed : Parsed τ}
    (carries : Carries digestOf options coordinator ledger parser path content (route, .full)
      answered)
    (tallies : ReadTallies options coordinator ledger parser path content answered)
    (answer : parser.parse content path = .ok parsed) :
    let event := Event.ofRead parser path content (.ok ⟨parsed.facts, route⟩) .full
    answered.outcome = .ok ⟨parsed.facts, route⟩ ∧
      Agrees digestOf options answered.state (ledger.write (max 1 options.maxTrees) event) ∧
      answered.state.counts = coordinator.counts.add
        ((Response.read (.ok ⟨parsed.facts, route⟩) (.full : Call τ)).gain
          (ledger.overflow (max 1 options.maxTrees) event)) := by
  intro event
  have outcome : answered.outcome = .ok ⟨parsed.facts, route⟩ := by
    simp [carries.outcome, Call.ask, answer, Except.map]
  have written := carries.agrees
  rw [ReadTallies, Tallies, outcome, carries.call] at tallies
  rw [outcome, carries.call] at written
  exact ⟨outcome, written, tallies⟩

/-- A read of a file that has not changed since it was cached, if it is: it succeeds, the file is
the one used last, and the counts grow by what it took. -/
theorem parse_unchanged {parsed : Parsed τ} (agrees : Agrees digestOf options coordinator ledger)
    (current : (digestOf content).isCurrent = true)
    (answer : parser.parse content path = .ok parsed)
    (unchanged : ∀ old, ledger.kept? path = some old → old = ⟨content, parsed.tree⟩) :
    let answered := coordinator.parse digestOf parser path content
    (∃ read, answered.outcome = .ok read) ∧
      Agrees digestOf options answered.state
        { ledger with
          lines := trim (max 1 options.maxTrees)
            (place path ⟨content, parsed.tree⟩ ledger.lines) } ∧
      answered.state.counts = coordinator.counts.add
        (if (ledger.kept? path).isSome then
          if options.cacheContent then { cached := 1, hits := 1 } else { full := 1 }
        else { full := 1, evictions := ledger.lines.length + 1 - max 1 options.maxTrees }) := by
  intro answered
  have carries := parse_carries agrees parser path content
  have tallies := parse_tallies agrees parser path content
  have room : ∀ old, ledger.kept? path = some old →
      (place path ⟨content, parsed.tree⟩ ledger.lines).length ≤ max 1 options.maxTrees := by
    intro old found
    rw [length_place_of_present agrees.distinct found]
    exact agrees.bounded
  cases found : remembered? options ledger path with
  | some old =>
    obtain ⟨on, held⟩ := remembered?_eq_some.mp found
    obtain rfl := unchanged old held
    rw [found, plan_unchanged current] at carries
    obtain ⟨outcome, written, counts⟩ := carries.whole tallies answer
    simp only [Event.ofRead, Ledger.write, held] at written
    refine ⟨⟨_, outcome⟩, ?_, ?_⟩
    · rw [trim_of_room (room _ held)]
      exact written
    · rw [held, Option.isSome_some, if_pos rfl, if_pos on]
      exact counts
  | none =>
    rw [found] at carries
    obtain ⟨outcome, written, counts⟩ := carries.whole tallies answer
    have asked : Call.full.ask parser path content = .ok parsed := answer
    rw [Event.ofRead_fresh asked (by simp)] at written counts
    refine ⟨⟨_, outcome⟩, written, counts.trans ?_⟩
    rcases Option.eq_none_or_eq_some (ledger.kept? path) with absent | ⟨old, held⟩
    · rw [absent, if_neg (by simp), Ledger.overflow, length_place_of_absent absent]
      rfl
    · have off : ¬ options.cacheContent = true := by
        intro on
        rw [remembered?_eq_some.mpr ⟨on, held⟩] at found
        cases found
      rw [held, Option.isSome_some, if_pos rfl, if_neg off, Ledger.overflow,
        Nat.sub_eq_zero_of_le (room old held)]
      rfl

end Coordinator

namespace Command

variable {world : World} {options : CoordinatorOptions} {coordinator : Coordinator SyntaxTree}
  {replay : Replay} {path : String}

/-- What a read leaves of a file that a grammar takes and whose text can be had. -/
def keptFrom? (world : World) (path : String) : Option (Kept SyntaxTree) := do
  let registration ← Router.standard.forPath? path
  let content ← (world.readText path).toOption
  return ⟨content, some (registration.reader.engine.tree content)⟩

/-- A coordinator has cached just the files read last, as they are in the world, and has counted
the same. -/
structure Follows (world : World) (options : CoordinatorOptions)
    (coordinator : Coordinator SyntaxTree) (replay : Replay) : Prop where
  lines : ∃ lines : List (String × Kept SyntaxTree), lines.map Prod.fst = replay.stack ∧
    (∀ line ∈ lines, keptFrom? world line.1 = some line.2) ∧ Distinct lines ∧
    Coordinator.Agrees Digest.ofText options coordinator
      ⟨trim (max 1 options.maxTrees) lines, false⟩
  counts : coordinator.counts = replay.counts

theorem new_follows (world : World) (options : CoordinatorOptions) :
    Follows world options (.new options) ⟨[], {}⟩ := by
  refine ⟨⟨[], rfl, by simp, List.nodup_nil, ?_⟩, rfl⟩
  rw [trim_of_room (Nat.zero_le _)]
  exact Coordinator.new_agrees _ _

theorem keptFrom?_eq_some {kept : Kept SyntaxTree} (found : keptFrom? world path = some kept) :
    ∃ registration content, Router.standard.forPath? path = some registration ∧
      world.readText path = .ok content ∧
      kept = ⟨content, some (registration.reader.engine.tree content)⟩ := by
  simp only [keptFrom?, Option.bind_eq_bind, Option.bind_eq_some_iff] at found
  obtain ⟨registration, routed, content, text, same⟩ := found
  refine ⟨registration, content, routed, ?_, (Option.some.inj same).symm⟩
  cases answer : world.readText path with
  | error error => simp [answer, Except.toOption] at text
  | ok other => simpa [answer, Except.toOption] using text

/-- Reading a file does to a coordinator what it does to the order of use. -/
theorem Follows.read (follows : Follows world options coordinator replay)
    (ready : (keptFrom? world path).isSome = true) :
    (∃ outcome, (parseOne world coordinator path).1 = .ok outcome) ∧
      Follows world options (parseOne world coordinator path).2 (replay.read options path) := by
  obtain ⟨kept, found⟩ := Option.isSome_iff_exists.mp ready
  obtain ⟨lines, stack, unchanged, distinct, agrees⟩ := follows.lines
  obtain ⟨registration, content, routed, readable, rfl⟩ := keptFrom?_eq_some found
  have cachedAs : ∀ old, (trim (max 1 options.maxTrees) lines).lookup path = some old →
      old = ⟨content, some (registration.reader.engine.tree content)⟩ := by
    intro old looked
    have member := (lookup_eq_some_iff_mem (distinct_trim distinct _)).mp looked
    have held := unchanged (path, old) ((trim_sublist _).subset member)
    rw [found] at held
    exact (Option.some.inj held).symm
  have recent : (trim (max 1 options.maxTrees) lines).map Prod.fst =
      Replay.recent options replay.stack := by
    simp [trim, Replay.recent, ← stack, List.map_drop]
  have present : (List.lookup path (trim (max 1 options.maxTrees) lines)).isSome = true ↔
      path ∈ Replay.recent options replay.stack := by
    rw [isSome_lookup, recent]
  have size : (trim (max 1 options.maxTrees) lines).length =
      (Replay.recent options replay.stack).length := by
    rw [← recent, List.length_map]
  have answer : registration.reader.parser.parse content path =
      .ok (registration.reader.parsed content) := rfl
  obtain ⟨⟨outcome, succeeded⟩, later, counts⟩ :=
    Coordinator.parse_unchanged agrees rfl answer cachedAs
  simp only [parseOne, routed, readable]
  refine ⟨⟨some outcome, by rw [succeeded]; rfl⟩,
    ⟨place path ⟨content, some (registration.reader.engine.tree content)⟩ lines, ?_, ?_,
      distinct_place distinct, ?_⟩, ?_⟩
  · rw [map_fst_place, stack]
    rfl
  · intro line member
    rcases List.mem_append.mp member with earlier | last
    · exact unchanged line (List.mem_of_mem_filter earlier)
    · rw [List.mem_singleton.mp last]
      exact found
  · rw [← trim_place_trim distinct]
    exact later
  · rw [counts, follows.counts, Replay.read, Replay.gainOf, ← size]
    simp only [Ledger.kept?, present]

theorem Follows.pass {files : List String} (follows : Follows world options coordinator replay)
    (ready : ∀ path ∈ files, (keptFrom? world path).isSome = true) :
    (pass world coordinator files).2 = [] ∧
      Follows world options (pass world coordinator files).1
        (files.foldl (Replay.read options) replay) := by
  induction files generalizing coordinator replay with
  | nil => exact ⟨rfl, follows⟩
  | cons path rest ih =>
    obtain ⟨⟨outcome, succeeded⟩, next⟩ := follows.read (ready path List.mem_cons_self)
    obtain ⟨errors, last⟩ := ih next fun other member => ready other (List.mem_cons_of_mem _ member)
    simp only [Command.pass, succeeded]
    exact ⟨errors, last⟩

/-- The counts of a scan are those of two passes over the order of use. -/
theorem scan_counts (world : World) (options : CoordinatorOptions) {files : List String}
    (distinct : files.Nodup) (ready : ∀ path ∈ files, (keptFrom? world path).isSome = true) :
    let room := max 1 options.maxTrees
    let scanned := scan world options files
    let counts := Replay.totals options files.length
    scanned.errors = [] ∧ scanned.coordinator.counts = counts ∧
      scanned.coordinator.stats.treeCache =
        ⟨counts.hits, counts.misses, counts.evictions, min files.length room, room⟩ := by
  intro room scanned counts
  obtain ⟨cold, left⟩ := (new_follows world options).pass ready
  obtain ⟨warm, last⟩ := left.pass ready
  rw [Replay.two_passes options distinct] at last
  obtain ⟨lines, stack, -, -, agrees⟩ := last.lines
  have counted : scanned.coordinator.counts = counts := last.counts
  have size : scanned.coordinator.trees.size = min files.length room := by
    have same : lines.length = files.length := by simpa using congrArg List.length stack
    rw [← same]
    exact agrees.size_eq.trans (length_trim room)
  refine ⟨?_, counted, ?_⟩
  · show _ ++ _ = []
    rw [cold, warm]
    rfl
  · rw [← counted, ← size]
    exact congrArg _ agrees.capacity

/-- **A second pass finds every file or none.** Read distinct files twice, all of which a grammar
takes and whose texts can be had. No read is an edit. With contents kept and room for all files,
the first pass reads each in full and the second finds each cached; with room for one file less, and
so with any less room, nothing is ever found, and every read but those that filled the cache evicts
a file. Without contents, every read is in full, and the evictions are the same. -/
theorem second_pass_finds_all_or_none (world : World) (options : CoordinatorOptions)
    (files : List String) (distinct : files.Nodup)
    (ready : ∀ path ∈ files, (Router.standard.forPath? path).isSome = true ∧
      ∃ content, world.readText path = .ok content) :
    let number := files.length
    let room := max 1 options.maxTrees
    let scanned := scan world options files
    let stats := scanned.coordinator.stats
    (scanned.fileCount = number ∧ scanned.errors = [] ∧ stats.incrementalParses = 0) ∧
      (options.cacheContent = true → number ≤ room →
        stats.fullParses = number ∧ stats.cachedParses = number ∧
          stats.treeCache =
            { hits := number, misses := 0, evictions := 0, size := number, capacity := room }) ∧
      (options.cacheContent = true → room < number →
        stats.fullParses = 2 * number ∧ stats.cachedParses = 0 ∧
          stats.treeCache =
            { hits := 0, misses := 0, evictions := 2 * number - room, size := room
              capacity := room }) ∧
      (options.cacheContent = false →
        stats.fullParses = 2 * number ∧ stats.cachedParses = 0 ∧
          stats.treeCache =
            { hits := 0, misses := 0, evictions := if number ≤ room then 0 else 2 * number - room
              size := min number room, capacity := room }) := by
  intro number room scanned stats
  have kept : ∀ path ∈ files, (keptFrom? world path).isSome = true := by
    intro path member
    obtain ⟨routed, content, readable⟩ := ready path member
    obtain ⟨registration, found⟩ := Option.isSome_iff_exists.mp routed
    simp [keptFrom?, found, readable, Except.toOption]
  obtain ⟨errors, counted, cache⟩ := scan_counts world options distinct kept
  have full : stats.fullParses = _ := congrArg Counts.full counted
  have incremental : stats.incrementalParses = _ := congrArg Counts.incremental counted
  have cached : stats.cachedParses = _ := congrArg Counts.cached counted
  have tree : stats.treeCache = _ := cache
  rw [full, incremental, cached, tree]
  refine ⟨⟨rfl, errors, Replay.incremental_totals options number⟩, ?_, ?_, ?_⟩
  · intro on fits
    rw [Replay.totals_of_room on fits, Nat.min_eq_left fits]
    exact ⟨rfl, rfl, rfl⟩
  · intro _ crowded
    rw [Replay.totals_of_crowd crowded, Nat.min_eq_right (Nat.le_of_lt crowded)]
    exact ⟨rfl, rfl, rfl⟩
  · intro off
    by_cases fits : number ≤ room
    · rw [Replay.totals_of_room_off off fits, if_pos fits]
      exact ⟨rfl, rfl, rfl⟩
    · rw [Replay.totals_of_crowd (Nat.not_le.mp fits), if_neg fits]
      exact ⟨rfl, rfl, rfl⟩

/-- Two files keep evicting each other where there is room for one, and are both found again where
there is room for two. -/
theorem two_files_scanned :
    let world : World :=
      ⟨.directory [("a.rs", .file (some "fn a() {}")), ("b.rs", .file (some "fn b() {}"))],
        [], fun _ => none, 1⟩
    let files := ["a.rs", "b.rs"]
    (files.Nodup ∧ ∀ path ∈ files, (Router.standard.forPath? path).isSome = true ∧
        ∃ content, world.readText path = .ok content) ∧
      (scan world ⟨2, true⟩ files).coordinator.stats.treeCache =
        { hits := 2, misses := 0, evictions := 0, size := 2, capacity := 2 } ∧
      (scan world ⟨1, true⟩ files).coordinator.stats.treeCache =
        { hits := 0, misses := 0, evictions := 3, size := 1, capacity := 1 } ∧
      (scan world ⟨0, false⟩ files).coordinator.stats.fullParses = 4 := by
  intro world files
  have distinct : files.Nodup := by decide
  have ready : ∀ path ∈ files, (Router.standard.forPath? path).isSome = true ∧
      ∃ content, world.readText path = .ok content := by
    intro path member
    rcases List.mem_cons.mp member with rfl | member
    · exact ⟨by decide, "fn a() {}", by rfl⟩
    · obtain rfl := List.mem_singleton.mp member
      exact ⟨by decide, "fn b() {}", by rfl⟩
  obtain ⟨-, fits, -⟩ := second_pass_finds_all_or_none world ⟨2, true⟩ files distinct ready
  obtain ⟨-, -, crowded, -⟩ := second_pass_finds_all_or_none world ⟨1, true⟩ files distinct ready
  obtain ⟨-, -, -, off⟩ := second_pass_finds_all_or_none world ⟨0, false⟩ files distinct ready
  exact ⟨⟨distinct, ready⟩, (fits rfl (by decide)).2.2, (crowded rfl (by decide)).2.2, (off rfl).1⟩

end Command

end SourceFacts

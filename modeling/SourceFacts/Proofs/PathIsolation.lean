import Mathlib.Data.List.Dedup
import Mathlib.Data.List.Perm.Subperm
import SourceFacts.Proofs.FailedRead

/-! Paths share one order of use, one eviction and one list of contents, and yet do not show
through to each other as long as there is room for all of them. What the ledger has for a path
then changes by the events of that path alone, and what a read of it gives back depends on
nothing else. So the reads of a path go as they would in a run without the other paths. -/
namespace SourceFacts
open Recency

/-! ## The ledger as one path sees it -/

/-- What concerns one path: what is kept for it, and whether all was disposed of before. -/
structure Slice (τ : Type) where
  kept? : Option (Kept τ)
  disposed : Bool

namespace Slice

variable {τ : Type}

/-- Writes down what happened, as far as it concerns a path. Nothing is evicted here. -/
def write (path : String) (slice : Slice τ) : Event τ → Slice τ
  | .kept other kept => if other = path then { slice with kept? := some kept } else slice
  | .failed other => if other = path then { slice with kept? := none } else slice
  | .forgotten matching => if matching path then { slice with kept? := none } else slice
  | .cleared => { slice with kept? := none }
  | .disposed => if slice.disposed then slice else ⟨none, true⟩
  | .reused _ | .untouched => slice

end Slice

namespace Ledger

variable {τ : Type} {capacity : Nat} {ledger : Ledger τ} {event : Event τ} {path : String}
  {paths : List String}

/-- The part of a ledger that concerns a path. -/
def slice (ledger : Ledger τ) (path : String) : Slice τ := ⟨ledger.kept? path, ledger.disposed⟩

/-- Every line is the line of one of these paths. -/
def Within (paths : List String) (ledger : Ledger τ) : Prop :=
  ∀ line ∈ ledger.lines, line.1 ∈ paths

/-- Where there is room for all paths there are, a read pushes none of them out. -/
theorem length_place_le_of_within (within : ledger.Within paths) (distinct : Distinct ledger.lines)
    (room : paths.dedup.length ≤ capacity) (member : path ∈ paths) (kept : Kept τ) :
    (place path kept ledger.lines).length ≤ capacity := by
  have among : (place path kept ledger.lines).map Prod.fst ⊆ paths.dedup := by
    intro other inside
    rw [List.mem_dedup]
    obtain ⟨line, placed, rfl⟩ := List.mem_map.mp inside
    rcases List.mem_append.mp placed with earlier | last
    · exact within line (List.mem_of_mem_filter earlier)
    · rw [List.mem_singleton.mp last]
      exact member
  have count := (List.subperm_of_subset (distinct_place distinct) among).length_le
  rw [List.length_map] at count
  exact Nat.le_trans count room

/-- An event changes for a path what it says about that path, and nothing more. -/
theorem slice_write (fits : ∀ other kept, event = .kept other kept →
      (place other kept ledger.lines).length ≤ capacity) :
    (ledger.write capacity event).slice path = (ledger.slice path).write path event := by
  cases event with
  | kept other kept =>
    have room := trim_of_room (fits other kept rfl)
    by_cases same : path = other
    · simp [slice, Slice.write, write, kept?, room, lookup_place, same]
    · simp [slice, Slice.write, write, kept?, room, lookup_place, same, Ne.symm same]
  | reused other =>
    simp only [write]
    cases found : ledger.kept? other with
    | none => rfl
    | some kept =>
      have looked : (place other kept ledger.lines).lookup path = ledger.lines.lookup path := by
        rw [lookup_place]
        split
        · rename_i same
          rw [same]
          exact found.symm
        · rfl
      simp [slice, Slice.write, kept?, looked]
  | failed other =>
    by_cases same : path = other
    · simp [slice, Slice.write, write, kept?, lookup_others, same]
    · simp [slice, Slice.write, write, kept?, lookup_others, same, Ne.symm same]
  | forgotten matching =>
    have looked := lookup_filter (fun other => !matching other) path ledger.lines
    cases matched : matching path <;> simp [slice, Slice.write, write, kept?, looked, matched]
  | cleared => rfl
  | disposed =>
    cases disposed : ledger.disposed <;> simp [slice, Slice.write, write, disposed, kept?]
  | untouched => rfl

end Ledger

namespace Coordinator

variable {τ : Type} {digestOf : String → Digest} {options : CoordinatorOptions}
  {coordinator alone : Coordinator τ} {ledger own : Ledger τ} {path content : String}

/-! ## Runs cut down to one path -/

/-- The path that a turn reads. -/
def Turn.reads? (turn : Turn τ) : Option String := turn.request.target?.map Prod.fst

/-- The paths that are read in a run. -/
def pathsRead (turns : List (Turn τ)) : List String := turns.filterMap Turn.reads?

/-- What is left of a turn for one path: it reads no other path and invalidates no other one. A
pattern stays as it is. -/
def Turn.only (path : String) (turn : Turn τ) : Option (Turn τ) :=
  match turn.request with
  | .parse other _ => if other = path then some turn else none
  | .parseWithEdit other _ _ => if other = path then some turn else none
  | .invalidate paths => some { turn with request := .invalidate (paths.filter (· = path)) }
  | _ => some turn

/-- The responses to the reads of a path in a run, the latest first. -/
def responsesTo (digestOf : String → Digest) (options : CoordinatorOptions) (path : String) :
    List (Turn τ) → List (Response τ)
  | [] => []
  | turn :: past =>
    if turn.reads? = some path then
      ((after digestOf options past).take digestOf turn).1 ::
        responsesTo digestOf options path past
    else responsesTo digestOf options path past

theorem pathsRead_cons (turn : Turn τ) (past : List (Turn τ)) :
    pathsRead past ⊆ pathsRead (turn :: past) :=
  ((List.sublist_cons_self turn past).filterMap Turn.reads?).subset

theorem reads?_of_only {turn left : Turn τ} (kept : turn.only path = some left) :
    left.reads? = none ∨ left.reads? = some path := by
  obtain ⟨parserFor, request⟩ := turn
  cases request with
  | parse other content | parseWithEdit other content edit =>
    simp only [Turn.only, Option.ite_none_right_eq_some, Option.some.injEq] at kept
    obtain ⟨rfl, rfl⟩ := kept
    exact .inr rfl
  | _ =>
    simp only [Turn.only, Option.some.injEq] at kept
    rw [← kept]
    exact .inl rfl

theorem pathsRead_only (path : String) (turns : List (Turn τ)) :
    pathsRead (turns.filterMap (Turn.only path)) ⊆ [path] := by
  intro other member
  obtain ⟨left, among, reads⟩ := List.mem_filterMap.mp member
  obtain ⟨turn, -, kept⟩ := List.mem_filterMap.mp among
  rcases reads?_of_only kept with none | own
  · rw [none] at reads
    cases reads
  · rw [own, Option.some.injEq] at reads
    rw [reads]
    exact List.mem_singleton_self other

/-! ## One turn -/

/-- The response to a read that goes this way. -/
def responseBy (parser : Parser τ) (path content : String) (plan : Route × Call τ) : Response τ :=
  .read ((plan.2.ask parser path content).map fun parsed => ⟨parsed.facts, plan.1⟩) plan.2

theorem Carries.response {parser : Parser τ} {plan : Route × Call τ} {answered : Answered τ}
    (carries : Carries digestOf options coordinator ledger parser path content plan answered) :
    .read answered.outcome answered.call = responseBy parser path content plan := by
  rw [carries.outcome, carries.call]
  rfl

/-- What a read gives back is a function of what is kept for its path. -/
theorem take_eq_of_slice (agrees : Agrees digestOf options coordinator ledger)
    (agreesAlone : Agrees digestOf options alone own) (same : ledger.slice path = own.slice path)
    {turn : Turn τ} (reads : turn.reads? = some path) :
    (coordinator.take digestOf turn).1 = (alone.take digestOf turn).1 := by
  have kept : remembered? options ledger path = remembered? options own path := by
    unfold remembered?
    rw [show ledger.kept? path = own.kept? path from congrArg Slice.kept? same]
  obtain ⟨parserFor, request⟩ := turn
  cases request with
  | parse other content =>
    obtain rfl := Option.some.inj reads
    have here := (parse_carries agrees (parserFor other) other content).response
    have there := (parse_carries agreesAlone (parserFor other) other content).response
    rw [kept] at here
    exact here.trans there.symm
  | parseWithEdit other content edit =>
    obtain rfl := Option.some.inj reads
    have here := (parseWithEdit_carries agrees (parserFor other) other content edit).response
    have there :=
      (parseWithEdit_carries agreesAlone (parserFor other) other content edit).response
    rw [kept] at here
    exact here.trans there.symm
  | _ => cases reads

/-- A read of another path is none of this path's business. -/
theorem slice_read_elsewhere (slice : Slice τ) {parser : Parser τ} {other : String}
    (elsewhere : other ≠ path) (outcome : Except Error Outcome) (call : Call τ) :
    slice.write path (.ofRead parser other content outcome call) = slice := by
  cases outcome with
  | error error => simp [Event.ofRead, Slice.write, elsewhere]
  | ok read =>
    simp only [Event.ofRead]
    split <;> simp [Slice.write, elsewhere]

/-- Of a turn that is left out, a path sees nothing. -/
theorem slice_left_out (coordinator : Coordinator τ) {turn : Turn τ}
    (dropped : turn.only path = none) (slice : Slice τ) :
    slice.write path (turn.event (coordinator.take digestOf turn).1) = slice ∧
      turn.reads? ≠ some path := by
  obtain ⟨parserFor, request⟩ := turn
  cases request with
  | parse other content | parseWithEdit other content edit =>
    simp only [Turn.only, ite_eq_right_iff, reduceCtorEq, imp_false] at dropped
    exact ⟨slice_read_elsewhere slice dropped _ _, fun reads => dropped (Option.some.inj reads)⟩
  | _ => cases dropped

/-- Of a turn that is left in, a path sees the same in both runs. -/
theorem slice_left_in (agrees : Agrees digestOf options coordinator ledger)
    (agreesAlone : Agrees digestOf options alone own) (same : ledger.slice path = own.slice path)
    {turn left : Turn τ} (kept : turn.only path = some left) (slice : Slice τ) :
    slice.write path (turn.event (coordinator.take digestOf turn).1) =
        slice.write path (left.event (alone.take digestOf left).1) ∧
      left.reads? = turn.reads? ∧ (turn.reads? = some path → left = turn) := by
  obtain ⟨parserFor, request⟩ := turn
  cases request with
  | parse other content | parseWithEdit other content edit =>
    simp only [Turn.only, Option.ite_none_right_eq_some, Option.some.injEq] at kept
    obtain ⟨rfl, rfl⟩ := kept
    rw [take_eq_of_slice agrees agreesAlone same rfl]
    exact ⟨rfl, rfl, fun _ => rfl⟩
  | invalidate paths =>
    simp only [Turn.only, Option.some.injEq] at kept
    subst kept
    refine ⟨?_, rfl, fun reads => by cases reads⟩
    simp [Turn.event, Slice.write]
  | _ =>
    simp only [Turn.only, Option.some.injEq] at kept
    subst kept
    exact ⟨rfl, rfl, fun _ => rfl⟩

/-! ## Whole runs -/

/-- Only paths that are read have lines. -/
theorem ledgerAfter_within (turns : List (Turn τ)) {paths : List String}
    (read : pathsRead turns ⊆ paths) :
    (ledgerAfter digestOf options turns).Within paths := by
  induction turns with
  | nil => simp [Ledger.Within, ledgerAfter, history, Ledger.ofHistory, Ledger.blank]
  | cons turn past ih =>
    refine @Ledger.write_lines τ _ _ _ (fun other _ => other ∈ paths)
      (ih (List.Subset.trans (pathsRead_cons turn past) read)) fun other kept event => ?_
    obtain ⟨content, -, -, target, -⟩ := Turn.event_kept event
    apply read
    simp [pathsRead, Turn.reads?, target]

/-- In a run with room for all its paths, each turn changes for a path what it says about it. -/
theorem slice_after_cons (digestOf : String → Digest) (options : CoordinatorOptions)
    (path : String) {paths : List String} (room : paths.dedup.length ≤ max 1 options.maxTrees)
    (turn : Turn τ) (past : List (Turn τ)) (read : pathsRead (turn :: past) ⊆ paths) :
    (ledgerAfter digestOf options (turn :: past)).slice path =
      ((ledgerAfter digestOf options past).slice path).write path
        (turn.event ((after digestOf options past).take digestOf turn).1) := by
  have distinct := (after_agrees digestOf options past).distinct
  refine Ledger.slice_write fun other kept event => ?_
  obtain ⟨content, -, -, target, -⟩ := Turn.event_kept event
  have within : (ledgerAfter digestOf options past).Within paths :=
    ledgerAfter_within past (List.Subset.trans (pathsRead_cons turn past) read)
  refine Ledger.length_place_le_of_within within distinct room ?_ kept
  apply read
  simp [pathsRead, Turn.reads?, target]

/-- What is kept for a path is kept in the run that is cut down to it, and the reads of the path
have the same responses. -/
theorem run_alone {paths : List String} (room : paths.dedup.length ≤ max 1 options.maxTrees)
    (turns : List (Turn τ)) (read : pathsRead turns ⊆ paths) :
    let cut := turns.filterMap (Turn.only path)
    (ledgerAfter digestOf options turns).slice path =
        (ledgerAfter digestOf options cut).slice path ∧
      responsesTo digestOf options path turns = responsesTo digestOf options path cut := by
  induction turns with
  | nil => exact ⟨rfl, rfl⟩
  | cons turn past ih =>
    obtain ⟨same, responses⟩ := ih (List.Subset.trans (pathsRead_cons turn past) read)
    have agrees := after_agrees digestOf options past
    have agreesAlone := after_agrees digestOf options (past.filterMap (Turn.only path))
    have whole := slice_after_cons digestOf options path room turn past read
    cases kept : turn.only path with
    | none =>
      obtain ⟨unseen, elsewhere⟩ := slice_left_out (after digestOf options past) kept
        ((ledgerAfter digestOf options past).slice path)
      simp only [List.filterMap_cons, kept, responsesTo, if_neg elsewhere]
      exact ⟨(whole.trans unseen).trans same, responses⟩
    | some left =>
      obtain ⟨seen, reads, intact⟩ := slice_left_in agrees agreesAlone same kept
        ((ledgerAfter digestOf options past).slice path)
      have only := pathsRead_only path (turn :: past)
      rw [List.filterMap_cons, kept] at only
      have fits : [path].dedup.length ≤ max 1 options.maxTrees := Nat.le_max_left 1 _
      have cut := slice_after_cons digestOf options path fits left
        (past.filterMap (Turn.only path)) only
      simp only [List.filterMap_cons, kept]
      refine ⟨by rw [whole, cut, ← same, seen], ?_⟩
      rw [responsesTo, responsesTo, reads, responses]
      by_cases own : turn.reads? = some path
      · rw [if_pos own, if_pos own, intact own, take_eq_of_slice agrees agreesAlone same own]
      · rw [if_neg own, if_neg own]

/-- **Paths do not show through to each other.** In a run that reads no more paths than there is
room for, every read of a path gives back what it gives back in the run that is cut down to this
path: the same facts by the same route, or the same error, by the same call with the same tree
and the same place of the edit. The other paths may be read, fail and be invalidated at will. -/
theorem paths_do_not_show_through (digestOf : String → Digest) (options : CoordinatorOptions)
    (turns : List (Turn τ)) (room : (pathsRead turns).dedup.length ≤ max 1 options.maxTrees)
    (path : String) :
    responsesTo digestOf options path turns =
      responsesTo digestOf options path (turns.filterMap (Turn.only path)) :=
  (run_alone room turns (List.Subset.refl _)).2

/-- Between two reads of a file another one is read, dropped and read in vain. Both reads give
back what they would if there were no other file. -/
theorem other_file_leaves_no_trace :
    let parser : Parser String :=
      ⟨fun content _ => if content = "?" then .error (.parse "?") else .ok ⟨.empty, some content⟩,
        fun content _ _ _ => .ok ⟨.empty, some content⟩⟩
    let turn (request : Request) : Turn String := ⟨fun _ => parser, request⟩
    let options : CoordinatorOptions := ⟨2, true⟩
    let turns := [turn (.parse "a" "xy"), turn (.parse "b" "?"), turn (.invalidate ["b"]),
      turn (.parse "b" "z"), turn (.parse "a" "x")]
    let cut := [turn (.parse "a" "xy"), turn (.invalidate []), turn (.parse "a" "x")]
    (pathsRead turns).dedup.length ≤ max 1 options.maxTrees ∧
      (responsesTo Digest.ofText options "a" turns).length = 2 ∧
      responsesTo Digest.ofText options "a" turns =
        responsesTo Digest.ofText options "a" cut := by
  intro parser turn options turns cut
  have room : (pathsRead turns).dedup.length ≤ max 1 options.maxTrees := by decide
  have left : turns.filterMap (Turn.only "a") = cut := by rfl
  have alone := paths_do_not_show_through Digest.ofText options turns room "a"
  rw [left] at alone
  exact ⟨room, by rfl, alone⟩

end Coordinator

end SourceFacts

import Mathlib.Data.List.Chain
import Mathlib.Data.List.Nodup
import SourceFacts.Proofs.EditApplication
import SourceFacts.Proofs.StableSort

/-! One edit in place of several that touch each other. Edits that follow one another without a gap can
be carried out from the last to the first: each one leaves everything before it in its place, so the
next one still finds its own stretch. Together they replace one stretch, from the start of the first to
the end of the last, by all of their texts in order, and this is the edit that a batch is. -/
namespace SourceFacts

/-- A text has one front part of each length. -/
theorem Text.front_eq_of_byteLength {front back other rest : List Char}
    (same : front ++ back = other ++ rest) (lengths : byteLength front = byteLength other) :
    front = other := by
  have cut := cut?_between front back
  rw [same, lengths, cut?_between] at cut
  cases cut
  rfl

namespace Edit
open Text

variable {edit : Edit} {edits others sorted rest : List Edit} {old : String}

/-! ## A batch by its sorted edits -/

/-- How far the edits reach. -/
def furthest (edits : List Edit) : Nat := edits.foldl (fun stop edit => max stop edit.stop) 0

/-- One edit from the first start to the furthest stop, with all texts in order. -/
def joined? : List Edit → Option Edit
  | [] => none
  | first :: rest =>
    some ⟨first.start, furthest (first :: rest), String.join ((first :: rest).map Edit.text)⟩

/-- Edits are ranked by their starts alone. -/
def startsFirst (edit other : Edit) : Bool := edit.start ≤ other.start

theorem foldl_furthest (edits : List Edit) (stop : Nat) :
    edits.foldl (fun stop edit => max stop edit.stop) stop = max stop (furthest edits) := by
  induction edits generalizing stop with
  | nil => exact (Nat.max_zero stop).symm
  | cons edit rest ih =>
    have first : furthest (edit :: rest) = max (max 0 edit.stop) (furthest rest) := ih _
    rw [List.foldl_cons, ih, first, Nat.zero_max, Nat.max_assoc]

theorem furthest_cons (edit : Edit) (rest : List Edit) :
    furthest (edit :: rest) = max edit.stop (furthest rest) := by
  rw [furthest, List.foldl_cons, foldl_furthest, Nat.zero_max]

/-- Also a single edit is the batch of itself, so all batches are joined from sorted edits. -/
theorem batch_eq (edits : List Edit) : batch edits = joined? (edits.mergeSort startsFirst) := by
  cases edits with
  | nil =>
    rw [List.mergeSort_nil]
    rfl
  | cons first rest =>
    cases rest with
    | nil => simp [batch, joined?, furthest]
    | cons second rest => rfl

theorem startsFirst_trans (a b c : Edit) (first : startsFirst a b = true)
    (second : startsFirst b c = true) : startsFirst a c = true := by
  simp only [startsFirst, decide_eq_true_eq] at first second ⊢
  omega

theorem startsFirst_total (a b : Edit) : (startsFirst a b || startsFirst b a) = true := by
  simp only [startsFirst, Bool.or_eq_true, decide_eq_true_eq]
  omega

/-- Where no two edits start at one place there is only one way to sort them. -/
theorem batch_perm (distinct : (edits.map Edit.start).Nodup) (same : edits.Perm others) :
    batch others = batch edits := by
  have sort : others.mergeSort startsFirst = edits.mergeSort startsFirst := by
    refine List.Perm.eq_of_pairwise ?_
      (List.pairwise_mergeSort startsFirst_trans startsFirst_total others)
      (List.pairwise_mergeSort startsFirst_trans startsFirst_total edits)
      ((List.mergeSort_perm others _).trans (same.symm.trans (List.mergeSort_perm edits _).symm))
    intro a b inOthers inEdits before behind
    have starts : a.start = b.start := by
      simp only [startsFirst, decide_eq_true_eq] at before behind
      omega
    exact List.inj_on_of_nodup_map distinct (same.mem_iff.mpr (List.mem_mergeSort.mp inOthers))
      (List.mem_mergeSort.mp inEdits) starts
  rw [batch_eq, batch_eq, sort]

/-! ## One after the other -/

/-- Carries edits out one after the other. -/
def applyInTurn? (edits : List Edit) (old : String) : Option String :=
  edits.foldlM (fun text edit => edit.applyTo? text) old

/-- The edits follow one another without a gap, and none of them splits a character of the text. -/
structure Adjacent (old : String) (edits : List Edit) : Prop where
  forward : ∀ edit ∈ edits, edit.start ≤ edit.stop
  touching : edits.IsChain fun edit next => edit.stop = next.start
  boundaries : ∀ edit ∈ edits,
    isBoundary old edit.start = true ∧ isBoundary old edit.stop = true

theorem applyInTurn?_concat (edits : List Edit) (edit : Edit) (old : String) :
    applyInTurn? (edits ++ [edit]) old = (applyInTurn? edits old).bind edit.applyTo? := by
  simp [applyInTurn?]

theorem Adjacent.tail {next : Edit} (adjacent : Adjacent old (edit :: next :: rest)) :
    Adjacent old (next :: rest) where
  forward := fun edit member => adjacent.forward edit (List.mem_cons_of_mem _ member)
  touching := (List.isChain_cons_cons.mp adjacent.touching).2
  boundaries := fun edit member => adjacent.boundaries edit (List.mem_cons_of_mem _ member)

/-- The first of some adjacent edits takes the middle of the text and puts its own text there. -/
theorem Adjacent.first (adjacent : Adjacent old (edit :: rest)) :
    ∃ front middle back, old.toList = front ++ middle ++ back ∧
      edit.start = byteLength front ∧ edit.stop = byteLength (front ++ middle) := by
  obtain ⟨startBoundary, stopBoundary⟩ := adjacent.boundaries edit List.mem_cons_self
  obtain ⟨before, start⟩ := isBoundary_iff_cut.mp startBoundary
  obtain ⟨behind, stop⟩ := isBoundary_iff_cut.mp stopBoundary
  have applied := applyTo?_of_cuts (adjacent.forward edit List.mem_cons_self) start stop
  obtain ⟨front, middle, back, rfl, -, startLength, stopLength⟩ := applyTo?_eq_some_iff.mp applied
  refine ⟨front, middle, back, String.toList_ofList, startLength, ?_⟩
  rw [byteLength_append, stopLength]

/-- The stretch that adjacent edits replace together, and what comes of it. -/
theorem Adjacent.applies (adjacent : Adjacent old (edit :: rest)) :
    ∃ front middle back, old.toList = front ++ middle ++ back ∧
      edit.start = byteLength front ∧
      furthest (edit :: rest) = byteLength (front ++ middle) ∧
      applyInTurn? (edit :: rest).reverse old =
        some (String.ofList
          (front ++ (String.join ((edit :: rest).map Edit.text)).toList ++ back)) := by
  induction rest generalizing edit with
  | nil =>
    obtain ⟨front, middle, back, whole, start, stop⟩ := adjacent.first
    refine ⟨front, middle, back, whole, start, ?_, ?_⟩
    · rw [furthest_cons, ← stop]
      exact Nat.max_zero edit.stop
    · have alone : applyInTurn? [edit].reverse old = edit.applyTo? old := applyInTurn?_concat [] edit old
      rw [alone, applyTo?_eq_some_iff]
      refine ⟨front, middle, back, ?_, ?_, start, ?_⟩
      · rw [← whole, String.ofList_toList]
      · simp
      · rw [stop, byteLength_append]
  | cons next rest ih =>
    obtain ⟨front, middle, _, whole, start, stop⟩ := adjacent.first
    obtain ⟨later, replaced, back, wholeLater, startLater, stopLater, turns⟩ := ih adjacent.tail
    have touching : edit.stop = next.start := (List.isChain_cons_cons.mp adjacent.touching).1
    have before : later = front ++ middle := by
      rw [wholeLater, List.append_assoc] at whole
      exact front_eq_of_byteLength whole (by rw [← startLater, ← touching, stop])
    have further : edit.stop ≤ furthest (next :: rest) := by
      rw [furthest_cons, touching]
      exact Nat.le_trans (adjacent.tail.forward next List.mem_cons_self) (Nat.le_max_left _ _)
    refine ⟨front, middle ++ replaced, back, ?_, start, ?_, ?_⟩
    · rw [wholeLater, before, List.append_assoc front]
    · rw [furthest_cons, Nat.max_eq_right further, stopLater, before, List.append_assoc]
    · rw [List.reverse_cons, applyInTurn?_concat, turns, Option.bind_some, applyTo?_eq_some_iff]
      refine ⟨front, middle, (String.join ((next :: rest).map Edit.text)).toList ++ back, ?_, ?_,
        start, ?_⟩
      · rw [before, List.append_assoc (front ++ middle)]
      · rw [List.map_cons, String.join_cons, String.toList_append]
        simp only [List.append_assoc]
      · rw [stop, byteLength_append]

/-- **A batch does adjacent edits at once.** Take some edits, at least one, in any order. There is a
batch of them. Where their stable sort by start is such that each goes forward and ends where the next
one starts, and no end of one splits a character of the text, the batch can be carried out, and it gives
what they give one after the other, from the last to the first. Where no two of the edits start at one
place, the batch is the same in whatever order they come. -/
theorem batch_does_adjacent_edits (edits : List Edit) :
    (edits ≠ [] → ∃ whole, batch edits = some whole ∧
      ∀ (old : String) (sorted : List Edit), SortsStably startsFirst edits sorted →
        Adjacent old sorted →
          ∃ new, whole.applyTo? old = some new ∧ applyInTurn? sorted.reverse old = some new) ∧
    ((edits.map Edit.start).Nodup → ∀ others, edits.Perm others → batch others = batch edits) := by
  refine ⟨?_, ?_⟩
  · intro nonempty
    obtain ⟨first, rest, merged⟩ : ∃ first rest, edits.mergeSort startsFirst = first :: rest := by
      apply List.exists_cons_of_ne_nil
      intro empty
      have same := List.mergeSort_perm edits startsFirst
      rw [empty] at same
      exact nonempty same.nil_eq.symm
    refine ⟨_, by rw [batch_eq, merged]; rfl, ?_⟩
    intro old sorted sorts adjacent
    obtain rfl : first :: rest = sorted :=
      merged.symm.trans ((sortsStably_iff startsFirst_trans startsFirst_total).mp sorts)
    obtain ⟨front, middle, back, whole, start, stop, turns⟩ := adjacent.applies
    refine ⟨_, applyTo?_eq_some_iff.mpr ⟨front, middle, back, ?_, rfl, start, ?_⟩, turns⟩
    · rw [← whole, String.ofList_toList]
    · rw [← byteLength_append]
      exact stop
  · intro distinct others same
    exact batch_perm distinct same

/-- An insertion and a replacement at one place, and another replacement behind them that comes first.
The insertion stays before the replacement, where it stood. Without it, the order does not matter. -/
theorem insertion_keeps_its_turn :
    let edits : List Edit := [⟨3, 4, "y"⟩, ⟨1, 1, "x"⟩, ⟨1, 3, "z"⟩]
    let sorted : List Edit := [⟨1, 1, "x"⟩, ⟨1, 3, "z"⟩, ⟨3, 4, "y"⟩]
    (SortsStably startsFirst edits sorted ∧ Adjacent "aéb" sorted) ∧
      (∃ whole, batch edits = some whole ∧ whole.applyTo? "aéb" = some "axzy") ∧
      batch [⟨1, 3, "z"⟩, ⟨3, 4, "y"⟩] = batch [⟨3, 4, "y"⟩, ⟨1, 3, "z"⟩] := by
  intro edits sorted
  have sorts : SortsStably startsFirst edits sorted := by
    refine ⟨by decide, by decide, ?_⟩
    intro item
    by_cases last : item.start = 3
    · simp [edits, sorted, level, startsFirst, last]
    · have apart : level startsFirst item ⟨3, 4, "y"⟩ = false := by
        simp only [level, startsFirst, Bool.and_eq_false_iff, decide_eq_false_iff_not]
        omega
      simp [edits, sorted, List.filter_cons, apart]
  have adjacent : Adjacent "aéb" sorted := by
    refine ⟨by decide, ?_, by decide⟩
    simp [sorted]
  obtain ⟨whole, batched, does⟩ := (batch_does_adjacent_edits edits).1 (List.cons_ne_nil _ _)
  obtain ⟨new, applied, turns⟩ := does "aéb" sorted sorts adjacent
  have result : applyInTurn? sorted.reverse "aéb" = some "axzy" := by decide
  rw [turns] at result
  refine ⟨⟨sorts, adjacent⟩, ⟨whole, batched, applied.trans result⟩, ?_⟩
  exact (batch_does_adjacent_edits [⟨3, 4, "y"⟩, ⟨1, 3, "z"⟩]).2 (by decide) _ (by decide)

end Edit

end SourceFacts

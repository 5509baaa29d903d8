import Mathlib.Data.List.Destutter
import SourceFacts.Proofs.MatchOrder
import SourceFacts.Proofs.StableSort

/-! The normal form of facts. Its lists are stable sorts by line and name in which no fact stands right
behind its like. For imports, line and name are all there is, so equal facts come to stand together and
only one of each is left; of exports and functions some may be left twice, with one of another kind
between them. Either way nothing is lost, and the normal form is its own normal form. -/
namespace SourceFacts

section

variable {α : Type} [DecidableEq α] {key : α → FactKey} {items others : List α} {item : α}

/-- The items by line and name, those of one line and name in the order in which they were found,
without each one that repeats the one right before it. -/
structure Arranges (key : α → FactKey) (items arranged : List α) : Prop where
  ordered : arranged.Pairwise fun a b => (key a).le (key b) = true
  members : ∀ item, item ∈ arranged ↔ item ∈ items
  stable : ∃ sorted, SortsStably (fun a b => (key a).le (key b)) items sorted ∧
    arranged = sorted.destutter (· ≠ ·)
  apart : arranged.IsChain (· ≠ ·)
  shorter : arranged.length ≤ items.length

/-! ## Repeats -/

/-- Which one of two equal items goes makes no difference. -/
theorem dropRepeats_eq (items : List α) : dropRepeats items = items.destutter (· ≠ ·) := by
  fun_induction dropRepeats items with
  | case1 => rfl
  | case2 item => rfl
  | case3 item rest ih =>
    rw [ih, List.destutter_cons', List.destutter_cons', List.destutter'_cons_neg]
    exact not_not.mpr rfl
  | case4 item next rest different ih =>
    rw [ih, List.destutter_cons', List.destutter_cons', List.destutter'_cons_pos _ different]

theorem mem_dropRepeats : item ∈ dropRepeats items ↔ item ∈ items := by
  have found := congrArg Option.isSome (find?_dropRepeats (fun other => decide (other = item)) items)
  rw [Bool.eq_iff_iff, List.find?_isSome, List.find?_isSome] at found
  simpa using found

theorem dropRepeats_sublist (items : List α) : (dropRepeats items).Sublist items := by
  rw [dropRepeats_eq]
  exact List.destutter_sublist _ items

theorem dropRepeats_apart (items : List α) : (dropRepeats items).IsChain (· ≠ ·) := by
  rw [dropRepeats_eq]
  exact List.isChain_destutter _ items

/-! ## Arranging -/

theorem arrange_arranges (key : α → FactKey) (items : List α) :
    Arranges key items (arrange key items) := by
  have sorts := mergeSort_sortsStably (fun a b c => FactKey.le_trans (key a) (key b) (key c))
    (fun a b => FactKey.le_total (key a) (key b)) items
  have fewer := dropRepeats_sublist (items.mergeSort fun a b => (key a).le (key b))
  refine ⟨sorts.ordered.sublist fewer, ?_, ⟨_, sorts, dropRepeats_eq _⟩, dropRepeats_apart _, ?_⟩
  · intro item
    rw [arrange, mem_dropRepeats, List.mem_mergeSort]
  · have length := fewer.length_le
    rwa [List.length_mergeSort] at length

/-- What is arranged already stays as it is. -/
theorem arrange_arrange (key : α → FactKey) (items : List α) :
    arrange key (arrange key items) = arrange key items := by
  have arranges := arrange_arranges key items
  rw [arrange_of_sorted arranges.ordered, dropRepeats_eq]
  exact List.destutter_of_isChain _ _ arranges.apart

/-- Where keys tell items apart, equal items stand together, so no two of them are left. -/
theorem arrange_nodup (apart : ∀ a b, key a = key b → a = b) (items : List α) :
    (arrange key items).Nodup := by
  have antisymmetric : Std.Antisymm fun a b => (key a).le (key b) = true :=
    ⟨fun a b before behind => apart a b (FactKey.le_antisymm before behind)⟩
  obtain ⟨sorted, sorts, arranged⟩ := (arrange_arranges key items).stable
  rw [arranged, sorts.ordered.destutter_eq_dedup]
  exact List.nodup_dedup sorted

theorem arrange_eq_of_mem_iff (apart : ∀ a b, key a = key b → a = b)
    (same : ∀ item, item ∈ others ↔ item ∈ items) : arrange key others = arrange key items := by
  have first := arrange_arranges key others
  have second := arrange_arranges key items
  refine List.Perm.eq_of_pairwise ?_ first.ordered second.ordered ?_
  · intro a b _ _ before behind
    exact apart a b (FactKey.le_antisymm before behind)
  · rw [List.perm_ext_iff_of_nodup (arrange_nodup apart others) (arrange_nodup apart items)]
    intro item
    rw [first.members, second.members, same]

/-- Where keys tell items apart, each item that is left ranks behind those before it. -/
theorem arrange_increasing (apart : ∀ a b, key a = key b → a = b) (items : List α) :
    (arrange key items).Pairwise fun a b => (key b).le (key a) = false := by
  refine ((arrange_arranges key items).ordered.and (arrange_nodup apart items)).imp ?_
  rintro a b ⟨before, different⟩
  apply Bool.eq_false_iff.mpr
  intro behind
  exact different (apart a b (FactKey.le_antisymm before behind))

end

namespace Facts

/-- **The normal form is a canonical sort of the facts.** Each list of facts is in order of line and
name, with names compared by their bytes, and has the same facts as before. It is the stable sort of
what was found, in which facts of one line and name stay in their order, and from which only those that
repeat the fact right before them are taken; no two facts that stand together are equal. The imports
increase strictly, so that none is there twice, and they are the same for all lists of imports that have
the same facts. There are no more facts than before, and to normalize again changes nothing. -/
theorem normal_form_is_canonical_sort (facts : Facts) :
    (Arranges ImportFact.key facts.imports facts.normalize.imports ∧
      Arranges ExportFact.key facts.exports facts.normalize.exports ∧
      Arranges FunctionFact.key facts.functions facts.normalize.functions) ∧
    facts.normalize.imports.Pairwise (fun a b => b.key.le a.key = false) ∧
    facts.normalize.imports.Nodup ∧
    (∀ other : Facts, (∀ fact, fact ∈ other.imports ↔ fact ∈ facts.imports) →
      other.normalize.imports = facts.normalize.imports) ∧
    facts.normalize.count ≤ facts.count ∧
    facts.normalize.normalize = facts.normalize := by
  have imports := arrange_arranges ImportFact.key facts.imports
  have exports := arrange_arranges ExportFact.key facts.exports
  have functions := arrange_arranges FunctionFact.key facts.functions
  have apart : ∀ a b : ImportFact, a.key = b.key → a = b := fun _ _ => ImportFact.key_eq_iff.mp
  refine ⟨⟨imports, exports, functions⟩, arrange_increasing apart _, arrange_nodup apart _, ?_, ?_, ?_⟩
  · intro other same
    exact arrange_eq_of_mem_iff apart same
  · exact Nat.add_le_add (Nat.add_le_add imports.shorter exports.shorter) functions.shorter
  · simp only [normalize, arrange_arrange]

/-- Two imports, each found twice and out of order: one of each is left, as for a list that has the same
two in order. -/
theorem scattered_imports_gathered :
    let found : Facts := ⟨[⟨"b", 2⟩, ⟨"a", 1⟩, ⟨"b", 2⟩, ⟨"a", 1⟩], [], []⟩
    let tidy : Facts := ⟨[⟨"a", 1⟩, ⟨"a", 1⟩, ⟨"b", 2⟩], [], []⟩
    (∀ fact, fact ∈ tidy.imports ↔ fact ∈ found.imports) ∧
      found.normalize.imports = [⟨"a", 1⟩, ⟨"b", 2⟩] ∧
      found.normalize.normalize = found.normalize := by
  intro found tidy
  obtain ⟨-, -, -, same, -, again⟩ := normal_form_is_canonical_sort found
  have members : ∀ fact, fact ∈ tidy.imports ↔ fact ∈ found.imports := by
    intro fact
    simp only [found, tidy, List.mem_cons, List.not_mem_nil, or_false]
    constructor
    · rintro (rfl | rfl | rfl)
      · exact .inr (.inl rfl)
      · exact .inr (.inl rfl)
      · exact .inl rfl
    · rintro (rfl | rfl | rfl | rfl)
      · exact .inr (.inr rfl)
      · exact .inl rfl
      · exact .inr (.inr rfl)
      · exact .inl rfl
  have gathered : tidy.normalize.imports = [⟨"a", 1⟩, ⟨"b", 2⟩] := by
    change arrange ImportFact.key tidy.imports = _
    rw [arrange_of_sorted (by decide)]
    decide
  exact ⟨members, (same tidy members).symm.trans gathered, again⟩

end Facts

end SourceFacts

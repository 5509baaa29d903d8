/-! What it is to sort stably, said without an algorithm. Facts and edits are ranked by a part of what
they hold, so several of them may be level. A stable sort has the items in their order of rank and
those that are level in the order in which they stood, and there is only one such list. -/
namespace SourceFacts

variable {α : Type} {le : α → α → Bool} {items sorted other : List α}

/-- Neither item ranks before the other. -/
def level (le : α → α → Bool) (item other : α) : Bool := le item other && le other item

/-- The same items by rank, and the items that are level as they stood. -/
structure SortsStably (le : α → α → Bool) (items sorted : List α) : Prop where
  perm : sorted.Perm items
  ordered : sorted.Pairwise fun item other => le item other = true
  level : ∀ item, sorted.filter (level le item) = items.filter (level le item)

theorem level_iff {item other : α} :
    level le item other = true ↔ le item other = true ∧ le other item = true := by
  rw [level, Bool.and_eq_true]

section

variable (trans : ∀ a b c, le a b = true → le b c = true → le a c = true)
  (total : ∀ a b, (le a b || le b a) = true)
include total

theorem level_self (item : α) : level le item item = true := by
  have reflexive := total item item
  rw [Bool.or_self] at reflexive
  exact level_iff.mpr ⟨reflexive, reflexive⟩

/-- Of two lists by rank with the same items, either begins with an item that ranks no later than the
other one. So both begin with level items, and what is level stands alike in both. -/
theorem eq_of_level (same : sorted.Perm other)
    (first : sorted.Pairwise fun item other => le item other = true)
    (second : other.Pairwise fun item other => le item other = true)
    (alike : ∀ item, sorted.filter (level le item) = other.filter (level le item)) :
    sorted = other := by
  induction sorted generalizing other with
  | nil => exact same.nil_eq
  | cons head rest ih =>
    cases other with
    | nil => exact same.eq_nil
    | cons next others =>
      obtain ⟨headFirst, restOrdered⟩ := List.pairwise_cons.mp first
      obtain ⟨nextFirst, othersOrdered⟩ := List.pairwise_cons.mp second
      have own := level_self total head
      have even : level le head next = true := by
        rcases List.mem_cons.mp (same.mem_iff.mpr List.mem_cons_self) with rfl | later
        · exact own
        · rcases List.mem_cons.mp (same.mem_iff.mp List.mem_cons_self) with rfl | behind
          · exact own
          · exact level_iff.mpr ⟨headFirst next later, nextFirst head behind⟩
      have heads := alike head
      rw [List.filter_cons_of_pos own, List.filter_cons_of_pos even] at heads
      obtain rfl := (List.cons.inj heads).1
      have restAlike : ∀ item, rest.filter (level le item) = others.filter (level le item) := by
        intro item
        have both := alike item
        by_cases ranked : level le item head = true
        · rw [List.filter_cons_of_pos ranked, List.filter_cons_of_pos ranked] at both
          exact (List.cons.inj both).2
        · rwa [List.filter_cons_of_neg ranked, List.filter_cons_of_neg ranked] at both
      rw [ih same.cons_inv restOrdered othersOrdered restAlike]

include trans

/-- Sorting keeps every part of a list that is by rank already, and the items that are level with one
of them are such a part. -/
theorem mergeSort_sortsStably (items : List α) : SortsStably le items (items.mergeSort le) where
  perm := List.mergeSort_perm items le
  ordered := List.pairwise_mergeSort trans total items
  level := by
    intro item
    have ranked : (items.filter (level le item)).Pairwise fun first second =>
        le first second = true := by
      apply List.pairwise_of_forall_mem_list
      intro first inFirst second inSecond
      have before := (level_iff.mp (List.mem_filter.mp inFirst).2).2
      have behind := (level_iff.mp (List.mem_filter.mp inSecond).2).1
      exact trans first item second before behind
    have kept := (List.sublist_mergeSort trans total ranked List.filter_sublist).filter (level le item)
    simp only [List.filter_filter, Bool.and_self] at kept
    have lengths := ((List.mergeSort_perm items le).filter (level le item)).length_eq
    exact (kept.eq_of_length lengths.symm).symm

theorem sortsStably_iff : SortsStably le items sorted ↔ items.mergeSort le = sorted := by
  constructor
  · intro sorts
    have merged := mergeSort_sortsStably trans total items
    apply eq_of_level total (merged.perm.trans sorts.perm.symm) merged.ordered sorts.ordered
    intro item
    rw [merged.level, sorts.level]
  · rintro rfl
    exact mergeSort_sortsStably trans total items

end

end SourceFacts

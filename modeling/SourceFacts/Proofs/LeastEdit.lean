import SourceFacts.Proofs.EditApplication

/-! The edit between two texts against every other edit that leads from the one to the other. It keeps
as much in front as two texts can share, and then as much at the back as is left to share, so no other
edit starts later and none removes less. There is only one such edit. Since an edit and the one that
undoes it start at the same place and exchange what they remove and what they put in, the edit found
from the new text to the old one is the one that undoes the edit from the old text to the new one. -/
namespace SourceFacts.Edit
open Text

/-! ## What two texts share -/

section

variable {α : Type} {shared left right run whole : List α}

/-- Two texts that part behind what they share have no longer beginning in common. -/
theorem BeginApart.prefix_shared (apart : BeginApart left right) (first : run <+: shared ++ left)
    (second : run <+: shared ++ right) : run <+: shared := by
  rcases List.prefix_or_prefix_of_prefix first (List.prefix_append shared left) with
    shorter | ⟨more, rfl⟩
  · exact shorter
  · rw [List.prefix_append_right_inj] at first second
    cases more with
    | nil => exact ⟨[], by rw [List.append_nil, List.append_nil]⟩
    | cons item rest =>
      obtain ⟨_, rfl⟩ := first
      obtain ⟨_, rfl⟩ := second
      exact absurd rfl (apart item rfl)

theorem BeginApart.suffix_shared (apart : BeginApart left.reverse right.reverse)
    (first : run <:+ left ++ shared) (second : run <:+ right ++ shared) : run <:+ shared := by
  rw [← List.reverse_prefix, List.reverse_append] at first second
  exact List.reverse_prefix.mp (apart.prefix_shared first second)

/-- If one of two texts is the end of the other, all of it is shared. -/
theorem BeginApart.nil_of_suffix (apart : BeginApart left.reverse right.reverse)
    (nested : left ++ shared <:+ right ++ shared) : left = [] := by
  have short := (apart.suffix_shared List.suffix_rfl nested).length_le
  rw [List.length_append] at short
  exact List.eq_nil_of_length_eq_zero (by omega)

theorem BeginApart.nil_or_nil (apart : BeginApart left.reverse right.reverse)
    (first : left ++ shared <:+ whole) (second : right ++ shared <:+ whole) :
    left = [] ∨ right = [] := by
  rcases List.suffix_or_suffix_of_suffix first second with nested | nested
  · exact .inl (apart.nil_of_suffix nested)
  · exact .inr (BeginApart.nil_of_suffix (fun item here there => apart item there here) nested)

end

section

variable {front oldMiddle newMiddle back before removed inserted after : List Char}

/-- Taken apart in any other way, two texts do not share more: what stands behind the change is no
longer, unless one text has nothing left between what is shared. -/
theorem shared_most (apart : BeginApart (oldMiddle ++ back) (newMiddle ++ back))
    (apartBehind : BeginApart oldMiddle.reverse newMiddle.reverse)
    (sameOld : front ++ oldMiddle ++ back = before ++ removed ++ after)
    (sameNew : front ++ newMiddle ++ back = before ++ inserted ++ after) :
    before <+: front ∧ (after <:+ back ∨ oldMiddle = [] ∨ newMiddle = []) := by
  rw [List.append_assoc] at sameOld sameNew
  have oldBegins : before <+: front ++ (oldMiddle ++ back) := by
    rw [sameOld, List.append_assoc]
    exact List.prefix_append _ _
  have newBegins : before <+: front ++ (newMiddle ++ back) := by
    rw [sameNew, List.append_assoc]
    exact List.prefix_append _ _
  have oldEnds : after <:+ front ++ (oldMiddle ++ back) := sameOld ▸ List.suffix_append _ _
  have newEnds : after <:+ front ++ (newMiddle ++ back) := sameNew ▸ List.suffix_append _ _
  have oldRest : oldMiddle ++ back <:+ front ++ (oldMiddle ++ back) := List.suffix_append _ _
  have newRest : newMiddle ++ back <:+ front ++ (newMiddle ++ back) := List.suffix_append _ _
  refine ⟨apart.prefix_shared oldBegins newBegins, ?_⟩
  rcases List.suffix_or_suffix_of_suffix oldEnds oldRest with inOld | beyondOld
  · rcases List.suffix_or_suffix_of_suffix newEnds newRest with inNew | beyondNew
    · exact .inl (apartBehind.suffix_shared inOld inNew)
    · exact .inr (apartBehind.nil_or_nil oldRest (beyondNew.trans oldEnds))
  · exact .inr (apartBehind.nil_or_nil (beyondOld.trans newEnds) newRest)

/-- Between what two texts share the most, the old one has the fewest bytes. -/
theorem middles_least (apart : BeginApart (oldMiddle ++ back) (newMiddle ++ back))
    (apartBehind : BeginApart oldMiddle.reverse newMiddle.reverse)
    (sameOld : front ++ oldMiddle ++ back = before ++ removed ++ after)
    (sameNew : front ++ newMiddle ++ back = before ++ inserted ++ after) :
    byteLength before ≤ byteLength front ∧ byteLength oldMiddle ≤ byteLength removed := by
  obtain ⟨⟨more, rfl⟩, ends⟩ := shared_most apart apartBehind sameOld sameNew
  have oldLength := congrArg byteLength sameOld
  have newLength := congrArg byteLength sameNew
  simp only [byteLength_append] at oldLength newLength ⊢
  refine ⟨Nat.le_add_right _ _, ?_⟩
  rcases ends with ⟨rest, rfl⟩ | rfl | rfl
  · rw [byteLength_append] at oldLength
    omega
  · exact Nat.zero_le _
  · have none : byteLength ([] : List Char) = 0 := rfl
    omega

end

/-! ## The last and least edit -/

variable {edit other : Edit} {old new : String}

/-- The edit leads from one text to the other. Of all edits that do, none starts later and none
removes less. -/
structure Tightest (edit : Edit) (old new : String) : Prop where
  applies : edit.applyTo? old = some new
  last : ∀ other : Edit, other.applyTo? old = some new → other.start ≤ edit.start
  least : ∀ other : Edit, other.applyTo? old = some new →
    edit.stop - edit.start ≤ other.stop - other.start

theorem between_tightest (found : between old new = some edit) : Tightest edit old new := by
  obtain ⟨front, oldMiddle, newMiddle, back, rfl, rfl, apart, apartBehind, shape⟩ :=
    between_parts old new
  rw [shape] at found
  split at found
  · cases found
  · cases found
    have least : ∀ other : Edit,
        other.applyTo? (String.ofList (front ++ oldMiddle ++ back)) =
          some (String.ofList (front ++ newMiddle ++ back)) →
        other.start ≤ byteLength front ∧ byteLength oldMiddle ≤ other.stop - other.start := by
      intro other applied
      obtain ⟨before, removed, after, sameOld, sameNew, start, stop⟩ :=
        applyTo?_eq_some_iff.mp applied
      rw [start, stop, Nat.add_sub_cancel_left]
      exact middles_least apart apartBehind (String.ofList_inj.mp sameOld)
        (String.ofList_inj.mp sameNew)
    refine ⟨applyTo?_middle front oldMiddle newMiddle back, ?_, ?_⟩
    · intro other applied
      exact (least other applied).1
    · intro other applied
      rw [Nat.add_sub_cancel_left]
      exact (least other applied).2

theorem size_of_applyTo? (applied : edit.applyTo? old = some new) :
    new.utf8ByteSize + (edit.stop - edit.start) = old.utf8ByteSize + edit.text.utf8ByteSize :=
  size_of_transforms (applies_iff_transforms.mp applied).1

theorem Tightest.text_least (tight : Tightest edit old new)
    (applied : other.applyTo? old = some new) :
    edit.text.utf8ByteSize ≤ other.text.utf8ByteSize := by
  have size := size_of_applyTo? tight.applies
  have otherSize := size_of_applyTo? applied
  have least := tight.least other applied
  omega

/-- The two texts and the ends of an edit tell what it puts in. -/
theorem text_eq_of_applyTo? (applied : edit.applyTo? old = some new)
    (otherApplied : other.applyTo? old = some new) (start : edit.start = other.start)
    (stop : edit.stop = other.stop) : edit.text = other.text := by
  obtain ⟨-, -, shape⟩ := transforms_iff.mp (applies_iff_transforms.mp applied).1
  obtain ⟨-, -, otherShape⟩ := transforms_iff.mp (applies_iff_transforms.mp otherApplied).1
  rw [otherShape, ← start, ← stop] at shape
  exact bytes_eq_iff.mp (List.append_cancel_left (List.append_cancel_right shape)).symm

theorem Tightest.unique (tight : Tightest edit old new) (otherTight : Tightest other old new) :
    edit = other := by
  have ordered := (cuts_of_applyTo? tight.applies).1
  have otherOrdered := (cuts_of_applyTo? otherTight.applies).1
  have start : edit.start = other.start :=
    Nat.le_antisymm (otherTight.last edit tight.applies) (tight.last other otherTight.applies)
  have size : edit.stop - edit.start = other.stop - other.start :=
    Nat.le_antisymm (tight.least other otherTight.applies) (otherTight.least edit tight.applies)
  have stop : edit.stop = other.stop := by omega
  have text := text_eq_of_applyTo? tight.applies otherTight.applies start stop
  cases edit
  cases other
  cases start
  cases stop
  cases text
  rfl

theorem exists_between (different : old ≠ new) : ∃ edit, between old new = some edit := by
  cases found : between old new with
  | none => exact absurd (eq_of_between_eq_none found) different
  | some edit => exact ⟨edit, rfl⟩

theorem isInsertion_iff :
    edit.isInsertion = true ↔ edit.start = edit.stop ∧ 0 < edit.text.utf8ByteSize := by
  simp [isInsertion, Nat.pos_iff_ne_zero]

theorem isDeletion_iff :
    edit.isDeletion = true ↔ edit.start < edit.stop ∧ edit.text.utf8ByteSize = 0 := by
  simp [isDeletion]

/-- An edit that removes the least only inserts where an insertion leads to the same text. -/
theorem Tightest.isInsertion_iff_exists (tight : Tightest edit old new) :
    edit.isInsertion = true ↔
      ∃ other : Edit, other.isInsertion = true ∧ other.applyTo? old = some new := by
  constructor
  · intro inserts
    exact ⟨edit, inserts, tight.applies⟩
  · rintro ⟨other, inserts, applied⟩
    have ordered := (cuts_of_applyTo? tight.applies).1
    have least := tight.least other applied
    have size := size_of_applyTo? tight.applies
    have otherSize := size_of_applyTo? applied
    rw [isInsertion_iff] at inserts ⊢
    omega

theorem Tightest.isDeletion_iff_exists (tight : Tightest edit old new) :
    edit.isDeletion = true ↔
      ∃ other : Edit, other.isDeletion = true ∧ other.applyTo? old = some new := by
  constructor
  · intro deletes
    exact ⟨edit, deletes, tight.applies⟩
  · rintro ⟨other, deletes, applied⟩
    have least := tight.text_least applied
    have size := size_of_applyTo? tight.applies
    have otherSize := size_of_applyTo? applied
    rw [isDeletion_iff] at deletes ⊢
    omega

/-- **No edit does with less.** Between two different texts the scan finds an edit that leads from the
one to the other. Every edit that does so removes at least as many bytes, puts in at least as many, and
starts no later. So the edit found is an insertion exactly if some insertion leads from the one text to
the other, and a deletion exactly if some deletion does. -/
theorem found_edit_is_least (old new : String) (different : old ≠ new) :
    ∃ edit, scan old new = .ok (some edit) ∧ between old new = some edit ∧
      edit.applyTo? old = some new ∧
      (∀ other : Edit, other.applyTo? old = some new →
        edit.stop - edit.start ≤ other.stop - other.start ∧
        edit.text.utf8ByteSize ≤ other.text.utf8ByteSize ∧
        other.start ≤ edit.start) ∧
      (edit.isInsertion = true ↔
        ∃ other : Edit, other.isInsertion = true ∧ other.applyTo? old = some new) ∧
      (edit.isDeletion = true ↔
        ∃ other : Edit, other.isDeletion = true ∧ other.applyTo? old = some new) := by
  obtain ⟨edit, found⟩ := exists_between different
  have tight := between_tightest found
  refine ⟨edit, by rw [scan_eq_between, found], found, tight.applies, ?_,
    tight.isInsertion_iff_exists, tight.isDeletion_iff_exists⟩
  intro other applied
  exact ⟨tight.least other applied, tight.text_least applied, tight.last other applied⟩

/-- A text that repeats itself is made longer. The repeat may be put in at three places, and more may be
replaced than need be; the edit found is the last of the insertions. -/
theorem repeated_text_inserted_last :
    "abab" ≠ "ababab" ∧ scan "abab" "ababab" = .ok (some ⟨4, 4, "ab"⟩) ∧
      isInsertion ⟨4, 4, "ab"⟩ = true ∧
      applyTo? ⟨1, 3, "baba"⟩ "abab" = some "ababab" ∧ 4 - 4 ≤ 3 - 1 ∧
      "ab".utf8ByteSize ≤ "baba".utf8ByteSize := by
  have different : "abab" ≠ "ababab" := by decide
  obtain ⟨edit, scanned, found, -, least, insertion, -⟩ := found_edit_is_least _ _ different
  have shape : between "abab" "ababab" = some ⟨4, 4, "ab"⟩ := by decide
  have front : applyTo? ⟨0, 0, "ab"⟩ "abab" = some "ababab" := by decide
  have wide : applyTo? ⟨1, 3, "baba"⟩ "abab" = some "ababab" := by decide
  obtain rfl : edit = ⟨4, 4, "ab"⟩ := Option.some.inj (found.symm.trans shape)
  obtain ⟨removed, inserted, -⟩ := least ⟨1, 3, "baba"⟩ wide
  exact ⟨different, scanned, insertion.mpr ⟨⟨0, 0, "ab"⟩, by decide, front⟩, wide, removed, inserted⟩

/-! ## Backwards -/

/-- An edit that was carried out can be undone: what it put in goes, and what it removed comes back. -/
theorem undo_applies (applied : edit.applyTo? old = some new) :
    ∃ removed, stretch old edit.start edit.stop = .ok removed ∧
      removed.utf8ByteSize = edit.stop - edit.start ∧
      applyTo? ⟨edit.start, edit.start + edit.text.utf8ByteSize, removed⟩ new = some old := by
  obtain ⟨front, middle, back, rfl, rfl, start, stop⟩ := applyTo?_eq_some_iff.mp applied
  have inserted : edit.text.utf8ByteSize = byteLength edit.text.toList := by
    rw [← utf8ByteSize_ofList, String.ofList_toList]
  refine ⟨String.ofList middle, ?_, ?_, ?_⟩
  · rw [start, stop]
    exact stretch_eq front middle back
  · rw [utf8ByteSize_ofList, start, stop, Nat.add_sub_cancel_left]
  · rw [start, inserted]
    exact applyTo?_middle front edit.text.toList middle back

/-- Every edit back is undone by an edit forth, so what undoes the last and least edit is the last and
least as well. -/
theorem Tightest.undo {removed : String} (tight : Tightest edit old new)
    (undone : applyTo? ⟨edit.start, edit.start + edit.text.utf8ByteSize, removed⟩ new = some old) :
    Tightest ⟨edit.start, edit.start + edit.text.utf8ByteSize, removed⟩ new old := by
  refine ⟨undone, ?_, ?_⟩
  · intro other applied
    obtain ⟨taken, -, -, forth⟩ := undo_applies applied
    have later := tight.last _ forth
    exact later
  · intro other applied
    obtain ⟨taken, -, size, forth⟩ := undo_applies applied
    rw [Nat.add_sub_cancel_left, ← size]
    exact tight.text_least forth

/-- **Found backwards, an edit is undone.** Between two different texts, the scan from the new text to
the old one finds an edit with the same start; it ends where the text put in by the edit from the old
text to the new one ends, and puts back exactly the stretch of the old text that this edit removed.
Each of the two scans asks for boundaries of its own first text only. -/
theorem backward_scan_undoes (old new : String) (different : old ≠ new) :
    ∃ edit removed undo, scan old new = .ok (some edit) ∧ between old new = some edit ∧
      stretch old edit.start edit.stop = .ok removed ∧
      undo = ⟨edit.start, edit.start + edit.text.utf8ByteSize, removed⟩ ∧
      scan new old = .ok (some undo) ∧ between new old = some undo ∧
      edit.applyTo? old = some new ∧ undo.applyTo? new = some old := by
  obtain ⟨edit, found⟩ := exists_between different
  obtain ⟨undo, foundBack⟩ := exists_between different.symm
  have tight := between_tightest found
  have tightBack := between_tightest foundBack
  obtain ⟨removed, taken, -, undone⟩ := undo_applies tight.applies
  refine ⟨edit, removed, undo, by rw [scan_eq_between, found], found, taken,
    tightBack.unique (tight.undo undone), by rw [scan_eq_between, foundBack], foundBack,
    tight.applies, tightBack.applies⟩

/-- The first characters of the change begin alike and its last ones end alike, so all four scans stop
inside a character, of one text forth and of the other back. -/
theorem half_shared_characters_restored :
    "a€éb" ≠ "a₭ĩ©b" ∧ scan "a€éb" "a₭ĩ©b" = .ok (some ⟨1, 6, "₭ĩ©"⟩) ∧
      stretch "a€éb" 1 6 = .ok "€é" ∧ scan "a₭ĩ©b" "a€éb" = .ok (some ⟨1, 8, "€é"⟩) := by
  have different : "a€éb" ≠ "a₭ĩ©b" := by decide
  obtain ⟨edit, removed, undo, scanned, found, taken, rfl, back, -⟩ :=
    backward_scan_undoes _ _ different
  have shape : between "a€éb" "a₭ĩ©b" = some ⟨1, 6, "₭ĩ©"⟩ := by decide
  obtain rfl : edit = ⟨1, 6, "₭ĩ©"⟩ := Option.some.inj (found.symm.trans shape)
  have stretched : stretch "a€éb" 1 6 = .ok "€é" := by rfl
  obtain rfl : removed = "€é" := Except.ok.inj (taken.symm.trans stretched)
  exact ⟨different, scanned, stretched, back⟩

end SourceFacts.Edit

import SourceFacts.Edit

/-! The edit between two texts leads from the first to the second. Two texts share what
stands in front and what stands at the back; the edit replaces what is left of the first
between them by what is left of the second, and there is an edit unless nothing is left
of either. -/
namespace SourceFacts

namespace Text

/-- The bytes of a text are those of its characters. -/
theorem bytes_eq (text : String) : bytes text = text.toList.flatMap String.utf8EncodeChar := by
  rw [bytes, ← String.utf8Encode_toList]
  simp [List.utf8Encode]

theorem bytes_ofList (chars : List Char) :
    bytes (String.ofList chars) = chars.flatMap String.utf8EncodeChar := by
  rw [bytes_eq, String.toList_ofList]

theorem length_bytes (text : String) : (bytes text).length = text.utf8ByteSize :=
  rfl

theorem bytes_eq_iff {first second : String} : bytes first = bytes second ↔ first = second := by
  rw [bytes, bytes, Array.toList_inj, ← ByteArray.ext_iff, String.toByteArray_inj]

theorem byteLength_eq (chars : List Char) :
    byteLength chars = (chars.flatMap String.utf8EncodeChar).length := by
  induction chars with
  | nil => rfl
  | cons char rest ih =>
    rw [byteLength, ih, List.flatMap_cons, List.length_append, String.length_utf8EncodeChar]

theorem byteLength_reverse (chars : List Char) : byteLength chars.reverse = byteLength chars := by
  rw [byteLength_eq, byteLength_eq]
  exact ((List.reverse_perm chars).flatMap_right _).length_eq

end Text

namespace Edit
open Text

/-- What two texts share and what is left of each make up both. -/
theorem dropShared_append (first second : List Char) :
    first = (dropShared first second).1 ++ (dropShared first second).2.1 ∧
      second = (dropShared first second).1 ++ (dropShared first second).2.2 := by
  induction first generalizing second with
  | nil => cases second <;> exact ⟨rfl, rfl⟩
  | cons char rest ih =>
    cases second with
    | nil => exact ⟨rfl, rfl⟩
    | cons other others =>
      by_cases same : char = other
      · simpa [dropShared, same] using ih others
      · simp [dropShared, same]

/-- Two runs do not begin with the same item. -/
def BeginApart {α : Type} (first second : List α) : Prop :=
  ∀ item, first.head? = some item → second.head? ≠ some item

/-- What is left of two texts does not begin with a character that they share. -/
theorem dropShared_apart (first second : List Char) :
    BeginApart (dropShared first second).2.1 (dropShared first second).2.2 := by
  induction first generalizing second with
  | nil =>
    intro item begins
    cases second <;> cases begins
  | cons char rest ih =>
    cases second with
    | nil =>
      intro item _ begins
      cases begins
    | cons other others =>
      by_cases same : char = other
      · simpa [dropShared, same] using ih others
      · simp [dropShared, same, BeginApart, Ne.symm same]

/-- Two texts around one place where they may differ, and the edit at that place. More is shared
neither before nor behind it. -/
theorem between_parts (old new : String) :
    ∃ front oldMiddle newMiddle back,
      old = String.ofList (front ++ oldMiddle ++ back) ∧
      new = String.ofList (front ++ newMiddle ++ back) ∧
      BeginApart (oldMiddle ++ back) (newMiddle ++ back) ∧
      BeginApart oldMiddle.reverse newMiddle.reverse ∧
      between old new =
        if oldMiddle = [] ∧ newMiddle = [] then none
        else some ⟨byteLength front, byteLength front + byteLength oldMiddle,
          String.ofList newMiddle⟩ := by
  have apart := dropShared_apart old.toList new.toList
  obtain ⟨oldFront, newFront⟩ := dropShared_append old.toList new.toList
  cases shared : dropShared old.toList new.toList with
  | mk front rests =>
    obtain ⟨oldRest, newRest⟩ := rests
    rw [shared] at oldFront newFront apart
    have apartBehind := dropShared_apart oldRest.reverse newRest.reverse
    obtain ⟨oldBack, newBack⟩ := dropShared_append oldRest.reverse newRest.reverse
    cases behind : dropShared oldRest.reverse newRest.reverse with
    | mk back middles =>
      obtain ⟨oldMiddle, newMiddle⟩ := middles
      rw [behind] at oldBack newBack apartBehind
      refine ⟨front, oldMiddle.reverse, newMiddle.reverse, back.reverse, ?_, ?_, ?_, ?_, ?_⟩
      · rw [List.append_assoc, ← List.reverse_append, ← oldBack, List.reverse_reverse,
          ← oldFront, String.ofList_toList]
      · rw [List.append_assoc, ← List.reverse_append, ← newBack, List.reverse_reverse,
          ← newFront, String.ofList_toList]
      · rw [← List.reverse_append, ← List.reverse_append, ← oldBack, ← newBack,
          List.reverse_reverse, List.reverse_reverse]
        exact apart
      · rw [List.reverse_reverse, List.reverse_reverse]
        exact apartBehind
      · simp [between, shared, behind, byteLength_reverse]

/-- Only equal texts have no edit between them. -/
theorem eq_of_between_eq_none {old new : String} (none : between old new = none) : old = new := by
  obtain ⟨front, oldMiddle, newMiddle, back, rfl, rfl, -, -, edit⟩ := between_parts old new
  rw [edit] at none
  split at none
  · rename_i empty
    rw [empty.1, empty.2]
  · cases none

/-- Replacing one middle by another leads from the one text to the other. -/
theorem transforms_middle (front oldMiddle newMiddle back : List Char) :
    transforms
      ⟨byteLength front, byteLength front + byteLength oldMiddle, String.ofList newMiddle⟩
      (String.ofList (front ++ oldMiddle ++ back))
      (String.ofList (front ++ newMiddle ++ back)) = true := by
  simp only [transforms, bytes_ofList, List.flatMap_append, byteLength_eq]
  generalize front.flatMap String.utf8EncodeChar = before
  generalize oldMiddle.flatMap String.utf8EncodeChar = removed
  generalize newMiddle.flatMap String.utf8EncodeChar = inserted
  generalize back.flatMap String.utf8EncodeChar = after
  simp only [Bool.and_eq_true, decide_eq_true_eq, List.append_assoc, List.length_append]
  refine ⟨⟨⟨⟨⟨by omega, by omega⟩, by omega⟩, ?_⟩, ?_⟩, ?_⟩
  · simp
  · simp
  · simp

/-- The edit between two texts leads from the first to the second. -/
theorem between_transforms {old new : String} {edit : Edit}
    (found : between old new = some edit) : edit.transforms old new = true := by
  obtain ⟨front, oldMiddle, newMiddle, back, rfl, rfl, -, -, shape⟩ := between_parts old new
  rw [shape] at found
  split at found
  · cases found
  · cases found
    exact transforms_middle front oldMiddle newMiddle back

end Edit

end SourceFacts

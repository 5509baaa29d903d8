import SourceFacts.Proofs.ByteScan

/-! Two ways to tell where an edit leads. To carry an edit out is to cut the old text at both of its
ends, which needs a boundary at either. To check it is to compare bytes, which asks for no boundary but
for the three lengths to fit. So the check says yes wherever the bytes add up, and an edit that passes
it can be carried out exactly if it does not split a character. -/
namespace SourceFacts

namespace Text

/-! ## Cuts and bytes -/

section

variable {chars before after : List Char} {text : String} {offset : Nat}

/-- To cut a run of characters is to find a front part of that many bytes. -/
theorem cut?_eq_some_iff :
    cut? chars offset = some (before, after) ↔
      chars = before ++ after ∧ offset = byteLength before := by
  constructor
  · intro cut
    induction chars generalizing offset before with
    | nil =>
      cases offset with
      | zero =>
        cases cut
        exact ⟨rfl, rfl⟩
      | succ offset => cases cut
    | cons char rest ih =>
      cases offset with
      | zero =>
        cases cut
        exact ⟨rfl, rfl⟩
      | succ offset =>
        rw [cut?_cons (Nat.succ_pos offset)] at cut
        split at cut
        next fits =>
          obtain ⟨parts, inner, same⟩ := Option.map_eq_some_iff.mp cut
          cases same
          obtain ⟨joined, length⟩ := ih inner
          refine ⟨by rw [joined]; rfl, ?_⟩
          rw [byteLength, ← length]
          omega
        next => cases cut
  · rintro ⟨rfl, rfl⟩
    exact cut?_between before after

theorem isBoundary_iff_cut :
    isBoundary text offset = true ↔ ∃ parts, cut? text.toList offset = some parts := by
  rw [isBoundary, Option.isSome_iff_exists]

theorem take_bytes_of_cut (cut : cut? text.toList offset = some (before, after)) :
    (bytes text).take offset = bytes (String.ofList before) := by
  obtain ⟨joined, rfl⟩ := cut?_eq_some_iff.mp cut
  rw [bytes_eq, joined, List.flatMap_append, byteLength_eq, List.take_left, bytes_ofList]

theorem drop_bytes_of_cut (cut : cut? text.toList offset = some (before, after)) :
    (bytes text).drop offset = bytes (String.ofList after) := by
  obtain ⟨joined, rfl⟩ := cut?_eq_some_iff.mp cut
  rw [bytes_eq, joined, List.flatMap_append, byteLength_eq, List.drop_left, bytes_ofList]

theorem bytes_append (first second : String) :
    bytes (first ++ second) = bytes first ++ bytes second := by
  rw [bytes_eq, String.toList_append, List.flatMap_append, ← bytes_eq, ← bytes_eq]

end

end Text

namespace Edit
open Text

variable {edit : Edit} {old new : String}

/-! ## Carrying an edit out -/

theorem applyTo?_of_cuts {first second : List Char × List Char} (ordered : edit.start ≤ edit.stop)
    (start : cut? old.toList edit.start = some first)
    (stop : cut? old.toList edit.stop = some second) :
    edit.applyTo? old = some (String.ofList first.1 ++ edit.text ++ String.ofList second.2) := by
  have passed : (guard (edit.start ≤ edit.stop) : Option Unit) = some () := if_pos ordered
  rw [applyTo?, passed, start, stop]
  rfl

theorem cuts_of_applyTo? (applied : edit.applyTo? old = some new) :
    edit.start ≤ edit.stop ∧
      ∃ first second, cut? old.toList edit.start = some first ∧
        cut? old.toList edit.stop = some second := by
  by_cases ordered : edit.start ≤ edit.stop
  · have passed : (guard (edit.start ≤ edit.stop) : Option Unit) = some () := if_pos ordered
    rw [applyTo?, passed] at applied
    cases start : cut? old.toList edit.start with
    | none =>
      rw [start] at applied
      cases applied
    | some first =>
      cases stop : cut? old.toList edit.stop with
      | none =>
        rw [start, stop] at applied
        cases applied
      | some second => exact ⟨ordered, first, second, rfl, rfl⟩
  · have refused : (guard (edit.start ≤ edit.stop) : Option Unit) = none := if_neg ordered
    rw [applyTo?, refused] at applied
    cases applied

/-- An edit that can be carried out takes the middle of a text and puts its own text there. -/
theorem applyTo?_eq_some_iff :
    edit.applyTo? old = some new ↔
      ∃ front middle back, old = String.ofList (front ++ middle ++ back) ∧
        new = String.ofList (front ++ edit.text.toList ++ back) ∧
        edit.start = byteLength front ∧ edit.stop = byteLength front + byteLength middle := by
  constructor
  · intro applied
    obtain ⟨ordered, first, second, start, stop⟩ := cuts_of_applyTo? applied
    rw [applyTo?_of_cuts ordered start stop] at applied
    obtain ⟨whole, startLength⟩ := cut?_eq_some_iff.mp start
    obtain ⟨wholeAgain, stopLength⟩ := cut?_eq_some_iff.mp stop
    have within : first.1 <+: second.1 := by
      rcases List.prefix_or_prefix_of_prefix (whole ▸ List.prefix_append first.1 first.2)
        (wholeAgain ▸ List.prefix_append second.1 second.2) with shorter | ⟨more, longer⟩
      · exact shorter
      · rw [← longer, byteLength_append] at startLength
        have nothing : more = [] := (byteLength_eq_zero_iff more).mp (by omega)
        have same : first.1 = second.1 := by rw [← longer, nothing, List.append_nil]
        exact ⟨[], by rw [same, List.append_nil]⟩
    obtain ⟨middle, front⟩ := within
    refine ⟨first.1, middle, second.2, ?_, ?_, startLength, ?_⟩
    · rw [front, ← wholeAgain, String.ofList_toList]
    · rw [String.ofList_append, String.ofList_append, String.ofList_toList]
      exact (Option.some.inj applied).symm
    · rw [stopLength, ← front, byteLength_append]
  · rintro ⟨front, middle, back, rfl, rfl, start, stop⟩
    have applied := applyTo?_middle front middle edit.text.toList back
    rwa [String.ofList_toList, ← stop, ← start] at applied

/-! ## Checking an edit -/

/-- An edit passes the check if the bytes of the new text are those that it makes of the old one. -/
theorem transforms_iff :
    edit.transforms old new = true ↔
      edit.start ≤ edit.stop ∧ edit.stop ≤ (bytes old).length ∧
        bytes new = (bytes old).take edit.start ++ bytes edit.text ++ (bytes old).drop edit.stop := by
  simp only [transforms, Bool.and_eq_true, decide_eq_true_eq]
  constructor
  · rintro ⟨⟨⟨⟨⟨ordered, within⟩, -⟩, front⟩, middle⟩, back⟩
    refine ⟨ordered, within, ?_⟩
    calc bytes new
        = (bytes new).take edit.start ++ (bytes new).drop edit.start :=
          (List.take_append_drop _ _).symm
      _ = (bytes new).take edit.start ++ (((bytes new).drop edit.start).take (bytes edit.text).length ++
            ((bytes new).drop edit.start).drop (bytes edit.text).length) := by
          rw [List.take_append_drop (bytes edit.text).length]
      _ = (bytes old).take edit.start ++ bytes edit.text ++ (bytes old).drop edit.stop := by
          rw [middle, List.drop_drop, ← front, ← back, List.append_assoc]
  · rintro ⟨ordered, within, shape⟩
    have startLength : ((bytes old).take edit.start).length = edit.start := by
      rw [List.length_take]
      omega
    have stopLength : ((bytes old).drop edit.stop).length = (bytes old).length - edit.stop :=
      List.length_drop
    have newLength := congrArg List.length shape
    rw [List.length_append, List.length_append, startLength, stopLength] at newLength
    refine ⟨⟨⟨⟨⟨ordered, within⟩, by omega⟩, ?_⟩, ?_⟩, ?_⟩
    · rw [shape, List.append_assoc, List.take_left' startLength]
    · rw [shape, List.append_assoc, List.drop_left' startLength, List.take_left]
    · rw [shape, List.drop_left' (by rw [List.length_append, startLength])]

theorem minus_eq {whole part : Nat} (fits : part ≤ whole) : minus whole part = .ok (whole - part) :=
  if_pos fits

theorem byteStretch_eq (bytes : List UInt8) {start stop : Nat} (ordered : start ≤ stop)
    (within : stop ≤ bytes.length) :
    byteStretch bytes start stop = .ok ((bytes.drop start).take (stop - start)) := by
  rw [byteStretch, if_pos ⟨ordered, within⟩, List.drop_take]

/-- The check has no fault: once the lengths fit, every stretch that it looks at is there. -/
theorem check_eq_transforms (edit : Edit) (old new : String) :
    edit.check old new = .ok (edit.transforms old new) := by
  by_cases refused : edit.stop < edit.start ∨ (bytes old).length < edit.stop
  · have failed : edit.transforms old new = false := by
      apply Bool.eq_false_iff.mpr
      intro passed
      obtain ⟨ordered, within, -⟩ := transforms_iff.mp passed
      omega
    rw [check, if_pos refused, failed]
  · have ordered : edit.start ≤ edit.stop := by omega
    have within : edit.stop ≤ (bytes old).length := by omega
    have removed := minus_eq ordered
    have kept : minus (bytes old).length (edit.stop - edit.start) =
        .ok ((bytes old).length - (edit.stop - edit.start)) := minus_eq (by omega)
    simp only [check, if_neg refused, removed, kept, bind, Except.bind, pure, Except.pure]
    by_cases lengths : (bytes old).length - (edit.stop - edit.start) + (bytes edit.text).length =
        (bytes new).length
    · have oldFront := byteStretch_eq (bytes old) (Nat.zero_le edit.start) (by omega)
      have newFront := byteStretch_eq (bytes new) (Nat.zero_le edit.start) (by omega)
      have middle := byteStretch_eq (bytes new)
        (Nat.le_add_right edit.start (bytes edit.text).length) (by omega)
      have oldBack := byteStretch_eq (bytes old) within (Nat.le_refl _)
      have insertedWithin : edit.start + (bytes edit.text).length ≤ (bytes new).length := by omega
      have newBack := byteStretch_eq (bytes new) insertedWithin (Nat.le_refl _)
      rw [List.drop_zero, Nat.sub_zero] at oldFront newFront
      rw [Nat.add_sub_cancel_left] at middle
      rw [← List.length_drop, List.take_length] at oldBack newBack
      simp only [oldFront, newFront, middle, oldBack, newBack, transforms, ordered, within, lengths]
      by_cases sameFront : (bytes old).take edit.start = (bytes new).take edit.start
      · by_cases sameMiddle :
            ((bytes new).drop edit.start).take (bytes edit.text).length = bytes edit.text
        · simp [sameFront, sameMiddle]
        · simp [sameFront, sameMiddle]
      · simp [sameFront]
    · simp [transforms, lengths]

/-! ## Both together -/

/-- An edit can be carried out, and leads to this text, exactly if it passes the check and both of its
ends are boundaries. -/
theorem applies_iff_transforms :
    edit.applyTo? old = some new ↔
      edit.transforms old new = true ∧
        isBoundary old edit.start = true ∧ isBoundary old edit.stop = true := by
  rw [isBoundary_iff_cut, isBoundary_iff_cut]
  constructor
  · intro applied
    obtain ⟨-, first, second, start, stop⟩ := cuts_of_applyTo? applied
    refine ⟨?_, ⟨first, start⟩, second, stop⟩
    obtain ⟨front, middle, back, rfl, rfl, startLength, stopLength⟩ := applyTo?_eq_some_iff.mp applied
    have passed := transforms_middle front middle edit.text.toList back
    rwa [String.ofList_toList, ← stopLength, ← startLength] at passed
  · rintro ⟨passed, ⟨first, start⟩, second, stop⟩
    obtain ⟨ordered, -, shape⟩ := transforms_iff.mp passed
    rw [applyTo?_of_cuts ordered start stop, Option.some_inj, ← bytes_eq_iff, bytes_append,
      bytes_append, ← take_bytes_of_cut start, ← drop_bytes_of_cut stop]
    exact shape.symm

theorem size_of_transforms (passed : edit.transforms old new = true) :
    new.utf8ByteSize + (edit.stop - edit.start) = old.utf8ByteSize + edit.text.utf8ByteSize := by
  obtain ⟨ordered, within, shape⟩ := transforms_iff.mp passed
  have lengths := congrArg List.length shape
  rw [List.length_append, List.length_append, List.length_take, List.length_drop] at lengths
  simp only [length_bytes] at lengths within
  omega

/-- Every text in memory has fewer bytes than this, so that a signed number of 64 bits holds its size. -/
def sizeLimit : Nat := Nat.pow 2 63

/-- Within the limit no difference of sizes wraps round. -/
theorem bmod_sizes {first second : Nat} (firstFits : first < sizeLimit)
    (secondFits : second < sizeLimit) :
    ((second : Int) - first).bmod (Nat.pow 2 64) = second - first := by
  have limit : sizeLimit = 9223372036854775808 := by decide
  have modulus : Nat.pow 2 64 = 18446744073709551616 := by decide
  rw [modulus]
  apply Int.bmod_eq_of_le
  · omega
  · omega

/-- **Checking an edit and carrying it out agree.** The check asks for no byte that is not there,
whatever the edit is. It says yes exactly if the edit goes forward and stays within the old text, and
the bytes of the new text are those before the edit, those of its text and those behind it. The edit
can be carried out to give the new text exactly if it passes the check and splits no character. An edit
that passes tells the difference of the two sizes, up to what a signed number of 64 bits holds, and
exactly where both texts are within the limit that all texts in memory keep. -/
theorem check_agrees_with_application (edit : Edit) (old new : String) :
    edit.check old new = .ok (edit.transforms old new) ∧
    (edit.transforms old new = true ↔
      edit.start ≤ edit.stop ∧ edit.stop ≤ old.utf8ByteSize ∧
        bytes new = (bytes old).take edit.start ++ bytes edit.text ++ (bytes old).drop edit.stop) ∧
    (edit.applyTo? old = some new ↔
      edit.transforms old new = true ∧
        isBoundary old edit.start = true ∧ isBoundary old edit.stop = true) ∧
    (edit.transforms old new = true →
      edit.sizeDelta = ((new.utf8ByteSize : Int) - old.utf8ByteSize).bmod (Nat.pow 2 64) ∧
      (old.utf8ByteSize < sizeLimit → new.utf8ByteSize < sizeLimit →
        (new.utf8ByteSize : Int) = old.utf8ByteSize + edit.sizeDelta)) := by
  refine ⟨check_eq_transforms edit old new, transforms_iff, applies_iff_transforms, ?_⟩
  intro passed
  have sizes := size_of_transforms passed
  have delta : edit.sizeDelta =
      ((new.utf8ByteSize : Int) - old.utf8ByteSize).bmod (Nat.pow 2 64) := by
    rw [sizeDelta]
    congr 1
    omega
  refine ⟨delta, ?_⟩
  intro oldFits newFits
  rw [delta, bmod_sizes oldFits newFits]
  omega

/-- Half of one character goes, and half of the next. What is left is a character, so the edit passes
the check, but no text can be cut there. -/
theorem half_characters_removed :
    check ⟨1, 3, ""⟩ "éé" "é" = .ok true ∧ applyTo? ⟨1, 3, ""⟩ "éé" ≠ some "é" ∧
      ("é".utf8ByteSize : Int) = "éé".utf8ByteSize + sizeDelta ⟨1, 3, ""⟩ := by
  obtain ⟨checked, -, applied, sizes⟩ := check_agrees_with_application ⟨1, 3, ""⟩ "éé" "é"
  have passed : transforms ⟨1, 3, ""⟩ "éé" "é" = true := by decide
  have inside : isBoundary "éé" 1 = false := by decide
  rw [passed] at checked
  refine ⟨checked, ?_, (sizes passed).2 (by decide) (by decide)⟩
  intro gives
  have boundary := (applied.mp gives).2.1
  rw [inside] at boundary
  cases boundary

end Edit

end SourceFacts

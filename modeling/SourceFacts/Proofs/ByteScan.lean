import SourceFacts.Edit.Scan
import SourceFacts.Proofs.EditBetween

/-! A scan by bytes finds the edit by characters. No character is written with bytes that begin those
of another, or that end them, so where two texts differ in a character, bytes that they share there
are fewer than the character has. To go back to a boundary of the old text is then to give up exactly
these bytes, and it comes out at a boundary of the new text as well. -/
namespace SourceFacts

namespace Text

/-! ## Characters as bytes -/

section

variable {char other : Char} {chars : List Char}

/-- The bytes of a text tell its first character. -/
theorem char_eq_of_begins (left right : List UInt8)
    (same : String.utf8EncodeChar char ++ left = String.utf8EncodeChar other ++ right) :
    char = other := by
  have decoded := congrArg (fun bytes => bytes.toByteArray.utf8DecodeChar? 0) same
  simpa only [List.toByteArray_append, ByteArray.utf8DecodeChar?_utf8EncodeChar_append,
    Option.some.injEq] using decoded

/-- Bytes of a character look like the beginning of one only at its beginning, so no character ends
with the bytes of another. -/
theorem char_eq_of_ends
    (ends : String.utf8EncodeChar char <:+ String.utf8EncodeChar other) : char = other := by
  have positive : 0 < (String.utf8EncodeChar char).length := by
    rw [String.length_utf8EncodeChar]
    exact char.utf8Size_pos
  have begins := UInt8.isUTF8FirstByte_getElem_zero_utf8EncodeChar (c := char)
  rw [ends.getElem positive, UInt8.isUTF8FirstByte_getElem_utf8EncodeChar] at begins
  have lengths : (String.utf8EncodeChar char).length = (String.utf8EncodeChar other).length := by
    have := ends.length_le
    omega
  apply char_eq_of_begins [] []
  rw [ends.eq_of_length lengths]

theorem head_of_begins
    (begins : String.utf8EncodeChar char <+: chars.flatMap String.utf8EncodeChar) :
    chars.head? = some char := by
  obtain ⟨rest, same⟩ := begins
  cases chars with
  | nil => simp at same
  | cons first others =>
    rw [List.flatMap_cons] at same
    rw [char_eq_of_begins _ _ same]
    rfl

theorem last_of_ends
    (ends : String.utf8EncodeChar char <:+ chars.flatMap String.utf8EncodeChar) :
    chars.reverse.head? = some char := by
  rcases List.eq_nil_or_concat chars with rfl | ⟨others, last, rfl⟩
  · simp at ends
  · rw [List.concat_eq_append, List.flatMap_append, List.flatMap_singleton] at ends
    have lastEnds : String.utf8EncodeChar last <:+
        others.flatMap String.utf8EncodeChar ++ String.utf8EncodeChar last :=
      List.suffix_append _ _
    have same : char = last := by
      rcases List.suffix_or_suffix_of_suffix ends lastEnds with shorter | longer
      · exact char_eq_of_ends shorter
      · exact (char_eq_of_ends longer).symm
    simp [same]

end

/-! ## Cuts -/

theorem cut?_cons {offset : Nat} (positive : 0 < offset) (char : Char) (rest : List Char) :
    cut? (char :: rest) offset =
      if char.utf8Size ≤ offset then
        (cut? rest (offset - char.utf8Size)).map fun parts => (char :: parts.1, parts.2)
      else none := by
  rw [cut?]
  intro zero
  omega

/-- A cut behind a run of characters is one of what follows them. -/
theorem cut?_append (front rest : List Char) (offset : Nat) :
    cut? (front ++ rest) (byteLength front + offset) =
      (cut? rest offset).map fun parts => (front ++ parts.1, parts.2) := by
  induction front with
  | nil => simp [byteLength]
  | cons char front ih =>
    have positive := char.utf8Size_pos
    have left : byteLength (char :: front) + offset - char.utf8Size =
        byteLength front + offset := by
      rw [byteLength]
      omega
    rw [List.cons_append, cut?_cons (by rw [byteLength]; omega), left, ih, Option.map_map]
    exact if_pos (by rw [byteLength]; omega)

theorem cut?_between (front rest : List Char) :
    cut? (front ++ rest) (byteLength front) = some (front, rest) := by
  have cut := cut?_append front rest 0
  simpa only [Nat.add_zero, cut?, Option.map_some, List.append_nil] using cut

theorem isBoundary_append (front rest : List Char) :
    isBoundary (String.ofList (front ++ rest)) (byteLength front) = true := by
  rw [isBoundary, String.toList_ofList, cut?_between]
  rfl

/-- There is no boundary inside a character. -/
theorem isBoundary_inside {char : Char} {inside : Nat} (positive : 0 < inside)
    (less : inside < char.utf8Size) (front rest : List Char) :
    isBoundary (String.ofList (front ++ char :: rest)) (byteLength front + inside) = false := by
  have cut := cut?_append front (char :: rest) inside
  have none : cut? (char :: rest) inside = none := by
    rw [cut?_cons positive, if_neg (Nat.not_le.mpr less)]
  rw [isBoundary, String.toList_ofList, cut, none]
  rfl

theorem byteLength_append (front rest : List Char) :
    byteLength (front ++ rest) = byteLength front + byteLength rest := by
  rw [byteLength_eq, byteLength_eq, byteLength_eq, List.flatMap_append, List.length_append]

theorem byteLength_eq_zero_iff (chars : List Char) : byteLength chars = 0 ↔ chars = [] := by
  cases chars with
  | nil => simp [byteLength]
  | cons char rest =>
    have positive := char.utf8Size_pos
    simp only [byteLength, reduceCtorEq, iff_false]
    omega

theorem utf8ByteSize_ofList (chars : List Char) :
    (String.ofList chars).utf8ByteSize = byteLength chars := by
  rw [byteLength_eq, ← bytes_ofList]
  rfl

end Text

namespace Edit
open Text

/-! ## From the front -/

theorem exists_shared (first second : List UInt8) :
    ∃ shared left right, first = shared ++ left ∧ second = shared ++ right ∧
      BeginApart left right := by
  induction first generalizing second with
  | nil => exact ⟨[], [], second, rfl, rfl, by simp [BeginApart]⟩
  | cons byte rest ih =>
    cases second with
    | nil => exact ⟨[], byte :: rest, [], rfl, rfl, by simp [BeginApart]⟩
    | cons other others =>
      by_cases same : byte = other
      · obtain ⟨shared, left, right, first, second, apart⟩ := ih others
        exact ⟨byte :: shared, left, right, by rw [first]; rfl, by rw [same, second]; rfl, apart⟩
      · exact ⟨[], byte :: rest, other :: others, rfl, rfl, by simp [BeginApart, Ne.symm same]⟩

theorem BeginApart.eq_nil {α : Type} {items : List α} (apart : BeginApart items items) :
    items = [] := by
  cases items with
  | nil => rfl
  | cons item rest => exact absurd rfl (apart item rfl)

theorem byteAt_append (front : List UInt8) (byte : UInt8) (rest : List UInt8) :
    byteAt (front ++ byte :: rest) front.length = .ok byte := by
  simp [byteAt]

theorem scanForward_stops {left right : List UInt8} (apart : BeginApart left right)
    (done : List UInt8) :
    scanForward (done ++ left) (done ++ right) (min left.length right.length) done.length =
      .ok done.length := by
  cases left with
  | nil => simp [scanForward]
  | cons byte rest =>
    cases right with
    | nil => simp [scanForward]
    | cons other others =>
      have different : byte ≠ other := fun same => apart byte rfl (congrArg some same.symm)
      have count : min (byte :: rest).length (other :: others).length =
          min rest.length others.length + 1 := by
        simp only [List.length_cons]
        omega
      rw [count, scanForward, byteAt_append, byteAt_append]
      exact if_neg different

/-- The scan from the front goes through what is shared, and no further. -/
theorem scanForward_eq {left right : List UInt8} (apart : BeginApart left right)
    (done ahead : List UInt8) :
    scanForward (done ++ (ahead ++ left)) (done ++ (ahead ++ right))
        (ahead.length + min left.length right.length) done.length =
      .ok (done.length + ahead.length) := by
  induction ahead generalizing done with
  | nil => simpa using scanForward_stops apart done
  | cons byte ahead ih =>
    have next := ih (done ++ [byte])
    simp only [List.append_assoc, List.singleton_append, List.length_append,
      List.length_singleton] at next
    have count : (byte :: ahead).length + min left.length right.length =
        ahead.length + min left.length right.length + 1 := by
      rw [List.length_cons]
      omega
    rw [count, List.cons_append, List.cons_append, scanForward, byteAt_append, byteAt_append]
    refine (if_pos rfl).trans (next.trans ?_)
    rw [List.length_cons, Nat.add_assoc, Nat.add_comm 1]

theorem boundaryBefore_eq {text : String} {place extra : Nat} (here : isBoundary text place = true)
    (none : ∀ inside, 0 < inside → inside ≤ extra → isBoundary text (place + inside) = false) :
    boundaryBefore text (place + extra) = .ok place := by
  induction extra with
  | zero => cases place <;> exact if_pos here
  | succ extra ih =>
    have beyond := none (extra + 1) (Nat.succ_pos extra) (Nat.le_refl _)
    have earlier := ih fun inside positive le => none inside positive (Nat.le_succ_of_le le)
    rw [← Nat.add_assoc, boundaryBefore, Nat.add_assoc, beyond]
    exact earlier

/-- Where two texts do not begin with the same character, the bytes that they begin with are fewer
than those of the first character. -/
theorem length_shared_front {char : Char} {rest chars : List Char} {shared left right : List UInt8}
    (apart : BeginApart (char :: rest) chars)
    (first : (char :: rest).flatMap String.utf8EncodeChar = shared ++ left)
    (second : chars.flatMap String.utf8EncodeChar = shared ++ right) :
    shared.length < char.utf8Size := by
  apply Nat.lt_of_not_le
  intro long
  rw [List.flatMap_cons] at first
  have within : String.utf8EncodeChar char <+: shared := by
    apply List.prefix_of_prefix_length_le (List.prefix_append _ _)
      (first ▸ List.prefix_append shared left)
    rw [String.length_utf8EncodeChar]
    exact long
  have begins : String.utf8EncodeChar char <+: chars.flatMap String.utf8EncodeChar := by
    rw [second]
    exact within.trans (List.prefix_append shared right)
  exact apart char rfl (head_of_begins begins)

/-- The scan from the front comes out where the shared characters end. -/
theorem scan_front (front : List Char) {oldRest newRest : List Char}
    (apart : BeginApart oldRest newRest) :
    let old := String.ofList (front ++ oldRest)
    let new := String.ofList (front ++ newRest)
    ∃ place, scanForward (bytes old) (bytes new) (min (bytes old).length (bytes new).length) 0 =
        .ok place ∧
      boundaryBefore old place = .ok (byteLength front) := by
  intro old new
  obtain ⟨shared, left, right, oldShape, newShape, apartBytes⟩ :=
    exists_shared (oldRest.flatMap String.utf8EncodeChar) (newRest.flatMap String.utf8EncodeChar)
  have scanned := scanForward_eq apartBytes [] (front.flatMap String.utf8EncodeChar ++ shared)
  refine ⟨byteLength front + shared.length, ?_, boundaryBefore_eq (isBoundary_append _ _) ?_⟩
  · simp only [old, new, bytes_ofList, List.flatMap_append, oldShape, newShape, byteLength_eq]
    simp only [List.nil_append, List.append_assoc, List.length_append, List.length_nil,
      Nat.zero_add] at scanned ⊢
    rw [← scanned]
    congr 1
    omega
  · intro inside positive le
    cases oldRest with
    | nil =>
      have none : shared = [] := (List.append_eq_nil_iff.mp oldShape.symm).1
      rw [none] at le
      exact absurd le (Nat.not_le.mpr positive)
    | cons char rest =>
      have fewer := length_shared_front apart oldShape newShape
      exact isBoundary_inside positive (by omega) front rest

/-! ## From the back -/

theorem scanBackward_spent {start oldStop newStop : Nat}
    (spent : oldStop ≤ start ∨ newStop ≤ start) (old new : List UInt8) :
    scanBackward old new start oldStop newStop = .ok (oldStop, newStop) := by
  cases oldStop with
  | zero => rfl
  | succ oldStop =>
    cases newStop with
    | zero => rfl
    | succ newStop => rw [scanBackward, if_neg (by omega)]

theorem scanBackward_stops {left right : List UInt8}
    (apart : BeginApart left.reverse right.reverse) (front oldRest newRest : List UInt8) :
    scanBackward (front ++ left ++ oldRest) (front ++ right ++ newRest) front.length
        (front.length + left.length) (front.length + right.length) =
      .ok (front.length + left.length, front.length + right.length) := by
  rcases List.eq_nil_or_concat left with rfl | ⟨before, byte, rfl⟩
  · exact scanBackward_spent (.inl (Nat.le_refl _)) _ _
  rcases List.eq_nil_or_concat right with rfl | ⟨others, other, rfl⟩
  · exact scanBackward_spent (.inr (Nat.le_refl _)) _ _
  have different : byte ≠ other := by
    intro same
    exact apart byte (by simp) (by simp [same])
  have old := byteAt_append (front ++ before) byte oldRest
  have new := byteAt_append (front ++ others) other newRest
  simp only [List.concat_eq_append, List.append_assoc, List.singleton_append, List.length_append,
    List.length_singleton] at old new ⊢
  rw [← Nat.add_assoc, ← Nat.add_assoc, scanBackward, old, new, if_pos (by omega)]
  exact if_neg different

/-- The scan from the back goes through what is shared, and no further. -/
theorem scanBackward_eq {left right : List UInt8}
    (apart : BeginApart left.reverse right.reverse) (front shared : List UInt8) (count : Nat)
    (within : count ≤ shared.length) :
    scanBackward (front ++ left ++ shared) (front ++ right ++ shared) front.length
        (front.length + left.length + count) (front.length + right.length + count) =
      .ok (front.length + left.length, front.length + right.length) := by
  induction count with
  | zero => exact scanBackward_stops apart front shared shared
  | succ count ih =>
    have here : ∀ before : List UInt8,
        byteAt (before ++ shared) (before.length + count) = .ok (shared.get ⟨count, within⟩) := by
      intro before
      simp [byteAt, List.getElem?_append_right, List.getElem?_eq_getElem within]
    have old := here (front ++ left)
    have new := here (front ++ right)
    rw [List.length_append] at old new
    rw [← Nat.add_assoc, ← Nat.add_assoc, scanBackward, old, new, if_pos (by omega)]
    exact (if_pos rfl).trans (ih (Nat.le_of_succ_le within))

theorem boundaryAfter_eq {text : String} {place extra count : Nat}
    (here : isBoundary text (place + extra) = true)
    (none : ∀ before, before < extra → isBoundary text (place + before) = false)
    (room : extra ≤ count) (newStop : Nat) :
    boundaryAfter text count place newStop = .ok (place + extra, newStop + extra) := by
  induction extra generalizing place count newStop with
  | zero => cases count <;> exact if_pos here
  | succ extra ih =>
    obtain ⟨count, rfl⟩ : ∃ less, count = less + 1 := ⟨count - 1, by omega⟩
    have first : isBoundary text place = false := none 0 (Nat.succ_pos extra)
    have next : boundaryAfter text count (place + 1) (newStop + 1) =
        .ok (place + 1 + extra, newStop + 1 + extra) := by
      apply ih
      · rwa [Nat.add_assoc, Nat.add_comm 1]
      · intro before less
        rw [Nat.add_assoc, Nat.add_comm 1]
        exact none (before + 1) (Nat.succ_lt_succ less)
      · exact Nat.le_of_succ_le_succ room
    rw [boundaryAfter, first, if_neg Bool.false_ne_true, next, Nat.add_assoc, Nat.add_assoc,
      Nat.add_comm 1]

/-- Where two texts do not end with the same character, the bytes that they end with are fewer than
those of the last character. -/
theorem length_shared_back {char : Char} {rest chars : List Char} {shared left right : List UInt8}
    (apart : BeginApart (rest ++ [char]).reverse chars.reverse)
    (first : (rest ++ [char]).flatMap String.utf8EncodeChar = left ++ shared)
    (second : chars.flatMap String.utf8EncodeChar = right ++ shared) :
    shared.length < char.utf8Size := by
  apply Nat.lt_of_not_le
  intro long
  rw [List.flatMap_append, List.flatMap_singleton] at first
  have within : String.utf8EncodeChar char <:+ shared := by
    apply List.suffix_of_suffix_length_le (List.suffix_append _ _)
      (first ▸ List.suffix_append left shared)
    rw [String.length_utf8EncodeChar]
    exact long
  have ends : String.utf8EncodeChar char <:+ chars.flatMap String.utf8EncodeChar := by
    rw [second]
    exact within.trans (List.suffix_append right shared)
  exact apart char (by simp) (last_of_ends ends)

/-- Where the bytes begin that two texts end with, and on from there, are no boundaries until the last
character ends. -/
theorem isBoundary_back (front back : List Char) {oldMiddle newMiddle : List Char}
    {shared left right : List UInt8} {before : Nat}
    (apart : BeginApart oldMiddle.reverse newMiddle.reverse)
    (oldShape : oldMiddle.flatMap String.utf8EncodeChar = left ++ shared)
    (newShape : newMiddle.flatMap String.utf8EncodeChar = right ++ shared)
    (less : before < shared.length) :
    isBoundary (String.ofList (front ++ oldMiddle ++ back))
      (byteLength front + left.length + before) = false := by
  rcases List.eq_nil_or_concat oldMiddle with rfl | ⟨rest, char, rfl⟩
  · have none : shared = [] := (List.append_eq_nil_iff.mp oldShape.symm).2
    simp [none] at less
  · rw [List.concat_eq_append] at apart oldShape ⊢
    have fewer := length_shared_back apart oldShape newShape
    have length := congrArg List.length oldShape
    rw [← byteLength_eq, byteLength_append, byteLength, byteLength, List.length_append] at length
    have positive : 0 < char.utf8Size + before - shared.length := by omega
    have within : char.utf8Size + before - shared.length < char.utf8Size := by omega
    have inside := isBoundary_inside positive within (front ++ rest) back
    have place : byteLength (front ++ rest) + (char.utf8Size + before - shared.length) =
        byteLength front + left.length + before := by
      rw [byteLength_append]
      omega
    rw [place] at inside
    simpa using inside

/-- The scan from the back comes out where the shared characters begin, in both texts. -/
theorem scan_back (front back : List Char) {oldMiddle newMiddle : List Char}
    (apart : BeginApart oldMiddle.reverse newMiddle.reverse) :
    let old := String.ofList (front ++ oldMiddle ++ back)
    let new := String.ofList (front ++ newMiddle ++ back)
    ∃ places, scanBackward (bytes old) (bytes new) (byteLength front) (bytes old).length
        (bytes new).length = .ok places ∧
      boundaryAfter old ((bytes old).length - places.1) places.1 places.2 =
        .ok (byteLength front + byteLength oldMiddle, byteLength front + byteLength newMiddle) := by
  intro old new
  obtain ⟨shared, left, right, oldShape, newShape, apartBytes⟩ :=
    exists_shared (oldMiddle.flatMap String.utf8EncodeChar).reverse
      (newMiddle.flatMap String.utf8EncodeChar).reverse
  obtain ⟨shared, rfl⟩ : ∃ bytes, shared = bytes.reverse := ⟨shared.reverse, by simp⟩
  obtain ⟨left, rfl⟩ : ∃ bytes, left = bytes.reverse := ⟨left.reverse, by simp⟩
  obtain ⟨right, rfl⟩ : ∃ bytes, right = bytes.reverse := ⟨right.reverse, by simp⟩
  rw [← List.reverse_append, List.reverse_inj] at oldShape newShape
  have oldBytes : bytes old = front.flatMap String.utf8EncodeChar ++ left ++
      (shared ++ back.flatMap String.utf8EncodeChar) := by
    simp only [old, bytes_ofList, List.flatMap_append, oldShape, List.append_assoc]
  have newBytes : bytes new = front.flatMap String.utf8EncodeChar ++ right ++
      (shared ++ back.flatMap String.utf8EncodeChar) := by
    simp only [new, bytes_ofList, List.flatMap_append, newShape, List.append_assoc]
  have oldLength : byteLength oldMiddle = left.length + shared.length := by
    rw [byteLength_eq, oldShape, List.length_append]
  have newLength : byteLength newMiddle = right.length + shared.length := by
    rw [byteLength_eq, newShape, List.length_append]
  have frontLength := byteLength_eq front
  have scanned := scanBackward_eq apartBytes (front.flatMap String.utf8EncodeChar)
    (shared ++ back.flatMap String.utf8EncodeChar) _ (Nat.le_refl _)
  refine ⟨(byteLength front + left.length, byteLength front + right.length), ?_, ?_⟩
  · rw [oldBytes, newBytes, frontLength, ← scanned]
    simp only [List.length_append]
  · have here : isBoundary old (byteLength front + left.length + shared.length) = true := by
      have boundary := isBoundary_append (front ++ oldMiddle) back
      rwa [byteLength_append, oldLength, ← Nat.add_assoc] at boundary
    have none : ∀ before, before < shared.length →
        isBoundary old (byteLength front + left.length + before) = false :=
      fun before less => isBoundary_back front back apart oldShape newShape less
    have room : shared.length ≤ (bytes old).length - (byteLength front + left.length) := by
      rw [oldBytes, frontLength]
      simp only [List.length_append]
      omega
    rw [boundaryAfter_eq here none room, oldLength, newLength, Nat.add_assoc, Nat.add_assoc]

theorem stretch_eq (front middle back : List Char) :
    stretch (String.ofList (front ++ middle ++ back)) (byteLength front)
      (byteLength front + byteLength middle) = .ok (String.ofList middle) := by
  rw [stretch, if_pos (Nat.le_add_right _ _), String.toList_ofList, List.append_assoc, cut?_between]
  simp only [Nat.add_sub_cancel_left, cut?_between]

/-- The scan has no fault, and it finds the edit between the two texts. -/
theorem scan_eq_between (old new : String) : scan old new = .ok (between old new) := by
  obtain ⟨front, oldMiddle, newMiddle, back, rfl, rfl, apart, apartBehind, edit⟩ :=
    between_parts old new
  rw [edit]
  by_cases none : oldMiddle = [] ∧ newMiddle = []
  · rw [if_pos none, none.1, none.2]
    exact if_pos rfl
  · have different :
        String.ofList (front ++ oldMiddle ++ back) ≠ String.ofList (front ++ newMiddle ++ back) := by
      intro same
      have middles : oldMiddle = newMiddle :=
        List.append_cancel_left (List.append_cancel_right (String.ofList_inj.mp same))
      rw [middles] at apartBehind none
      have empty : newMiddle = [] := List.reverse_eq_nil_iff.mp apartBehind.eq_nil
      exact none ⟨empty, empty⟩
    obtain ⟨place, forward, start⟩ := scan_front front apart
    obtain ⟨places, backward, stops⟩ := scan_back front back apartBehind
    rw [← List.append_assoc, ← List.append_assoc] at forward
    rw [← List.append_assoc] at start
    rw [if_neg none, scan, if_neg different]
    simp only [forward, start, backward, stops, stretch_eq, bind, Except.bind, pure, Except.pure]

/-! ## The edit -/

theorem applyTo?_middle (front oldMiddle newMiddle back : List Char) :
    applyTo? ⟨byteLength front, byteLength front + byteLength oldMiddle, String.ofList newMiddle⟩
        (String.ofList (front ++ oldMiddle ++ back)) =
      some (String.ofList (front ++ newMiddle ++ back)) := by
  have first := cut?_between front (oldMiddle ++ back)
  have second := cut?_between (front ++ oldMiddle) back
  rw [← List.append_assoc] at first
  rw [byteLength_append] at second
  have ordered : (guard (byteLength front ≤ byteLength front + byteLength oldMiddle) : Option Unit) =
      some () := if_pos (Nat.le_add_right _ _)
  rw [applyTo?, String.toList_ofList, ordered, first, second, String.ofList_append,
    String.ofList_append]
  rfl

/-- An edit that changes something adds text, or removes some, or does both. -/
theorem kinds_middle {oldMiddle newMiddle : List Char} (front : List Char)
    (changed : ¬ (oldMiddle = [] ∧ newMiddle = [])) :
    let edit : Edit :=
      ⟨byteLength front, byteLength front + byteLength oldMiddle, String.ofList newMiddle⟩
    [edit.isInsertion, edit.isDeletion, edit.isReplacement].count true = 1 := by
  intro edit
  have adds : edit.text.isEmpty = decide (newMiddle = []) := by
    rw [Bool.eq_iff_iff, String.isEmpty_iff, String.ofList_eq_empty_iff, decide_eq_true_eq]
  have removes : edit.start = edit.stop ↔ oldMiddle = [] := by
    rw [← byteLength_eq_zero_iff]
    simp only [edit]
    omega
  have ordered : edit.start ≤ edit.stop := Nat.le_add_right _ _
  by_cases none : oldMiddle = []
  · have same := removes.mpr none
    have some : newMiddle ≠ [] := fun empty => changed ⟨none, empty⟩
    simp [isInsertion, isDeletion, isReplacement, adds, same, some]
  · have less : edit.start < edit.stop := Nat.lt_of_le_of_ne ordered (mt removes.mp none)
    by_cases empty : newMiddle = []
    · simp [isInsertion, isDeletion, isReplacement, adds, less, Nat.ne_of_lt less, empty]
    · simp [isInsertion, isDeletion, isReplacement, adds, less, Nat.ne_of_lt less, empty]

/-- **The scan finds the edit between two texts, whatever they are.** It never asks for a byte that is
not there, goes below zero or past the end, or cuts a character. It finds no edit exactly if the texts
are the same. Otherwise both ends of the edit are boundaries of the old text, and both ends of what it
puts in are boundaries of the new one; it leads from the old text to the new one, by either test; and
it is an insertion, a deletion or a replacement, and only one of these. -/
theorem scan_finds_edit (old new : String) :
    scan old new = .ok (between old new) ∧
    (between old new = none ↔ old = new) ∧
    ∀ edit, between old new = some edit →
      isBoundary old edit.start = true ∧ isBoundary old edit.stop = true ∧
      isBoundary new edit.start = true ∧
      isBoundary new (edit.start + edit.text.utf8ByteSize) = true ∧
      edit.applyTo? old = some new ∧ edit.transforms old new = true ∧
      [edit.isInsertion, edit.isDeletion, edit.isReplacement].count true = 1 := by
  refine ⟨scan_eq_between old new, ⟨eq_of_between_eq_none, ?_⟩, ?_⟩
  · rintro rfl
    have scanned := scan_eq_between old old
    rw [scan, if_pos rfl] at scanned
    exact (Except.ok.inj scanned).symm
  · intro edit found
    obtain ⟨front, oldMiddle, newMiddle, back, rfl, rfl, -, -, shape⟩ := between_parts old new
    rw [shape] at found
    split at found
    · cases found
    next changed =>
      cases found
      have oldStop := isBoundary_append (front ++ oldMiddle) back
      have newStop := isBoundary_append (front ++ newMiddle) back
      rw [byteLength_append] at oldStop newStop
      rw [utf8ByteSize_ofList]
      refine ⟨?_, oldStop, ?_, newStop, applyTo?_middle front oldMiddle newMiddle back,
        transforms_middle front oldMiddle newMiddle back, kinds_middle front changed⟩
      · rw [List.append_assoc]
        exact isBoundary_append front (oldMiddle ++ back)
      · rw [List.append_assoc]
        exact isBoundary_append front (newMiddle ++ back)

/-- Two characters are replaced. The first begins like the one in its place, and the second ends like
it, so both scans stop inside a character. -/
theorem half_shared_characters_replaced :
    scanForward (bytes "a€éb") (bytes "a₭ĩb") 7 0 = .ok 3 ∧
      scanBackward (bytes "a€éb") (bytes "a₭ĩb") 1 7 7 = .ok (5, 5) ∧
      scan "a€éb" "a₭ĩb" = .ok (some ⟨1, 6, "₭ĩ"⟩) ∧
      applyTo? ⟨1, 6, "₭ĩ"⟩ "a€éb" = some "a₭ĩb" ∧
      [isInsertion ⟨1, 6, "₭ĩ"⟩, isDeletion ⟨1, 6, "₭ĩ"⟩, isReplacement ⟨1, 6, "₭ĩ"⟩].count true =
        1 := by
  obtain ⟨scanned, -, edits⟩ := scan_finds_edit "a€éb" "a₭ĩb"
  have found : between "a€éb" "a₭ĩb" = some ⟨1, 6, "₭ĩ"⟩ := by decide
  obtain ⟨-, -, -, -, applied, -, kind⟩ := edits _ found
  rw [found] at scanned
  exact ⟨by rfl, by rfl, scanned, applied, kind⟩

end Edit

end SourceFacts

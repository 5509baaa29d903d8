import SourceFacts.Proofs.EditBetween

/-! Offsets and positions stand for each other. Every byte moves a position forward, to the next column
or to the next row, so no two offsets of a text have the same position, and a walk in search of a
position meets it only at its own offset. The positions that are met are those within a line of the
text or right at its end. -/
namespace SourceFacts.Position
open Text

/-! ## Reading moves forward -/

theorem lt_iff {first second : Position} :
    first < second ↔
      first.row < second.row ∨ first.row = second.row ∧ first.column < second.column :=
  Iff.rfl

theorem lt_trans {first second third : Position} (before : first < second)
    (behind : second < third) : first < third := by
  rw [lt_iff] at before behind ⊢
  omega

theorem ne_of_lt {first second : Position} (less : first < second) : first ≠ second := by
  rintro rfl
  rw [lt_iff] at less
  omega

theorem lt_step (here : Position) (byte : UInt8) : here < here.step byte := by
  rw [step, lt_iff]
  split
  · exact .inl (Nat.lt_succ_self _)
  · exact .inr ⟨rfl, Nat.lt_succ_self _⟩

theorem lt_foldl (here : Position) {bytes : List UInt8} (some : bytes ≠ []) :
    here < bytes.foldl step here := by
  induction bytes generalizing here with
  | nil => exact absurd rfl some
  | cons byte rest ih =>
    by_cases last : rest = []
    · rw [last]
      exact lt_step here byte
    · exact lt_trans (lt_step here byte) (ih (here.step byte) last)

theorem extent_lt {front longer : List UInt8} (begins : front <+: longer)
    (shorter : front.length < longer.length) : extent front < extent longer := by
  obtain ⟨more, rfl⟩ := begins
  rw [extent, extent, List.foldl_append]
  apply lt_foldl
  rintro rfl
  simp at shorter

theorem ofOffset_lt {text : String} {offset later : Nat} (less : offset < later)
    (within : later ≤ text.utf8ByteSize) : ofOffset text offset < ofOffset text later := by
  apply extent_lt (List.take_prefix_take_left (Nat.le_of_lt less))
  rw [List.length_take, List.length_take, length_bytes]
  omega

theorem ofOffset_past {text : String} {offset : Nat} (past : text.utf8ByteSize ≤ offset) :
    ofOffset text offset = ofOffset text text.utf8ByteSize := by
  rw [← length_bytes] at past ⊢
  rw [ofOffset, ofOffset, List.take_of_length_le past, List.take_length]

/-! ## The start of a row -/

/-- The row found by its start is the row of the position, and the start is as far back as the column
counts. -/
theorem rowReached_foldl (bytes : List UInt8) (row : Nat) {place start column : Nat}
    (begins : start + column = place) :
    (rowReached bytes place row start).1 = (bytes.foldl step ⟨row, column⟩).row ∧
      (rowReached bytes place row start).2 + (bytes.foldl step ⟨row, column⟩).column =
        place + bytes.length := by
  induction bytes generalizing place row start column with
  | nil => exact ⟨rfl, begins⟩
  | cons byte rest ih =>
    rw [rowReached, List.foldl_cons, step, List.length_cons, Nat.add_comm rest.length,
      ← Nat.add_assoc]
    split
    · exact ih (row + 1) (Nat.add_zero _)
    · exact ih row (by rw [← begins, Nat.add_assoc])

theorem ofRowStart_eq (text : String) (offset : Nat) :
    ofRowStart text offset = ofOffset text offset := by
  have taken : (bytes text).take (min offset (bytes text).length) = (bytes text).take offset := by
    rw [← List.take_take, List.take_length]
  obtain ⟨row, start⟩ := rowReached_foldl ((bytes text).take offset) 0 (Nat.add_zero 0)
  rw [Nat.zero_add, List.length_take] at start
  rw [ofRowStart, taken, row, ← start, Nat.add_sub_cancel_left]
  rfl

/-! ## Searching -/

/-- A walk that starts before the position and meets it stops there. -/
theorem seek_reached (front rest : List UInt8) (here : Position) :
    seek (front.foldl step here) here (front ++ rest) = front.length := by
  induction front generalizing here with
  | nil =>
    cases rest with
    | nil => rfl
    | cons byte rest => exact if_pos rfl
  | cons byte front ih =>
    have ahead : here ≠ (byte :: front).foldl step here :=
      ne_of_lt (lt_foldl here (List.cons_ne_nil byte front))
    rw [List.cons_append, seek, if_neg ahead, List.foldl_cons, ih, List.length_cons]

theorem seek_missed {target here : Position} {bytes : List UInt8}
    (missed : ∀ front, front <+: bytes → front.foldl step here ≠ target) :
    seek target here bytes = bytes.length := by
  induction bytes generalizing here with
  | nil => rfl
  | cons byte rest ih =>
    have later : ∀ front, front <+: rest → front.foldl step (here.step byte) ≠ target := by
      intro front begins
      exact missed (byte :: front) (List.cons_prefix_cons.mpr ⟨rfl, begins⟩)
    have notHere : here ≠ target := missed [] List.nil_prefix
    rw [seek, if_neg notHere, ih later, List.length_cons]

theorem toOffset_ofOffset (text : String) (offset : Nat) :
    toOffset text (ofOffset text offset) = min offset text.utf8ByteSize := by
  have found := seek_reached ((bytes text).take offset) ((bytes text).drop offset) origin
  rw [List.take_append_drop, List.length_take] at found
  exact found

theorem toOffset_missed {text : String} {position : Position}
    (missed : ∀ offset, ofOffset text offset ≠ position) :
    toOffset text position = text.utf8ByteSize := by
  apply seek_missed
  intro front begins
  rw [List.prefix_iff_eq_take.mp begins]
  exact missed front.length

/-! ## Lines -/

theorem advance_step (position extent : Position) (byte : UInt8) :
    (advance position extent).step byte = advance position (extent.step byte) := by
  by_cases ends : byte = newline
  · by_cases first : extent.row = 0
    · simp [advance, step, ends, first]
    · simp [advance, step, ends, first, Nat.add_assoc]
  · by_cases first : extent.row = 0
    · simp [advance, step, ends, first, Nat.add_assoc]
    · simp [advance, step, ends, first]

theorem foldl_advance (position extent : Position) (bytes : List UInt8) :
    bytes.foldl step (advance position extent) = advance position (bytes.foldl step extent) := by
  induction bytes generalizing extent with
  | nil => rfl
  | cons byte rest ih => rw [List.foldl_cons, List.foldl_cons, advance_step, ih]

/-- Bytes read from a position on advance it by their extent. -/
theorem foldl_step (position : Position) (bytes : List UInt8) :
    bytes.foldl step position = advance position (extent bytes) :=
  foldl_advance position origin bytes

/-- The position stands within one of the lines, or at its end. -/
def Within (lines : List (List UInt8)) (position : Position) : Prop :=
  ∃ line, lines[position.row]? = some line ∧ position.column ≤ line.length

theorem not_within_iff {lines : List (List UInt8)} {position : Position} :
    ¬ Within lines position ↔
      lines.length ≤ position.row ∨
        ∃ line, lines[position.row]? = some line ∧ line.length < position.column := by
  rw [Within, ← List.getElem?_eq_none_iff]
  cases row : lines[position.row]? with
  | none => simp
  | some line => simp

/-- The positions within lines of which the first is empty: its only one, and those one row further
down than those within the other lines. -/
theorem within_empty_first {lines : List (List UInt8)} {position : Position} :
    Within ([] :: lines) position ↔
      position = origin ∨ ∃ inner, Within lines inner ∧ advance ⟨1, 0⟩ inner = position := by
  have down : ∀ inner : Position, advance ⟨1, 0⟩ inner = ⟨inner.row + 1, inner.column⟩ := by
    intro inner
    by_cases first : inner.row = 0
    · simp [advance, first]
    · simp [advance, first, Nat.add_comm]
  constructor
  · rintro ⟨line, found, inLine⟩
    obtain ⟨row, column⟩ := position
    cases row with
    | zero =>
      cases found
      have first : column = 0 := Nat.le_zero.mp inLine
      rw [first]
      exact .inl rfl
    | succ row => exact .inr ⟨⟨row, column⟩, ⟨line, found, inLine⟩, down _⟩
  · rintro (rfl | ⟨inner, ⟨line, found, inLine⟩, rfl⟩)
    · exact ⟨[], rfl, Nat.le_refl 0⟩
    · rw [down]
      exact ⟨line, found, inLine⟩

/-- The positions within lines of which the first has one more byte: the first of all, and those one
column further on in this line, or in other lines where they were. -/
theorem within_longer_first {byte : UInt8} {line : List UInt8} {lines : List (List UInt8)}
    {position : Position} :
    Within ((byte :: line) :: lines) position ↔
      position = origin ∨ ∃ inner, Within (line :: lines) inner ∧ advance ⟨0, 1⟩ inner = position := by
  have along : ∀ column, advance ⟨0, 1⟩ ⟨0, column⟩ = ⟨0, column + 1⟩ := by
    intro column
    simp [advance, Nat.add_comm]
  have aside : ∀ row column, advance ⟨0, 1⟩ ⟨row + 1, column⟩ = ⟨row + 1, column⟩ := by
    intro row column
    simp [advance]
  constructor
  · rintro ⟨other, found, inLine⟩
    obtain ⟨row, column⟩ := position
    cases row with
    | zero =>
      cases found
      cases column with
      | zero => exact .inl rfl
      | succ column => exact .inr ⟨⟨0, column⟩, ⟨line, rfl, Nat.le_of_succ_le_succ inLine⟩, along column⟩
    | succ row => exact .inr ⟨⟨row + 1, column⟩, ⟨other, found, inLine⟩, aside row column⟩
  · rintro (rfl | ⟨⟨row, column⟩, ⟨other, found, inLine⟩, rfl⟩)
    · exact ⟨byte :: line, rfl, Nat.zero_le _⟩
    · cases row with
      | zero =>
        cases found
        rw [along]
        exact ⟨byte :: line, rfl, Nat.succ_le_succ inLine⟩
      | succ row =>
        rw [aside]
        exact ⟨other, found, inLine⟩

/-- The bytes read reach exactly the positions within their lines. -/
theorem reached_iff {bytes : List UInt8} {position : Position} :
    (∃ front, front <+: bytes ∧ extent front = position) ↔
      Within (bytes.splitOn newline) position := by
  induction bytes generalizing position with
  | nil =>
    have split : ([] : List UInt8).splitOn newline = [[]] := rfl
    rw [split, within_empty_first]
    constructor
    · rintro ⟨front, begins, rfl⟩
      rw [List.prefix_nil.mp begins]
      exact .inl rfl
    · rintro (rfl | ⟨inner, ⟨line, found, -⟩, -⟩)
      · exact ⟨[], List.prefix_rfl, rfl⟩
      · cases found
  | cons byte rest ih =>
    have moved : (∃ front, front <+: byte :: rest ∧ extent front = position) ↔
        position = origin ∨
          ∃ inner, Within (rest.splitOn newline) inner ∧
            advance (origin.step byte) inner = position := by
      constructor
      · rintro ⟨front, begins, rfl⟩
        rcases List.prefix_cons_iff.mp begins with rfl | ⟨later, rfl, inRest⟩
        · exact .inl rfl
        · exact .inr ⟨extent later, ih.mp ⟨later, inRest, rfl⟩, (foldl_step _ later).symm⟩
      · rintro (rfl | ⟨inner, within, rfl⟩)
        · exact ⟨[], List.nil_prefix, rfl⟩
        · obtain ⟨later, inRest, rfl⟩ := ih.mpr within
          exact ⟨byte :: later, List.cons_prefix_cons.mpr ⟨rfl, inRest⟩, foldl_step _ later⟩
    rw [moved]
    by_cases ends : byte = newline
    · have split : (byte :: rest).splitOn newline = [] :: rest.splitOn newline := by
        simp [List.splitOn, List.splitOnP_cons_eq_if_modifyHead, ends]
      rw [split, within_empty_first, ends]
      exact Iff.rfl
    · obtain ⟨line, lines, restLines⟩ : ∃ line lines, rest.splitOn newline = line :: lines :=
        List.exists_cons_of_ne_nil (List.splitOnP_ne_nil _ rest)
      have split : (byte :: rest).splitOn newline = (byte :: line) :: lines := by
        rw [List.splitOn] at restLines ⊢
        simp [List.splitOnP_cons_eq_if_modifyHead, ends, restLines]
      have beside : origin.step byte = ⟨0, 1⟩ := if_neg ends
      rw [split, within_longer_first, restLines, beside]

theorem exists_offset_iff {text : String} {position : Position} :
    (∃ offset, ofOffset text offset = position) ↔
      Within ((bytes text).splitOn newline) position := by
  rw [← reached_iff]
  constructor
  · rintro ⟨offset, rfl⟩
    exact ⟨(bytes text).take offset, List.take_prefix _ _, rfl⟩
  · rintro ⟨front, begins, rfl⟩
    refine ⟨front.length, ?_⟩
    rw [ofOffset, ← List.prefix_iff_eq_take.mp begins]

/-! ## There and back -/

/-- **Offsets and positions stand for each other, in order.** Either way of finding the position of an
offset gives the same. From the start of a text to its end, every later offset has a later position,
and past the end there is no other than that of the end. To go from an offset to its position and back
leads to the offset, or to the end for one past it. Back from any position leads to the one offset of
the text that has this position; a position that none has leads to the end, and these are the positions
below the last line and those past the end of their line. -/
theorem positions_follow_offsets (text : String) :
    (∀ offset, ofRowStart text offset = ofOffset text offset) ∧
    (∀ offset later, offset < later → later ≤ text.utf8ByteSize →
      ofOffset text offset < ofOffset text later) ∧
    (∀ offset, text.utf8ByteSize ≤ offset →
      ofOffset text offset = ofOffset text text.utf8ByteSize) ∧
    (∀ offset, toOffset text (ofOffset text offset) = min offset text.utf8ByteSize) ∧
    (∀ position,
      (∀ offset, offset ≤ text.utf8ByteSize → ofOffset text offset = position →
        toOffset text position = offset) ∧
      ((∀ offset, ofOffset text offset ≠ position) → toOffset text position = text.utf8ByteSize) ∧
      ((∀ offset, ofOffset text offset ≠ position) ↔
        ((bytes text).splitOn newline).length ≤ position.row ∨
          ∃ line, ((bytes text).splitOn newline)[position.row]? = some line ∧
            line.length < position.column)) := by
  refine ⟨ofRowStart_eq text, ?_, ?_, toOffset_ofOffset text, ?_⟩
  · intro offset later less within
    exact ofOffset_lt less within
  · intro offset past
    exact ofOffset_past past
  · intro position
    refine ⟨?_, toOffset_missed, ?_⟩
    · rintro offset within rfl
      rw [toOffset_ofOffset, Nat.min_eq_left within]
    · rw [← not_within_iff, ← exists_offset_iff, not_exists]

/-- A text with an empty line and an empty end. The byte that ends a line is the last of this line, one
column further is nowhere, and the end of the text has a row of its own. -/
theorem empty_lines_have_positions :
    ofOffset "é\n\nb\n" 2 = ⟨0, 2⟩ ∧ ofOffset "é\n\nb\n" 3 = ⟨1, 0⟩ ∧
      ofOffset "é\n\nb\n" 2 < ofOffset "é\n\nb\n" 3 ∧
      ofOffset "é\n\nb\n" 9 = ⟨3, 0⟩ ∧
      toOffset "é\n\nb\n" ⟨3, 0⟩ = 6 ∧ toOffset "é\n\nb\n" ⟨1, 0⟩ = 3 ∧
      toOffset "é\n\nb\n" ⟨1, 1⟩ = 6 ∧ toOffset "é\n\nb\n" ⟨4, 0⟩ = 6 := by
  obtain ⟨-, increasing, past, -, positions⟩ := positions_follow_offsets "é\n\nb\n"
  have first : ofOffset "é\n\nb\n" 2 = ⟨0, 2⟩ := by decide
  have second : ofOffset "é\n\nb\n" 3 = ⟨1, 0⟩ := by decide
  have last : ofOffset "é\n\nb\n" 6 = ⟨3, 0⟩ := by decide
  have aside := (positions ⟨1, 1⟩).2.2.mpr (.inr ⟨[], by decide, by decide⟩)
  have below := (positions ⟨4, 0⟩).2.2.mpr (.inl (by decide))
  exact ⟨first, second, increasing 2 3 (by decide) (by decide), (past 9 (by decide)).trans last,
    (positions ⟨3, 0⟩).1 6 (by decide) last, (positions ⟨1, 0⟩).1 3 (by decide) second,
    (positions ⟨1, 1⟩).2.1 aside, (positions ⟨4, 0⟩).2.1 below⟩

end SourceFacts.Position

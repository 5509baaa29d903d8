import Mathlib.Data.List.DropRight
import SourceFacts.Edit.Survey
import SourceFacts.Proofs.EditApplication
import SourceFacts.Proofs.PositionOrder
import SourceFacts.Proofs.Reading

/-! The rows and columns of an edit fit both of its texts. A position is the extent of the bytes before
it, and the extent of two runs of bytes is that of the first, advanced by that of the second. An edit
leaves the bytes before it and behind it as they are, so its three positions tell where every byte
behind it has gone, whether it adds lines, takes some away or begins inside a character. -/
namespace SourceFacts

/-- The bytes of a text between two places. -/
def Text.bytesBetween (text : String) (start stop : Nat) : List UInt8 :=
  ((bytes text).take stop).drop start

namespace Position
open Text

/-! ## Runs of bytes -/

/-- A run reaches as many rows down as it ends lines, and as many columns as there are bytes behind the
last end of a line. -/
theorem extent_eq (bytes : List UInt8) :
    extent bytes = ⟨bytes.count newline, (bytes.rtakeWhile (· ≠ newline)).length⟩ := by
  induction bytes using List.reverseRecOn with
  | nil => rfl
  | append_singleton bytes byte ih =>
    have last : extent (bytes ++ [byte]) = (extent bytes).step byte := by
      rw [extent, List.foldl_append]
      rfl
    rw [last, ih, step]
    by_cases ends : byte = newline
    · simp [ends]
    · simp [ends, List.rtakeWhile_concat_pos]

theorem extent_append (front back : List UInt8) :
    extent (front ++ back) = advance (extent front) (extent back) := by
  rw [extent, List.foldl_append, foldl_step]
  rfl

/-- A later position is an earlier one, advanced by what stands between them. -/
theorem ofOffset_advance (text : String) {start stop : Nat} (ordered : start ≤ stop) :
    ofOffset text stop = advance (ofOffset text start) (extent (bytesBetween text start stop)) := by
  have front : ((bytes text).take stop).take start = (bytes text).take start := by
    rw [List.take_take, Nat.min_eq_left ordered]
  rw [ofOffset, ofOffset, bytesBetween, ← extent_append, ← front, List.take_append_drop]

/-! ## Numbers of one word -/

theorem rowInWords_eq {limit : Nat} (bytes : List UInt8) {place row : Nat} (start : Nat)
    (behind : row ≤ place) (fits : place + bytes.length < limit) :
    rowInWords limit bytes place row start = .ok (rowReached bytes place row start) := by
  induction bytes generalizing place row start with
  | nil => rfl
  | cons byte rest ih =>
    rw [List.length_cons] at fits
    have next : Word.plus limit place 1 = .ok (place + 1) := if_pos (by omega)
    have below : Word.plus limit row 1 = .ok (row + 1) := if_pos (by omega)
    simp only [rowInWords, rowReached, next, below, bind, Except.bind]
    split
    · exact ih (place + 1) (by omega) (by omega)
    · exact ih start (by omega) (by omega)

/-- In a text shorter than the limit no row, place or column reaches it, and no row starts behind the
offset. -/
theorem inWords_eq {limit : Nat} {text : String} (fits : text.utf8ByteSize < limit) (offset : Nat) :
    inWords limit text offset = .ok (ofOffset text offset) := by
  rw [← ofRowStart_eq, ofRowStart]
  obtain ⟨place, named⟩ : ∃ place, place = min offset (bytes text).length := ⟨_, rfl⟩
  have length : ((bytes text).take place).length = place := by
    rw [List.length_take]
    omega
  obtain ⟨-, start⟩ := rowReached_foldl ((bytes text).take place) 0 (Nat.add_zero 0)
  rw [Nat.zero_add, length] at start
  have reached : rowInWords limit ((bytes text).take place) 0 0 0 =
      .ok (rowReached ((bytes text).take place) 0 0 0) := by
    apply rowInWords_eq _ 0 (Nat.le_refl 0)
    rw [length_bytes] at named
    omega
  have column : Word.minus place (rowReached ((bytes text).take place) 0 0 0).2 =
      .ok (place - (rowReached ((bytes text).take place) 0 0 0).2) :=
    if_pos (by omega)
  simp only [inWords, ← named, reached, column, bind, Except.bind, pure, Except.pure]

end Position

namespace Edit
open Text Position

variable {edit : Edit} {old new : String}

/-! ## An edit in both texts -/

/-- The span tells where an edit stands in both of its texts. It starts at one position in both, ends in
the old one behind what is taken away and in the new one behind what is put there, and what stands
behind it in the old text stands as far behind it in the new one. -/
structure Fits (edit : Edit) (old new : String) (span : EditSpan) : Prop where
  places : span.start = edit.start ∧ span.oldStop = edit.stop ∧
    span.newStop = edit.start + edit.text.utf8ByteSize
  startOld : span.startAt = ofOffset old span.start
  startNew : span.startAt = ofOffset new span.start
  removed : span.oldStopAt = span.startAt.advance (extent (bytesBetween old span.start span.oldStop))
  added : span.newStopAt = span.startAt.advance (extent (bytes edit.text))
  behind : ∀ offset, span.oldStop ≤ offset → offset ≤ old.utf8ByteSize →
    ofOffset old offset =
        span.oldStopAt.advance (extent (bytesBetween old span.oldStop offset)) ∧
      ofOffset new (offset - span.oldStop + span.newStop) =
        span.newStopAt.advance (extent (bytesBetween old span.oldStop offset))

/-- The new text is made of what stands before the edit, its text and what stands behind it. -/
theorem take_of_transforms (passed : edit.transforms old new = true) :
    (bytes new).take edit.start = (bytes old).take edit.start ∧
      (bytes new).take (edit.start + edit.text.utf8ByteSize) =
        (bytes old).take edit.start ++ bytes edit.text ∧
      ∀ more, (bytes new).take (edit.start + edit.text.utf8ByteSize + more) =
        (bytes old).take edit.start ++ bytes edit.text ++ ((bytes old).drop edit.stop).take more := by
  obtain ⟨ordered, within, shape⟩ := transforms_iff.mp passed
  have front : ((bytes old).take edit.start).length = edit.start := by
    rw [List.length_take]
    omega
  have both : ((bytes old).take edit.start ++ bytes edit.text).length =
      edit.start + edit.text.utf8ByteSize := by
    rw [List.length_append, front, length_bytes]
  refine ⟨?_, ?_, ?_⟩
  · rw [shape, List.append_assoc, List.take_left' front]
  · rw [shape, List.take_left' both]
  · intro more
    rw [shape, ← both, List.take_length_add_append]

theorem locate_fits (passed : edit.transforms old new = true) :
    edit.Fits old new (edit.locate old new) := by
  obtain ⟨front, both, longer⟩ := take_of_transforms passed
  have newStopAt : ofOffset new (edit.start + edit.text.utf8ByteSize) =
      extent ((bytes old).take edit.start ++ bytes edit.text) := by
    rw [ofOffset, both]
  refine ⟨⟨rfl, rfl, rfl⟩, rfl, ?_, ofOffset_advance old (transforms_iff.mp passed).1, ?_, ?_⟩
  · exact congrArg extent front.symm
  · exact newStopAt.trans (extent_append _ _)
  · intro offset behind _
    refine ⟨ofOffset_advance old behind, ?_⟩
    change ofOffset new (offset - edit.stop + (edit.start + edit.text.utf8ByteSize)) =
      (ofOffset new (edit.start + edit.text.utf8ByteSize)).advance
        (extent (bytesBetween old edit.stop offset))
    rw [newStopAt, ← extent_append, ofOffset, Nat.add_comm, longer, bytesBetween, List.drop_take]

/-- The new end lies within the new text, so the only sum that could be too large for a word is not. -/
theorem survey_eq {limit : Nat} (passed : edit.transforms old new = true)
    (oldFits : old.utf8ByteSize < limit) (newFits : new.utf8ByteSize < limit) :
    edit.survey limit old new = .ok (edit.locate old new) := by
  obtain ⟨ordered, within, -⟩ := transforms_iff.mp passed
  have sizes := size_of_transforms passed
  have newStop : Word.plus limit edit.start edit.text.utf8ByteSize =
      .ok (edit.start + edit.text.utf8ByteSize) :=
    if_pos (by rw [length_bytes] at within; omega)
  simp only [survey, newStop, inWords_eq oldFits, inWords_eq newFits, bind, Except.bind, pure,
    Except.pure, locate]

/-- **The rows and columns of an edit fit both texts**, for every edit that leads from the one text to
the other. They are worked out without a number too large for a word, on every machine that can hold the
two texts, and without one below zero. The edit starts at the same position in both texts. Its old end
is that position advanced by the extent of what is taken away, and its new end the same position
advanced by the extent of what is put there. Every place behind the edit is reached from either end by
the same extent. An extent counts the ends of lines and the bytes behind the last of them; to advance by
it adds to the column within a row, and across rows adds to the row and sets the column. This holds of
every edit that a coordinator hands to a parser, after whatever requests it had before: it leads from
the content that is kept for the path to the new one. -/
theorem positions_fit_both_texts {τ : Type} :
    (∀ (edit : Edit) (old new : String), edit.transforms old new = true →
      edit.Fits old new (edit.locate old new) ∧
        ∀ limit, old.utf8ByteSize < limit → new.utf8ByteSize < limit →
          edit.survey limit old new = .ok (edit.locate old new)) ∧
    (∀ bytes, extent bytes = ⟨bytes.count newline, (bytes.rtakeWhile (· ≠ newline)).length⟩) ∧
    (∀ (position : Position) (rows columns : Nat),
      position.advance ⟨0, columns⟩ = ⟨position.row, position.column + columns⟩ ∧
        position.advance ⟨rows + 1, columns⟩ = ⟨position.row + (rows + 1), columns⟩) ∧
    (∀ (digestOf : String → Digest) (options : CoordinatorOptions)
        (past : List (Coordinator.Turn τ)) (turn : Coordinator.Turn τ) (path content : String)
        (outcome : Except Error Outcome) (previous : Option τ) (span : EditSpan),
      turn.request.target? = some (path, content) →
      ((Coordinator.after digestOf options past).take digestOf turn).1 =
        .read outcome (.incremental previous span) →
      ∃ (old : String) (edit : Edit),
        (Coordinator.after digestOf options past).content? path = some old ∧
          edit.transforms old content = true ∧ span = edit.locate old content ∧
          edit.Fits old content span) := by
  refine ⟨?_, extent_eq, ?_, ?_⟩
  · intro edit old new passed
    exact ⟨locate_fits passed, fun limit oldFits newFits => survey_eq passed oldFits newFits⟩
  · intro position rows columns
    exact ⟨if_pos rfl, if_neg (Nat.succ_ne_zero rows)⟩
  · intro digestOf options past turn path content outcome previous span target response
    have agrees := Coordinator.after_agrees digestOf options past
    obtain ⟨plan, answered, carries, traces, taken, -⟩ := Coordinator.take_reads agrees turn target
    rw [taken] at response
    obtain ⟨-, call⟩ := Coordinator.Response.read.inj response
    rw [← carries.call, call] at traces
    obtain ⟨kept, edit, found, leads, -, rfl⟩ := traces
    obtain ⟨on, held⟩ := Coordinator.remembered?_eq_some.mp found
    refine ⟨kept.content, edit, ?_, leads, rfl, locate_fits leads⟩
    rw [agrees.content?_eq, if_pos on, held]
    rfl

/-- An edit that takes the end of a line and half of a character on either side of it. The halves that
are left make one character, whose last byte has moved to the row above, behind the same column. A
coordinator that is told of this edit hands out the same span. -/
theorem line_end_between_halves_removed :
    let parser : Parser String :=
      ⟨fun content _ => .ok ⟨.empty, some content⟩, fun content _ _ _ => .ok ⟨.empty, some content⟩⟩
    let past : List (Coordinator.Turn String) := [⟨fun _ => parser, .parse "a" "é\nè"⟩]
    let edit : Edit := ⟨1, 4, ""⟩
    edit.transforms "é\nè" "è" = true ∧
      edit.survey (Nat.pow 2 64) "é\nè" "è" = .ok ⟨1, 4, 1, ⟨0, 1⟩, ⟨1, 1⟩, ⟨0, 1⟩⟩ ∧
      ofOffset "é\nè" 5 = Position.advance ⟨1, 1⟩ ⟨0, 1⟩ ∧
      ofOffset "è" 2 = Position.advance ⟨0, 1⟩ ⟨0, 1⟩ ∧
      ∃ old told, (Coordinator.after Digest.ofText ⟨1, true⟩ past).content? "a" = some old ∧
        Edit.transforms told old "è" = true ∧ edit.locate "é\nè" "è" = told.locate old "è" := by
  intro parser past edit
  obtain ⟨fits, -, -, handed⟩ := positions_fit_both_texts (τ := String)
  have passed : edit.transforms "é\nè" "è" = true := by decide
  have located : edit.locate "é\nè" "è" = ⟨1, 4, 1, ⟨0, 1⟩, ⟨1, 1⟩, ⟨0, 1⟩⟩ := by decide
  obtain ⟨span, words⟩ := fits edit "é\nè" "è" passed
  obtain ⟨oldBehind, newBehind⟩ := span.behind 5 (by decide) (by decide)
  have response : ((Coordinator.after Digest.ofText ⟨1, true⟩ past).take Digest.ofText
      ⟨fun _ => parser, .parseWithEdit "a" "è" edit⟩).1 =
        .read (.ok ⟨.empty, .incremental⟩)
          (.incremental (some "é\nè") (edit.locate "é\nè" "è")) := rfl
  obtain ⟨old, told, kept, leads, same, -⟩ :=
    handed Digest.ofText ⟨1, true⟩ past _ "a" "è" _ _ _ rfl response
  rw [located] at oldBehind newBehind
  refine ⟨passed, ?_, oldBehind, newBehind, old, told, kept, leads, same⟩
  rw [words (Nat.pow 2 64) (by decide) (by decide), located]

end Edit

end SourceFacts

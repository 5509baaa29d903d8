import SourceFacts.Proofs.JsonScalars

/-! Written values read back. What a text stands for is said by a relation between values and texts, with
quoted texts and numbers at its leaves. The reader reads every text as the value it stands for, with
blanks wherever they may be, and both printers write texts that stand for the value they print. Whether
the text of a floating number reads back as that number is left open. -/
namespace SourceFacts.Json

open Reader

/-! ## Lists of items -/

/-- Texts with commas between them. -/
def commas : List (List Char) → List Char
  | [] => []
  | first :: rest => first ++ rest.flatMap (',' :: ·)

/-- A mark that closes a list: it ends a value, and is neither a comma nor a blank. -/
structure Closes (closing : Char) : Prop where
  ends : closing ∈ endMarks
  noComma : ',' ≠ closing
  solid : isBlank closing = false

section

variable {α : Type} {closing : Char} {item : Reader α} {parts : List (α × List Char)}
  {blanks : List Char}

/-- The texts behind the first one, each with a comma in front. -/
def behindFirst (parts : List (α × List Char)) : List Char :=
  (parts.map Prod.snd).flatMap (',' :: ·)

theorem skipBlanks_closing (closes : Closes closing) (blank : AllBlank blanks) (rest : List Char) :
    skipBlanks (blanks ++ closing :: rest) = closing :: rest := by
  rw [skipBlanks_append blank, skipBlanks_cons closes.solid]

theorem ends_behindFirst (closes : Closes closing) (blank : AllBlank blanks)
    (parts : List (α × List Char)) (rest : List Char) :
    Ends (behindFirst parts ++ (blanks ++ closing :: rest)) := by
  cases parts with
  | cons part parts => exact .cons (by decide) _
  | nil =>
    cases blanks with
    | nil => exact .cons closes.ends rest
    | cons c blanks =>
      have mark := blank c List.mem_cons_self
      simp only [isBlank, Bool.or_eq_true, decide_eq_true_eq] at mark
      refine .cons ?_ _
      rcases mark with ((rfl | rfl) | rfl) | rfl <;> decide

theorem sequence_started (closes : Closes closing) (blank : AllBlank blanks)
    (reads : ∀ part ∈ parts, ∀ rest, Ends rest → item (part.2 ++ rest) = some (part.1, rest))
    {fuel : Nat} (enough : parts.length < fuel) (rest : List Char) :
    Reader.sequence closing item fuel true (behindFirst parts ++ (blanks ++ closing :: rest)) =
      some (parts.map Prod.fst, rest) := by
  induction parts generalizing fuel with
  | nil =>
    obtain ⟨fuel, rfl⟩ := Nat.exists_eq_succ_of_ne_zero (Nat.ne_of_gt enough)
    simp [Reader.sequence, behindFirst, skipBlanks_closing closes blank]
  | cons part parts ih =>
    obtain ⟨fuel, rfl⟩ := Nat.exists_eq_succ_of_ne_zero (Nat.ne_of_gt (Nat.zero_lt_of_lt enough))
    rw [List.forall_mem_cons] at reads
    have first := reads.1 _ (ends_behindFirst closes blank parts rest)
    have others := ih reads.2 (Nat.lt_of_succ_lt_succ enough)
    have comma : skipBlanks (behindFirst (part :: parts) ++ (blanks ++ closing :: rest)) =
        ',' :: (part.2 ++ (behindFirst parts ++ (blanks ++ closing :: rest))) := by
      simp [behindFirst, skipBlanks_cons (show isBlank ',' = false from rfl)]
    simp [Reader.sequence, comma, closes.noComma, first, others]

/-- A list is read whose items are read, if blanks in front of an item do not matter and the closing mark
starts none. -/
theorem sequence_reads (closes : Closes closing) (blank : AllBlank blanks)
    (itemBlanks : ∀ chars, item (skipBlanks chars) = item chars)
    (noItem : ∀ rest, item (closing :: rest) = none) (empty : item [] = none)
    (reads : ∀ part ∈ parts, ∀ rest, Ends rest → item (part.2 ++ rest) = some (part.1, rest))
    {fuel : Nat} (enough : parts.length < fuel) (rest : List Char) :
    Reader.sequence closing item fuel false
        (commas (parts.map Prod.snd) ++ (blanks ++ closing :: rest)) =
      some (parts.map Prod.fst, rest) := by
  cases parts with
  | nil =>
    obtain ⟨fuel, rfl⟩ := Nat.exists_eq_succ_of_ne_zero (Nat.ne_of_gt enough)
    simp [Reader.sequence, commas, skipBlanks_closing closes blank]
  | cons part parts =>
    obtain ⟨fuel, rfl⟩ := Nat.exists_eq_succ_of_ne_zero (Nat.ne_of_gt (Nat.zero_lt_of_lt enough))
    rw [List.forall_mem_cons] at reads
    have first := reads.1 _ (ends_behindFirst closes blank parts rest)
    have others := sequence_started closes blank reads.2 (Nat.lt_of_succ_lt_succ enough) rest
    have text : commas ((part :: parts).map Prod.snd) ++ (blanks ++ closing :: rest) =
        part.2 ++ (behindFirst parts ++ (blanks ++ closing :: rest)) := by
      simp [commas, behindFirst]
    rw [text]
    rw [← itemBlanks] at first
    cases solid : skipBlanks (part.2 ++ (behindFirst parts ++ (blanks ++ closing :: rest))) with
    | nil =>
      rw [solid, empty] at first
      cases first
    | cons c behind =>
      rw [solid] at first
      have other : c ≠ closing := by
        rintro rfl
        rw [noItem] at first
        cases first
      simp [Reader.sequence, solid, other, first, others]

end

/-! ## Values -/

/-- The text of a field: blanks, its name in quotes, a colon and the text of its value. -/
structure SpelledField where
  blanks : List Char
  name : String
  value : Json
  text : List Char

def SpelledField.chars (field : SpelledField) : List Char :=
  field.blanks ++ (quote field.name).toList ++ ':' :: field.text

def SpelledField.entry (field : SpelledField) : String × Json := (field.name, field.value)

/-- A text stands for a value. Blanks may stand in front of every value and of every name, and in front
of every closing bracket. -/
inductive Spells : Json → List Char → Prop where
  | blank {json : Json} {c : Char} {chars : List Char} (blank : isBlank c = true)
    (spells : Spells json chars) : Spells json (c :: chars)
  | null : Spells .null "null".toList
  | true : Spells (.bool true) "true".toList
  | false : Spells (.bool false) "false".toList
  | number {json : Json} {chars : List Char} (reads : number chars = some (json, [])) : Spells json chars
  | string (text : String) : Spells (.string text) (quote text).toList
  | array (items : List (Json × List Char)) {blanks : List Char} (blank : AllBlank blanks)
    (each : ∀ item ∈ items, Spells item.1 item.2) :
    Spells (.array (items.map Prod.fst)) ('[' :: (commas (items.map Prod.snd) ++ (blanks ++ [']'])))
  | object (fields : List SpelledField) {blanks : List Char} (blank : AllBlank blanks)
    (names : ∀ field ∈ fields, AllBlank field.blanks)
    (each : ∀ field ∈ fields, Spells field.value field.text) :
    Spells (.object (fields.map SpelledField.entry))
      ('\x7b' :: (commas (fields.map SpelledField.chars) ++ (blanks ++ ['\x7d'])))

theorem quote_append (text : String) (rest : List Char) :
    (quote text).toList ++ rest = '"' :: (text.toList.flatMap escape ++ '"' :: rest) := by
  simp [quote]

/-- What a number can start with. -/
def startsNumber (c : Char) : Bool := c = '-' || (digit? c).isSome

theorem number_first {chars left : List Char} {json : Json} (found : number chars = some (json, left)) :
    ∃ c rest, chars = c :: rest ∧ startsNumber c = true := by
  cases chars with
  | nil =>
    have unread : number [] = none := rfl
    rw [unread] at found
    cases found
  | cons c rest =>
    refine ⟨c, rest, rfl, ?_⟩
    by_cases negative : c = '-'
    · simp [startsNumber, negative]
    · cases digit : digit? c with
      | none =>
        have unsigned : minus (c :: rest) = (false, c :: rest) := by simp [minus, negative]
        have noDigits : someDigits (c :: rest) = none := by simp [someDigits, digits, digit]
        rw [number, unsigned] at found
        dsimp only at found
        rw [noDigits] at found
        cases found
      | some value => simp [startsNumber, digit]

theorem number_eq_none {c : Char} (other : startsNumber c = false) (rest : List Char) :
    number (c :: rest) = none := by
  cases found : number (c :: rest) with
  | none => rfl
  | some result =>
    obtain ⟨first, behind, same, starts⟩ := number_first found
    cases same
    rw [other] at starts
    cases starts

theorem isBlank_eq_false {c : Char} (starts : startsNumber c = true) : isBlank c = false := by
  apply Bool.eq_false_iff.mpr
  intro blank
  simp only [isBlank, Bool.or_eq_true, decide_eq_true_eq] at blank
  rcases blank with ((rfl | rfl) | rfl) | rfl <;> exact absurd starts (by decide)

/-- Where a number starts, a number is read. -/
theorem value_number {c : Char} (starts : startsNumber c = true) (fuel : Nat) (rest : List Char) :
    value (fuel + 1) (c :: rest) = number (c :: rest) := by
  have other : ∀ mark, startsNumber mark = false → c ≠ mark := by
    rintro mark noNumber rfl
    rw [starts] at noNumber
    cases noNumber
  simp [value, skipBlanks_cons (isBlank_eq_false starts), other 'n' rfl, other 't' rfl, other 'f' rfl,
    other '"' rfl, other '[' rfl, other '\x7b' rfl]

theorem value_close (fuel : Nat) (rest : List Char) : value fuel (']' :: rest) = none := by
  cases fuel with
  | zero => rfl
  | succ fuel => exact number_eq_none (show startsNumber ']' = false from rfl) rest

theorem value_nil (fuel : Nat) : value fuel [] = none := by
  cases fuel with
  | zero => rfl
  | succ fuel => rfl

theorem closes_bracket : Closes ']' := ⟨by decide, by decide, rfl⟩

theorem closes_brace : Closes '\x7d' := ⟨by decide, by decide, rfl⟩

theorem length_le_commas {texts : List (List Char)} {text : List Char} (member : text ∈ texts) :
    text.length ≤ (commas texts).length := by
  cases texts with
  | nil => cases member
  | cons first rest =>
    rw [commas, List.length_append]
    rcases List.mem_cons.mp member with rfl | later
    · exact Nat.le_add_right _ _
    · have inside : (',' :: text).Sublist (rest.flatMap (',' :: ·)) := by
        rw [List.flatMap_def]
        exact List.sublist_flatten_of_mem (List.mem_map_of_mem later)
      have length := inside.length_le
      rw [List.length_cons] at length
      omega

theorem count_le_commas (texts : List (List Char)) : texts.length ≤ (commas texts).length + 1 := by
  cases texts with
  | nil => exact Nat.zero_le _
  | cons first rest =>
    have count : rest.length ≤ (rest.flatMap (',' :: ·)).length := by
      induction rest with
      | nil => exact Nat.le_refl _
      | cons text rest ih =>
        rw [List.flatMap_cons, List.length_append, List.length_cons, List.length_cons]
        omega
    rw [commas, List.length_append, List.length_cons]
    omega

theorem field_chars {read : Reader Json} {field : SpelledField} (blank : AllBlank field.blanks)
    {rest : List Char} (reads : read (field.text ++ rest) = some (field.value, rest)) :
    Reader.field read (field.chars ++ rest) = some (field.entry, rest) := by
  have name : skipBlanks (field.chars ++ rest) =
      '"' :: (field.name.toList.flatMap escape ++ '"' :: ':' :: (field.text ++ rest)) := by
    rw [SpelledField.chars, List.append_assoc, List.append_assoc, skipBlanks_append blank, quote_append,
      skipBlanks_cons rfl]
    rfl
  have colon : skipBlanks (':' :: (field.text ++ rest)) = ':' :: (field.text ++ rest) :=
    skipBlanks_cons rfl _
  simp [Reader.field, name, quoted_flatMap, toText?, colon, reads, SpelledField.entry]

section

variable {fuel : Nat} {blanks : List Char} (blank : AllBlank blanks)
include blank

theorem value_array {items : List (Json × List Char)}
    (reads : ∀ item ∈ items, ∀ rest, Ends rest → value fuel (item.2 ++ rest) = some (item.1, rest))
    (enough : items.length ≤ fuel) (rest : List Char) :
    value (fuel + 1) ('[' :: (commas (items.map Prod.snd) ++ (blanks ++ [']'])) ++ rest) =
      some (.array (items.map Prod.fst), rest) := by
  have list := sequence_reads closes_bracket blank (value_skipBlanks fuel) (value_close fuel)
    (value_nil fuel) reads (Nat.lt_succ_of_le enough) rest
  have text : '[' :: (commas (items.map Prod.snd) ++ (blanks ++ [']'])) ++ rest =
      '[' :: (commas (items.map Prod.snd) ++ (blanks ++ ']' :: rest)) := by simp
  rw [text, value, skipBlanks_cons rfl]
  exact congrArg (Option.map _) list

theorem value_object {fields : List SpelledField} (names : ∀ field ∈ fields, AllBlank field.blanks)
    (reads : ∀ field ∈ fields, ∀ rest, Ends rest →
      value fuel (field.text ++ rest) = some (field.value, rest))
    (enough : fields.length ≤ fuel) (rest : List Char) :
    value (fuel + 1) ('\x7b' :: (commas (fields.map SpelledField.chars) ++ (blanks ++ ['\x7d'])) ++ rest) =
      some (.object (fields.map SpelledField.entry), rest) := by
  have parts : ∀ part ∈ fields.map fun field => (field.entry, field.chars), ∀ rest, Ends rest →
      Reader.field (value fuel) (part.2 ++ rest) = some (part.1, rest) := by
    intro part member rest ends
    obtain ⟨field, inFields, rfl⟩ := List.mem_map.mp member
    exact field_chars (names field inFields) (reads field inFields rest ends)
  have fewer : (fields.map fun field => (field.entry, field.chars)).length < fuel + 1 := by
    rw [List.length_map]
    exact Nat.lt_succ_of_le enough
  have list := sequence_reads closes_brace blank (field_skipBlanks _) (fun _ => rfl) rfl parts fewer rest
  rw [List.map_map, List.map_map] at list
  have text : '\x7b' :: (commas (fields.map SpelledField.chars) ++ (blanks ++ ['\x7d'])) ++ rest =
      '\x7b' :: (commas (fields.map SpelledField.chars) ++ (blanks ++ '\x7d' :: rest)) := by simp
  rw [text, value, skipBlanks_cons rfl]
  exact congrArg (Option.map _) list

end

/-- The reader reads a text as the value it stands for, and leaves what follows. -/
theorem Spells.read {json : Json} {chars : List Char} (spells : Spells json chars) {fuel : Nat}
    (enough : chars.length ≤ fuel) {rest : List Char} (ends : Ends rest) :
    value (fuel + 1) (chars ++ rest) = some (json, rest) := by
  induction spells generalizing fuel rest with
  | @blank json c chars blank _ ih =>
    have skipped : skipBlanks (c :: chars ++ rest) = skipBlanks (chars ++ rest) :=
      List.dropWhile_cons_of_pos blank
    rw [← value_skipBlanks, skipped, value_skipBlanks]
    exact ih (Nat.le_of_succ_le enough) ends
  | null | true | false => rfl
  | number reads =>
    obtain ⟨c, behind, rfl, starts⟩ := number_first reads
    exact (value_number starts fuel (behind ++ rest)).trans (number_stops reads ends)
  | string text =>
    rw [quote_append]
    exact quoted_flatMap text rest
  | @array items blanks blank each ih =>
    simp only [List.length_cons, List.length_append] at enough
    obtain ⟨fuel, rfl⟩ := Nat.exists_eq_add_of_le' (Nat.le_trans (Nat.succ_pos _) enough)
    have count := count_le_commas (items.map Prod.snd)
    rw [List.length_map] at count
    refine value_array blank ?_ (by omega) rest
    intro item member rest ends
    have length := length_le_commas (List.mem_map_of_mem (f := Prod.snd) member)
    exact ih item member (by omega) ends
  | @object fields blanks blank names each ih =>
    simp only [List.length_cons, List.length_append] at enough
    obtain ⟨fuel, rfl⟩ := Nat.exists_eq_add_of_le' (Nat.le_trans (Nat.succ_pos _) enough)
    have count := count_le_commas (fields.map SpelledField.chars)
    rw [List.length_map] at count
    refine value_object blank names ?_ (by omega) rest
    intro field member rest ends
    have length := length_le_commas (List.mem_map_of_mem (f := SpelledField.chars) member)
    have inside : field.text.length ≤ field.chars.length := by
      simp only [SpelledField.chars, List.length_append, List.length_cons]
      omega
    exact ih field member (by omega) ends

/-- A whole text is read as the value that it stands for. -/
theorem read?_of_spells {json : Json} {text : String} (spells : Spells json text.toList) :
    read? text = some json := by
  have found := spells.read (Nat.le_refl _) Ends.nil
  rw [List.append_nil] at found
  simp [read?, found, skipBlanks]

/-! ## Printers -/

/-- A floating number whose text reads back as the number. -/
structure LegibleFloat (value : Float) : Prop where
  finite : (value.isNaN || value.isInf) = false
  readsBack : number (Decimal.plain value).toList = some (.float value, [])

/-- A value that has a text: its integers have 64 bits, and its floating numbers read back. -/
inductive Legible : Json → Prop where
  | null : Legible .null
  | bool (value : Bool) : Legible (.bool value)
  | int {value : Int} (low : -(Nat.pow 2 63 : Nat) ≤ value) (high : value ≤ Number.significandMax) :
    Legible (.int value)
  | float {value : Float} (legible : LegibleFloat value) : Legible (.float value)
  | string (text : String) : Legible (.string text)
  | array {items : List Json} (each : ∀ item ∈ items, Legible item) : Legible (.array items)
  | object {fields : List (String × Json)} (each : ∀ field ∈ fields, Legible field.2) :
    Legible (.object fields)

/-- Texts that are joined one by one have commas between them. -/
theorem toList_joined {α : Type} {join : List α → String} {text : α → String} (none : join [] = "")
    (one : ∀ item, join [item] = text item)
    (more : ∀ item next rest, join (item :: next :: rest) = text item ++ "," ++ join (next :: rest))
    (items : List α) : (join items).toList = commas (items.map fun item => (text item).toList) := by
  induction items with
  | nil =>
    rw [none]
    rfl
  | cons item rest ih =>
    cases rest with
    | nil => simp [one, commas]
    | cons next rest =>
      rw [more, String.toList_append, String.toList_append, ih]
      simp [commas]

theorem toList_compactItems (items : List Json) :
    (compactItems items).toList = commas (items.map fun item => (compact item).toList) :=
  toList_joined rfl (fun _ => by rw [compactItems]) (fun _ _ _ => by rw [compactItems]; simp) items

theorem toList_compactFields (fields : List (String × Json)) :
    (compactFields fields).toList =
      commas (fields.map fun field => (quote field.1 ++ ":" ++ compact field.2).toList) :=
  toList_joined rfl (fun _ => by rw [compactFields]) (fun _ _ _ => by rw [compactFields]; simp) fields

theorem toList_indentedItems (level : Nat) (items : List Json) :
    (indentedItems level items).toList =
      commas (items.map fun item => (lineAt level ++ indented level item).toList) :=
  toList_joined rfl (fun _ => by rw [indentedItems]) (fun _ _ _ => by rw [indentedItems]; simp) items

theorem toList_indentedFields (level : Nat) (fields : List (String × Json)) :
    (indentedFields level fields).toList =
      commas (fields.map fun field =>
        (lineAt level ++ quote field.1 ++ ": " ++ indented level field.2).toList) :=
  toList_joined rfl (fun _ => by rw [indentedFields]) (fun _ _ _ => by rw [indentedFields]; simp) fields

theorem Spells.blanks {json : Json} {chars blanks : List Char} (blank : AllBlank blanks)
    (spells : Spells json chars) : Spells json (blanks ++ chars) := by
  induction blanks with
  | nil => exact spells
  | cons c blanks ih =>
    rw [AllBlank, List.forall_mem_cons] at blank
    exact .blank blank.1 (ih blank.2)

theorem allBlank_nil : AllBlank [] := nofun

theorem lineAt_blank (level : Nat) : AllBlank (lineAt level).toList := by
  intro c member
  rw [lineAt, String.toList_ofList] at member
  rcases List.mem_cons.mp member with rfl | space
  · rfl
  · rw [List.eq_of_mem_replicate space]
    rfl

/-- A list of items with the text of each. -/
theorem spells_array {items : List Json} (text : Json → List Char) {blanks : List Char}
    (blank : AllBlank blanks) (each : ∀ item ∈ items, Spells item (text item)) :
    Spells (.array items) ('[' :: (commas (items.map text) ++ (blanks ++ [']']))) := by
  have spelled := Spells.array (items.map fun item => (item, text item)) blank (by
    intro part member
    obtain ⟨item, inItems, rfl⟩ := List.mem_map.mp member
    exact each item inItems)
  simpa [Function.comp_def] using spelled

/-- A list of fields, each with its value's text behind its name and with the same blanks in front. -/
theorem spells_object {fields : List (String × Json)} (text : Json → List Char)
    {blanks names : List Char} (blank : AllBlank blanks) (namesBlank : AllBlank names)
    (each : ∀ field ∈ fields, Spells field.2 (text field.2)) :
    Spells (.object fields)
      ('\x7b' :: (commas (fields.map fun field =>
        names ++ (quote field.1).toList ++ ':' :: text field.2) ++ (blanks ++ ['\x7d']))) := by
  have spelled := Spells.object
    (fields.map fun field => ⟨names, field.1, field.2, text field.2⟩) blank
    (by
      intro spelled member
      obtain ⟨field, -, rfl⟩ := List.mem_map.mp member
      exact namesBlank)
    (by
      intro spelled member
      obtain ⟨field, inFields, rfl⟩ := List.mem_map.mp member
      exact each field inFields)
  simpa [Function.comp_def, SpelledField.chars, SpelledField.entry] using spelled

theorem spells_bool (value : Bool) : Spells (.bool value) (scalar (.bool value)).toList := by
  cases value with
  | true => exact .true
  | false => exact .false

theorem spells_float {value : Float} (legible : LegibleFloat value) :
    Spells (.float value) (scalar (.float value)).toList := by
  have finite := legible.finite
  simp only [scalar, finite]
  exact .number legible.readsBack

theorem spells_compact {json : Json} (legible : Legible json) : Spells json (compact json).toList := by
  induction legible with
  | null => exact .null
  | bool value => exact spells_bool value
  | int low high => exact .number (number_int low high)
  | float legible => exact spells_float legible
  | string text => exact .string text
  | array _ ih =>
    rw [compact, String.toList_append, String.toList_append, toList_compactItems]
    exact spells_array (fun item => (compact item).toList) allBlank_nil ih
  | object _ ih =>
    rw [compact, String.toList_append, String.toList_append, toList_compactFields]
    simpa using spells_object (fun value => (compact value).toList) allBlank_nil allBlank_nil ih

theorem spells_indented {json : Json} (legible : Legible json) (level : Nat) :
    Spells json (indented level json).toList := by
  induction legible generalizing level with
  | null => exact .null
  | bool value => exact spells_bool value
  | int low high => exact .number (number_int low high)
  | float legible => exact spells_float legible
  | string text => exact .string text
  | @array items _ ih =>
    cases items with
    | nil =>
      rw [indented]
      exact .array [] allBlank_nil nofun
    | cons item items =>
      have spelled := spells_array (fun item => (lineAt (level + 1) ++ indented (level + 1) item).toList)
        (lineAt_blank level) fun item member => by
          rw [String.toList_append]
          exact (ih item member (level + 1)).blanks (lineAt_blank (level + 1))
      simpa [indented, toList_indentedItems] using spelled
  | @object fields _ ih =>
    cases fields with
    | nil =>
      rw [indented]
      exact .object [] allBlank_nil nofun nofun
    | cons field fields =>
      have spelled := spells_object (fun value => ' ' :: (indented (level + 1) value).toList)
        (lineAt_blank level) (lineAt_blank (level + 1)) fun field member =>
          .blank rfl (ih field member (level + 1))
      simpa [indented, toList_indentedFields] using spelled

/-- A value is read from its text on one line. -/
theorem read?_compact {json : Json} (legible : Legible json) : read? (compact json) = some json :=
  read?_of_spells (spells_compact legible)

/-- A value is read from its indented text. -/
theorem read?_pretty {json : Json} (legible : Legible json) : read? (pretty json) = some json :=
  read?_of_spells (spells_indented legible 0)

end SourceFacts.Json

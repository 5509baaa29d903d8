import Mathlib.Data.List.DropRight
import Mathlib.Data.Option.Basic
import SourceFacts.Json.Printer
import SourceFacts.Json.Reader

/-! The smallest parts of structured text read back: integers of 64 bits, and quoted texts with all their
escaped characters. What a number reader takes does not depend on what follows, as long as that does not
go on with the number. -/
namespace SourceFacts.Json

open Reader

/-! ## Blanks -/

/-- Nothing but blanks. -/
def AllBlank (chars : List Char) : Prop := ∀ c ∈ chars, isBlank c = true

theorem skipBlanks_append {blanks : List Char} (blank : AllBlank blanks) (rest : List Char) :
    skipBlanks (blanks ++ rest) = skipBlanks rest :=
  List.dropWhile_append_of_pos blank

theorem skipBlanks_skipBlanks (chars : List Char) : skipBlanks (skipBlanks chars) = skipBlanks chars :=
  List.dropWhile_idempotent isBlank chars

theorem skipBlanks_cons {c : Char} (solid : isBlank c = false) (rest : List Char) :
    skipBlanks (c :: rest) = c :: rest :=
  List.dropWhile_cons_of_neg (by rw [solid]; exact Bool.false_ne_true)

/-- Blanks in front of a value do not matter. -/
theorem value_skipBlanks (fuel : Nat) (chars : List Char) :
    value fuel (skipBlanks chars) = value fuel chars := by
  cases fuel with
  | zero => rfl
  | succ fuel => simp only [value, skipBlanks_skipBlanks]

theorem field_skipBlanks (read : Reader Json) (chars : List Char) :
    field read (skipBlanks chars) = field read chars := by
  rw [field, field, skipBlanks_skipBlanks]

/-! ## Numbers -/

/-- The characters that may follow a value: none of them goes on with a number. -/
def endMarks : List Char := [' ', '\n', '\t', '\r', ',', ']', '\x7d']

/-- What may stand behind a value: nothing, or one of these characters and more. -/
def Ends (rest : List Char) : Prop := ∀ c, rest.head? = some c → c ∈ endMarks

theorem Ends.nil : Ends [] := nofun

theorem Ends.cons {c : Char} (mark : c ∈ endMarks) (rest : List Char) : Ends (c :: rest) := by
  rintro _ ⟨⟩
  exact mark

/-- A reader that takes the same when something follows. -/
def Stops {α : Type} (read : Reader α) : Prop :=
  ∀ {chars result left rest}, read chars = some (result, left) → Ends rest →
    read (chars ++ rest) = some (result, left ++ rest)

theorem digits_ends {rest : List Char} (ends : Ends rest) : digits rest = ([], rest) := by
  cases rest with
  | nil => rfl
  | cons c rest =>
    have noDigits : ∀ c ∈ endMarks, digit? c = none := by simp [endMarks, digit?]
    rw [digits, noDigits c (ends c rfl)]

theorem digits_append (chars : List Char) {rest : List Char} (ends : Ends rest) :
    digits (chars ++ rest) = ((digits chars).1, (digits chars).2 ++ rest) := by
  induction chars with
  | nil => exact digits_ends ends
  | cons c chars ih =>
    rw [List.cons_append, digits, digits]
    cases digit? c with
    | none => rfl
    | some value => rw [ih]

theorem someDigits_stops : Stops someDigits := by
  intro chars result left rest found ends
  rw [someDigits] at found ⊢
  rw [digits_append chars ends]
  generalize digits chars = taken at found
  obtain ⟨first, behind⟩ := taken
  cases first with
  | nil => cases found
  | cons digit digits =>
    cases found
    rfl

theorem fraction_ends {rest : List Char} (ends : Ends rest) : fraction rest = some (none, rest) := by
  rw [fraction.eq_def]
  split
  · exact absurd (ends '.' rfl) (by decide)
  · rfl

theorem fraction_stops : Stops fraction := by
  intro chars result left rest found ends
  cases chars with
  | nil =>
    cases found
    exact fraction_ends ends
  | cons c chars =>
    by_cases point : c = '.'
    · subst point
      obtain ⟨taken, more, same⟩ := Option.map_eq_some_iff.mp found
      cases same
      change (someDigits (chars ++ rest)).map _ = _
      rw [someDigits_stops more ends]
      rfl
    · have pointless : ∀ chars, fraction (c :: chars) = some (none, c :: chars) := by
        intro chars
        simp [fraction, point]
      rw [pointless] at found
      cases found
      exact pointless _

theorem minus_append (chars : List Char) {rest : List Char} (ends : Ends rest) :
    minus (chars ++ rest) = ((minus chars).1, (minus chars).2 ++ rest) := by
  cases chars with
  | nil =>
    rw [List.nil_append, minus.eq_def]
    split
    · exact absurd (ends '-' rfl) (by decide)
    · rfl
  | cons c chars =>
    by_cases negative : c = '-'
    · subst negative
      rfl
    · simp [minus, negative]

theorem sign_append (chars : List Char) {rest : List Char} (ends : Ends rest) :
    sign (chars ++ rest) = ((sign chars).1, (sign chars).2 ++ rest) := by
  cases chars with
  | nil =>
    rw [List.nil_append, sign.eq_def]
    split
    · exact absurd (ends '+' rfl) (by decide)
    · exact minus_append [] ends
  | cons c chars =>
    by_cases positive : c = '+'
    · subst positive
      rfl
    · have signed : ∀ chars, sign (c :: chars) = minus (c :: chars) := by
        intro chars
        simp [sign, positive]
      rw [List.cons_append, signed, signed]
      exact minus_append (c :: chars) ends

theorem exponent_stops : Stops exponent := by
  intro chars result left rest found ends
  cases chars with
  | nil =>
    cases found
    cases rest with
    | nil => rfl
    | cons c rest =>
      have noExponents : ∀ c ∈ endMarks, (c = 'e' || c = 'E') = false := by simp [endMarks]
      rw [List.nil_append, exponent, noExponents c (ends c rfl)]
      rfl
  | cons c chars =>
    rw [exponent] at found
    rw [List.cons_append, exponent]
    split at found
    · rename_i marked
      rw [if_pos marked, sign_append chars ends]
      generalize sign chars = signed at found
      obtain ⟨taken, more, same⟩ := Option.map_eq_some_iff.mp found
      cases same
      dsimp only
      rw [someDigits_stops more ends]
      rfl
    · rename_i marked
      rw [if_neg marked]
      cases found
      rfl

theorem number_stops : Stops number := by
  intro chars result left rest found ends
  rw [number] at found ⊢
  rw [minus_append chars ends]
  generalize minus chars = signed at found
  obtain ⟨⟨whole, behind⟩, digits, found⟩ := Option.bind_eq_some_iff.mp found
  obtain ⟨⟨⟩, noZero, found⟩ := Option.bind_eq_some_iff.mp found
  obtain ⟨⟨places, behind'⟩, point, found⟩ := Option.bind_eq_some_iff.mp found
  obtain ⟨⟨power, left⟩, mark, same⟩ := Option.bind_eq_some_iff.mp found
  cases same
  dsimp only at noZero point mark ⊢
  rw [someDigits_stops digits ends, Option.bind_eq_bind, Option.bind_some, noZero,
    fraction_stops point ends]
  simp only [Option.bind_eq_bind, Option.bind_some, exponent_stops mark ends]
  rfl

/-! ## Integers -/

theorem digit?_of_isDigit {c : Char} (digit : c.isDigit = true) :
    digit? c = some (c.toNat - '0'.toNat) := by
  rw [Char.isDigit, Bool.and_eq_true, decide_eq_true_eq, decide_eq_true_eq] at digit
  rw [digit?, if_pos]
  exact digit

theorem digits_of_isDigit {chars : List Char} (all : ∀ c ∈ chars, c.isDigit = true) :
    digits chars = (chars.map fun c => c.toNat - '0'.toNat, []) := by
  induction chars with
  | nil => rfl
  | cons c chars ih =>
    rw [List.forall_mem_cons] at all
    rw [digits, digit?_of_isDigit all.1, ih all.2]
    rfl

/-- The decimal digits of a number. -/
def digitsOf (value : Nat) : List Nat := (Nat.toDigits 10 value).map fun c => c.toNat - '0'.toNat

theorem digitsOf_of_lt {value : Nat} (small : value < 10) : digitsOf value = [value] := by
  rw [digitsOf, Nat.toDigits_of_lt_base small, List.map_singleton]
  exact congrArg (fun digit => [digit]) (Nat.toNat_digitChar_sub_48_of_lt_ten small)

theorem digitsOf_of_le {value : Nat} (large : 10 ≤ value) :
    digitsOf value = digitsOf (value / 10) ++ [value % 10] := by
  have last := Nat.toNat_digitChar_sub_48_of_lt_ten (Nat.mod_lt value (show 0 < 10 by decide))
  rw [digitsOf, Nat.toDigits_of_base_le (by decide) large, List.map_append]
  exact congrArg (fun digit => digitsOf (value / 10) ++ [digit]) last

theorem digits_toDigits (value : Nat) : digits (Nat.toDigits 10 value) = (digitsOf value, []) :=
  digits_of_isDigit fun _ => Nat.isDigit_of_mem_toDigits (by decide) (by decide)

theorem digitsValue_digitsOf (value : Nat) : Number.digitsValue (digitsOf value) = value := by
  rw [Number.digitsValue, digitsOf, List.foldl_map]
  exact Nat.ofDigitChars_toDigits (by decide) (by decide)

/-- There is a first digit, and it is a zero only where it is the only one. -/
theorem head_digitsOf (value : Nat) :
    ∃ first rest, digitsOf value = first :: rest ∧ (first ≠ 0 ∨ rest = []) := by
  induction value using Nat.strongRecOn with
  | ind value ih =>
    rcases Nat.lt_or_ge value 10 with small | large
    · exact ⟨value, [], digitsOf_of_lt small, .inr rfl⟩
    · obtain ⟨first, rest, same, noZero⟩ := ih (value / 10) (Nat.div_lt_self (by omega) (by decide))
      refine ⟨first, rest ++ [value % 10], by rw [digitsOf_of_le large, same, List.cons_append], .inl ?_⟩
      rcases noZero with nonzero | rfl
      · exact nonzero
      · have tens := digitsValue_digitsOf (value / 10)
        rw [same] at tens
        have positive : 0 < value / 10 := Nat.div_pos large (by decide)
        simp only [Number.digitsValue, List.foldl_cons, List.foldl_nil] at tens
        omega

theorem number_of_minus {chars : List Char} {negative : Bool} {value : Nat}
    (signed : minus chars = (negative, Nat.toDigits 10 value)) :
    number chars = some (Number.value ⟨negative, digitsOf value, none, none⟩, []) := by
  obtain ⟨first, rest, same, noZero⟩ := head_digitsOf value
  have whole : someDigits (Nat.toDigits 10 value) = some (digitsOf value, []) := by
    rw [someDigits, digits_toDigits, same]
  have leading : ((digitsOf value).head? ≠ some 0 || (digitsOf value).length = 1) = true := by
    rw [same]
    rcases noZero with nonzero | rfl
    · simp [nonzero]
    · simp
  have passed : (guard ((digitsOf value).head? ≠ some 0 || (digitsOf value).length = 1) : Option Unit) =
      some () := if_pos leading
  rw [number, signed]
  dsimp only
  rw [whole, Option.bind_eq_bind, Option.bind_some, passed]
  rfl

theorem minus_toDigits (value : Nat) : minus (Nat.toDigits 10 value) = (false, Nat.toDigits 10 value) := by
  rw [minus.eq_def]
  split
  · rename_i rest digits
    have digit : '-'.isDigit = true :=
      Nat.isDigit_of_mem_toDigits (b := 10) (n := value) (by decide) (by decide)
        (by rw [digits]; exact List.mem_cons_self)
    exact absurd digit (by decide)
  · rfl

/-- Every integer of 64 bits, signed or not, reads back. -/
theorem number_int {value : Int} (low : -(Nat.pow 2 63 : Nat) ≤ value)
    (high : value ≤ Number.significandMax) : number (toString value).toList = some (.int value, []) := by
  rw [Int.toString_eq_repr]
  cases value with
  | ofNat value =>
    have small : value ≤ Number.significandMax := Int.ofNat_le.mp high
    rw [Int.repr, Nat.toList_repr, number_of_minus (minus_toDigits value), Number.value,
      digitsValue_digitsOf]
    simp [small]
  | negSucc value =>
    have small : value + 1 ≤ Nat.pow 2 63 := by omega
    have chars : ("-" ++ Nat.repr (value + 1)).toList = '-' :: Nat.toDigits 10 (value + 1) := by
      rw [String.toList_append, Nat.toList_repr]
      rfl
    rw [Int.repr, chars, number_of_minus rfl, Number.value, digitsValue_digitsOf]
    simp [small, Int.negSucc_eq]

/-! ## Texts -/

theorem hexDigit?_hexChar {value : Nat} (small : value < 16) : hexDigit? (hexChar value) = some value := by
  revert value
  decide

/-- A unit and what is read behind it. -/
def consUnit (unit : Nat) (found : List Nat × List Char) : List Nat × List Char :=
  (unit :: found.1, found.2)

theorem units_plain {c : Char} (noQuote : c ≠ '"') (noSlash : c ≠ '\\') (visible : 32 ≤ c.toNat)
    (chars : List Char) : units (c :: chars) = (units chars).map (consUnit c.toNat) := by
  have passed : (guard (32 ≤ c.toNat) : Option Unit) = some () := if_pos visible
  rw [units, passed]
  · cases units chars <;> rfl
  · exact noQuote
  · intro _ _ _ _ _ slash
    exact absurd slash noSlash
  · intro _ _ slash
    exact absurd slash noSlash

theorem units_short {c : Char} {unit : Nat} (short : shortEscape? c = some unit) (chars : List Char) :
    units ('\\' :: c :: chars) = (units chars).map (consUnit unit) := by
  rw [units, short]
  · cases units chars <;> rfl
  · rintro _ _ _ _ _ rfl
    cases short

theorem units_hex {high low : Nat} (highSmall : high < 16) (lowSmall : low < 16) (chars : List Char) :
    units ('\\' :: 'u' :: '0' :: '0' :: hexChar high :: hexChar low :: chars) =
      (units chars).map (consUnit (16 * high + low)) := by
  have zero : hexDigit? '0' = some 0 := rfl
  rw [units, zero, hexDigit?_hexChar highSmall, hexDigit?_hexChar lowSmall]
  cases units chars <;> simp [consUnit]

/-- A character is read back from its escaped form. -/
theorem units_escape (c : Char) (chars : List Char) :
    units (escape c ++ chars) = (units chars).map (consUnit c.toNat) := by
  rw [escape.eq_def]
  split
  · exact units_short rfl chars
  · exact units_short rfl chars
  · exact units_short rfl chars
  · exact units_short rfl chars
  · exact units_short rfl chars
  · rename_i noQuote noSlash _ _ _
    split
    · rename_i same
      rw [same]
      exact units_short rfl chars
    · split
      · rename_i same
        rw [same]
        exact units_short rfl chars
      · split
        · rename_i control
          have parts := Nat.div_add_mod c.toNat 16
          have hex := units_hex (show c.toNat / 16 < 16 by omega) (Nat.mod_lt c.toNat (by decide)) chars
          rwa [parts] at hex
        · exact units_plain noQuote noSlash (by omega) chars

theorem units_flatMap (text rest : List Char) :
    units (text.flatMap escape ++ '"' :: rest) = some (text.map Char.toNat, rest) := by
  induction text with
  | nil => rfl
  | cons c text ih =>
    rw [List.flatMap_cons, List.append_assoc, units_escape, ih]
    rfl

/-- A character is no half of another. -/
theorem halves_toNat (c : Char) : isHighHalf c.toNat = false ∧ isLowHalf c.toNat = false := by
  have valid : c.toNat < 0xD800 ∨ 0xDFFF < c.toNat ∧ c.toNat < 0x110000 := c.valid
  simp only [isHighHalf, isLowHalf, Bool.and_eq_false_iff, decide_eq_false_iff_not]
  omega

theorem joinHalves_toNat (text : List Char) : joinHalves (text.map Char.toNat) = some text := by
  induction text with
  | nil => rfl
  | cons c text ih =>
    obtain ⟨noHigh, noLow⟩ := halves_toNat c
    cases text with
    | nil => simp [joinHalves, noHigh, noLow]
    | cons next text =>
      rw [List.map_cons, List.map_cons, joinHalves, noHigh, noLow, ← List.map_cons, ih]
      simp

theorem quoted_flatMap (text : String) (rest : List Char) :
    quoted (text.toList.flatMap escape ++ '"' :: rest) = some (.string text, rest) := by
  simp [quoted, units_flatMap, joinHalves_toNat]

end SourceFacts.Json

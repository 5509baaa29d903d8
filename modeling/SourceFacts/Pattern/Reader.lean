import SourceFacts.Pattern

/-!
Reading the written form of a search pattern. Whatever is not well formed is refused.
-/
namespace SourceFacts.Pattern

/-- Takes something from the front of a written pattern, or refuses it. -/
abbrev Reader (α : Type) := List Char → Option (α × List Char)

/-- What holds for the rest of a group. -/
structure Flags where
  /-- Letters match in either case. -/
  folded : Bool
  /-- A dot matches the end of a line. -/
  dotAll : Bool
  /-- The ends of lines count as ends. -/
  byLine : Bool
  deriving Inhabited

/-- The set that an escaped letter stands for. -/
def classEscape? : Char → Option CharSet
  | 'd' => some .digit
  | 'D' => some (.other .digit)
  | 'w' => some .word
  | 'W' => some (.other .word)
  | 's' => some .blank
  | 'S' => some (.other .blank)
  | _ => none

/-- The anchor that an escaped letter stands for. -/
def anchorEscape? : Char → Option Anchor
  | 'A' => some .start
  | 'z' => some .stop
  | 'b' => some .wordEdge
  | 'B' => some .noWordEdge
  | _ => none

/-- The value of a hexadecimal digit. -/
def hexDigit? (c : Char) : Option Nat :=
  if c.isDigit then some (c.toNat - 48)
  else if 'a' ≤ c && c ≤ 'f' then some (c.toNat - 87)
  else if 'A' ≤ c && c ≤ 'F' then some (c.toNat - 55)
  else none

/-- The character of a code, if there is one. -/
def charOfCode? (digits : List Char) : Option Char := do
  if digits.isEmpty then none
  let code := (← digits.mapM hexDigit?).foldl (fun code digit => code * 16 + digit) 0
  if h : code.isValidChar then some (Char.ofNatAux code h) else none

/-- Takes the code of a character, with a given number of digits or between braces. -/
def codeEscape (width : Nat) : Reader Char
  | '\x7b' :: rest => do
    let digits := rest.takeWhile (· ≠ '\x7d')
    match rest.drop digits.length with
    | _ :: rest => return (← charOfCode? digits, rest)
    | [] => none
  | chars => do
    let digits := chars.take width
    if digits.length < width then none
    return (← charOfCode? digits, chars.drop width)

/-- Takes a character that is written behind a backslash. -/
def escapedChar : Reader Char
  | 'n' :: rest => some ('\n', rest)
  | 't' :: rest => some ('\t', rest)
  | 'r' :: rest => some ('\r', rest)
  | 'a' :: rest => some (Char.ofNat 7, rest)
  | 'f' :: rest => some (Char.ofNat 12, rest)
  | 'v' :: rest => some (Char.ofNat 11, rest)
  | 'x' :: rest => codeEscape 2 rest
  | 'u' :: rest => codeEscape 4 rest
  | 'U' :: rest => codeEscape 8 rest
  | c :: rest =>
    if c.toNat < 128 && !c.isAlphanum && c ≠ '<' && c ≠ '>' then some (c, rest) else none
  | [] => none

/-- The sets with a name of their own inside brackets. -/
def namedSet? : String → Option CharSet
  | "alnum" => some (.union [.range '0' '9', .range 'A' 'Z', .range 'a' 'z'])
  | "alpha" => some (.union [.range 'A' 'Z', .range 'a' 'z'])
  | "ascii" => some (.range (Char.ofNat 0) (Char.ofNat 127))
  | "blank" => some (.union [.single '\t', .single ' '])
  | "cntrl" => some (.union [.range (Char.ofNat 0) (Char.ofNat 31), .single (Char.ofNat 127)])
  | "digit" => some (.range '0' '9')
  | "graph" => some (.range '!' '~')
  | "lower" => some (.range 'a' 'z')
  | "print" => some (.range ' ' '~')
  | "punct" => some (.union [.range '!' '/', .range ':' '@', .range '[' '\x60', .range '\x7b' '~'])
  | "space" => some (.union [.range (Char.ofNat 9) (Char.ofNat 13), .single ' '])
  | "upper" => some (.range 'A' 'Z')
  | "word" => some (.union [.range '0' '9', .range 'A' 'Z', .range 'a' 'z', .single '_'])
  | "xdigit" => some (.union [.range '0' '9', .range 'A' 'F', .range 'a' 'f'])
  | _ => none

/-- Takes a set by its name, from behind the opening bracket and colon. -/
def namedSet (chars : List Char) : Option (CharSet × List Char) := do
  let (negated, chars) := match chars with
    | '^' :: rest => (true, rest)
    | _ => (false, chars)
  let name := chars.takeWhile Char.isAlpha
  match chars.drop name.length with
  | ':' :: ']' :: rest =>
    let set ← namedSet? (String.ofList name)
    return (if negated then .other set else set, rest)
  | _ => none

/-- One end of a range inside brackets. -/
def rangeEnd : Reader Char
  | '\\' :: rest => escapedChar rest
  | c :: rest => some (c, rest)
  | [] => none

/-- Takes a character inside brackets, or a range that starts with it. -/
def rangeItem (chars : List Char) : Option (CharSet × List Char) := do
  let (first, rest) ← rangeEnd chars
  match rest with
  | '-' :: next :: more =>
    if next = ']' || next = '-' then return (.single first, rest)
    let (last, rest) ← rangeEnd (next :: more)
    if first.toNat ≤ last.toNat then return (.range first last, rest) else none
  | _ => return (.single first, rest)

/-- Takes what stands in brackets through the closing one. The number bounds how many characters are
looked at. -/
def bracketItems : Nat → Bool → Reader (List CharSet)
  | 0, _, _ => none
  | _ + 1, _, [] => none
  | rounds + 1, first, ']' :: rest =>
    if first then do
      let (set, rest) ← rangeItem (']' :: rest)
      let (sets, rest) ← bracketItems rounds false rest
      return (set :: sets, rest)
    else some ([], rest)
  | rounds + 1, _, '[' :: ':' :: rest => do
    let (set, rest) ← namedSet rest
    let (sets, rest) ← bracketItems rounds false rest
    return (set :: sets, rest)
  | rounds + 1, _, '[' :: '^' :: rest => do
    let (inner, rest) ← bracketItems rounds true rest
    let (sets, rest) ← bracketItems rounds false rest
    return (.other (.union inner) :: sets, rest)
  | rounds + 1, _, '[' :: rest => do
    let (inner, rest) ← bracketItems rounds true rest
    let (sets, rest) ← bracketItems rounds false rest
    return (.union inner :: sets, rest)
  | rounds + 1, _, chars => do
    let (set, rest) ← match chars with
      | '\\' :: c :: rest =>
        match classEscape? c with
        | some set => some (set, rest)
        | none => rangeItem chars
      | _ => rangeItem chars
    let (sets, rest) ← bracketItems rounds false rest
    return (set :: sets, rest)

/-- Takes a set in brackets from behind the opening one. -/
def bracketSet (chars : List Char) : Option (CharSet × List Char) := do
  let (negated, chars) := match chars with
    | '^' :: rest => (true, rest)
    | _ => (false, chars)
  let (sets, rest) ← bracketItems (chars.length + 1) true chars
  return (if negated then .other (.union sets) else .union sets, rest)

/-- Counts of repetitions lie below this bound. -/
def countBound : Nat := Nat.pow 2 32

/-- Takes a decimal count with the blanks around it. -/
def count (chars : List Char) : Option (Nat × List Char) :=
  let chars := chars.dropWhile Text.isBlank
  let digits := chars.takeWhile Char.isDigit
  let value := digits.foldl (fun value c => value * 10 + (c.toNat - 48)) 0
  if digits.isEmpty || countBound ≤ value then none
  else some (value, (chars.drop digits.length).dropWhile Text.isBlank)

/-- Takes the counts of a repetition from behind the opening brace. -/
def counts (chars : List Char) : Option ((Nat × Option Nat) × List Char) := do
  let (least, rest) ← count chars
  match rest with
  | '\x7d' :: rest => return ((least, some least), rest)
  | ',' :: '\x7d' :: rest => return ((least, none), rest)
  | ',' :: rest =>
    let (most, rest) ← count rest
    match rest with
    | '\x7d' :: rest => if least ≤ most then return ((least, some most), rest) else none
    | _ => none
  | _ => none

/-- Takes the marks of repetition behind an item. Whether a repetition takes as little as it can
makes no difference to whether there is a match. -/
def repetitions (inner : Pattern) : Nat → Reader Pattern
  | 0, _ => none
  | rounds + 1, chars =>
    match chars with
    | '*' :: rest => repetitions (.repeated inner 0 none) rounds (lazyMark rest)
    | '+' :: rest => repetitions (.repeated inner 1 none) rounds (lazyMark rest)
    | '?' :: rest => repetitions (.repeated inner 0 (some 1)) rounds (lazyMark rest)
    | '\x7b' :: rest => do
      let ((least, most), rest) ← counts rest
      repetitions (.repeated inner least most) rounds (lazyMark rest)
    | _ => some (inner, chars)
where
  /-- Leaves out the mark of a repetition that takes little. -/
  lazyMark : List Char → List Char
    | '?' :: rest => rest
    | chars => chars

/-- Sets flags as written in front of a colon or a closing parenthesis. -/
def setFlags (flags : Flags) (value : Bool) : List Char → Option Flags
  | [] => some flags
  | 'i' :: rest => setFlags { flags with folded := value } value rest
  | 's' :: rest => setFlags { flags with dotAll := value } value rest
  | 'm' :: rest => setFlags { flags with byLine := value } value rest
  | 'u' :: rest => setFlags flags value rest
  | 'U' :: rest => setFlags flags value rest
  | '-' :: rest => if value && !rest.isEmpty then setFlags flags false rest else none
  | _ => none

/-- Takes the name of a group and the bracket behind it. -/
def groupName (chars : List Char) : Option (List Char) :=
  let name := chars.takeWhile fun c => c.isAlphanum || c = '_' || c = '.' || c = '[' || c = ']'
  match name, chars.drop name.length with
  | first :: _, '>' :: rest => if first.isAlpha || first = '_' then some rest else none
  | _, _ => none

/-- A single character outside brackets. -/
def literal (flags : Flags) (c : Char) : Pattern := .one (.single c) flags.folded

/-- Takes an item that is not a group. -/
def item (flags : Flags) : Reader Pattern
  | '[' :: rest => do
    let (set, rest) ← bracketSet rest
    return (.one set flags.folded, rest)
  | '.' :: rest =>
    some (.one (if flags.dotAll then .other (.union []) else .other (.single '\n')) false, rest)
  | '^' :: rest => some (.anchor (if flags.byLine then .lineStart else .start), rest)
  | '$' :: rest => some (.anchor (if flags.byLine then .lineStop else .stop), rest)
  | '\\' :: c :: rest =>
    match classEscape? c, anchorEscape? c with
    | some set, _ => some (.one set false, rest)
    | none, some place => some (.anchor place, rest)
    | none, none => do
      let (c, rest) ← escapedChar (c :: rest)
      return (literal flags c, rest)
  | '\\' :: [] => none
  | '*' :: _ | '+' :: _ | '?' :: _ | '\x7b' :: _ => none
  | c :: rest => some (literal flags c, rest)
  | [] => none

/-- Takes alternatives up to the end or to a closing parenthesis. Flags set on the way hold for what
follows in the same group. -/
def alternatives : Nat → Flags → Reader Pattern
  | 0, _, _ => none
  | rounds + 1, flags, chars =>
    match chars with
    | [] => some (.empty, [])
    | ')' :: _ => some (.empty, chars)
    | '|' :: rest => do
      let (pattern, rest) ← alternatives rounds flags rest
      return (.either .empty pattern, rest)
    | '(' :: '?' :: rest =>
      match rest with
      | 'P' :: '<' :: rest | '<' :: rest => do grouped rounds flags flags (← groupName rest)
      | _ => do
        let written := rest.takeWhile fun c => c ≠ ')' && c ≠ ':'
        match rest.drop written.length with
        | ':' :: rest => grouped rounds flags (← setFlags flags true written) rest
        | ')' :: rest =>
          if written.isEmpty then none
          else alternatives rounds (← setFlags flags true written) rest
        | _ => none
    | '(' :: rest => grouped rounds flags flags rest
    | _ => do
      let (first, rest) ← item flags chars
      follow rounds flags first rest
where
  /-- Takes what follows an item: its repetitions and the rest of the alternatives. -/
  follow (rounds : Nat) (flags : Flags) (first : Pattern) (chars : List Char) :
      Option (Pattern × List Char) := do
    let (first, rest) ← repetitions first (chars.length + 1) chars
    let (second, rest) ← alternatives rounds flags rest
    return (behind first second, rest)
  /-- Takes a group from behind its opening, and what follows it. -/
  grouped (rounds : Nat) (flags inner : Flags) (chars : List Char) :
      Option (Pattern × List Char) := do
    let (pattern, rest) ← alternatives rounds inner chars
    match rest with
    | ')' :: rest => follow rounds flags pattern rest
    | _ => none
  /-- Puts an item in front of the first alternative. -/
  behind (first : Pattern) : Pattern → Pattern
    | .either left right => .either (.sequence first left) right
    | pattern => .sequence first pattern

/-- The pattern of a written form. -/
def read? (text : String) : Option Pattern :=
  match alternatives (text.length + 1) ⟨false, false, false⟩ text.toList with
  | some (pattern, []) => some pattern
  | _ => none

/-- What a written form matches: the texts in which its pattern occurs. -/
def compile (text : String) : Except String (String → Bool) :=
  match read? text with
  | some pattern => .ok pattern.occursIn
  | none => .error text

end SourceFacts.Pattern

import SourceFacts.Toml.Table

/-!
Reading settings files. A file is read into a structured value, or refused as a whole. Dates and
numbers with a fraction are checked for their form, but have no value, since no setting takes one.
-/
namespace SourceFacts.Toml

/-- Takes something from the front of the characters, or refuses them. -/
abbrev Reader (α : Type) := List Char → Option (α × List Char)

/-- Skips spaces and tabs. -/
def skipSpaces (chars : List Char) : List Char :=
  chars.dropWhile fun c => c = ' ' || c = '\t'

/-- Characters that may stand in a comment, and with some exceptions in quotes. -/
def isText (c : Char) : Bool :=
  c = '\t' || (32 ≤ c.toNat && c.toNat ≠ 127)

/-- Takes a line end. -/
def newline? : List Char → Option (List Char)
  | '\n' :: rest => some rest
  | '\r' :: '\n' :: rest => some rest
  | _ => none

/-- Skips a comment, if there is one, up to the end of its line. -/
def skipComment : List Char → List Char
  | '#' :: rest => rest.dropWhile isText
  | chars => chars

/-- Takes the end of a line or of the file, with spaces and a comment before it. -/
def lineEnd? (chars : List Char) : Option (List Char) :=
  match skipComment (skipSpaces chars) with
  | [] => some []
  | chars => newline? chars

/-- Skips spaces, comments and line ends. -/
def skipLines : Nat → List Char → List Char
  | 0, chars => chars
  | rounds + 1, chars =>
    let chars := skipComment (skipSpaces chars)
    match newline? chars with
    | some rest => skipLines rounds rest
    | none => chars

/-- The value of a digit in a base up to sixteen. -/
def digit? (base : Nat) (c : Char) : Option Nat :=
  let value :=
    if c.isDigit then c.toNat - 48
    else if 'a' ≤ c && c ≤ 'f' then c.toNat - 87
    else if 'A' ≤ c && c ≤ 'F' then c.toNat - 55
    else base
  if value < base then some value else none

/-- The number of some digits. -/
def number? (base : Nat) (digits : List Char) : Option Nat := do
  if digits.isEmpty then none
  return (← digits.mapM (digit? base)).foldl (fun value digit => value * base + digit) 0

/-- Takes a character by its code, written with a number of hexadecimal digits. -/
def codePoint (width : Nat) : Reader Char := fun chars => do
  let digits := chars.take width
  if digits.length < width then none
  let code ← number? 16 digits
  if h : code.isValidChar then some (Char.ofNatAux code h, chars.drop width) else none

/-- Takes an escape from behind its backslash. -/
def escape : Reader Char
  | 'b' :: rest => some (Char.ofNat 8, rest)
  | 't' :: rest => some ('\t', rest)
  | 'n' :: rest => some ('\n', rest)
  | 'f' :: rest => some (Char.ofNat 12, rest)
  | 'r' :: rest => some ('\r', rest)
  | '"' :: rest => some ('"', rest)
  | '\\' :: rest => some ('\\', rest)
  | 'u' :: rest => codePoint 4 rest
  | 'U' :: rest => codePoint 8 rest
  | _ => none

/-- Skips a line end behind a backslash, and all blanks after it. There has to be a line end. -/
def skipContinuation (chars : List Char) : Option (List Char) := do
  let rest ← newline? (skipSpaces chars)
  return blanks rest.length rest
where
  /-- Skips spaces and line ends. -/
  blanks : Nat → List Char → List Char
    | 0, chars => chars
    | rounds + 1, chars =>
      let chars := skipSpaces chars
      match newline? chars with
      | some rest => blanks rounds rest
      | none => chars

/-- Takes a text in double quotes from behind the first one. -/
def basicText : Nat → Reader (List Char)
  | 0, _ => none
  | rounds + 1, chars =>
    match chars with
    | '"' :: rest => some ([], rest)
    | '\\' :: rest => do
      let (c, rest) ← escape rest
      let (text, rest) ← basicText rounds rest
      return (c :: text, rest)
    | c :: rest => do
      if !isText c then none
      let (text, rest) ← basicText rounds rest
      return (c :: text, rest)
    | [] => none

/-- Takes a text in single quotes from behind the first one. -/
def literalText (chars : List Char) : Option (List Char × List Char) :=
  let text := chars.takeWhile fun c => isText c && c ≠ '\x27'
  match chars.drop text.length with
  | '\x27' :: rest => some (text, rest)
  | _ => none

/-- Takes the closing marks of a text over several lines; one or two more belong to the text. -/
def closing? (quote : Char) (chars : List Char) : Option (List Char × List Char) :=
  let marks := (chars.takeWhile (· = quote)).length
  if marks < 3 then none
  else some (List.replicate (min (marks - 3) 2) quote, chars.drop (min marks 5))

/-- Takes a text over several lines from behind its opening marks. -/
def longText (quote : Char) (escapes : Bool) : Nat → Reader (List Char)
  | 0, _ => none
  | rounds + 1, chars =>
    match closing? quote chars with
    | some closed => some closed
    | none =>
      match chars, newline? chars with
      | _, some rest => do
        let (text, rest) ← longText quote escapes rounds rest
        return ('\n' :: text, rest)
      | '\\' :: behind, none =>
        if escapes then
          match skipContinuation behind with
          | some rest => longText quote escapes rounds rest
          | none => do
            let (c, rest) ← escape behind
            let (text, rest) ← longText quote escapes rounds rest
            return (c :: text, rest)
        else do
          let (text, rest) ← longText quote escapes rounds behind
          return ('\\' :: text, rest)
      | c :: rest, none => do
        if !isText c then none
        let (text, rest) ← longText quote escapes rounds rest
        return (c :: text, rest)
      | [], none => none

/-- Skips a line end right behind the opening marks. -/
def skipFirstNewline (chars : List Char) : List Char := (newline? chars).getD chars

/-- Takes a quoted text. -/
def quotedText (chars : List Char) : Option (String × List Char) := do
  let (text, rest) ← match chars with
    | '"' :: '"' :: '"' :: rest => longText '"' true (rest.length + 1) (skipFirstNewline rest)
    | '\x27' :: '\x27' :: '\x27' :: rest =>
      longText '\x27' false (rest.length + 1) (skipFirstNewline rest)
    | '"' :: rest => basicText (rest.length + 1) rest
    | '\x27' :: rest => literalText rest
    | _ => none
  return (String.ofList text, rest)

/-- Characters of keys without quotes. -/
def isBareKey (c : Char) : Bool := c.isAlphanum || c = '_' || c = '-'

/-- Takes one part of a key. -/
def simpleKey (chars : List Char) : Option (String × List Char) :=
  match chars with
  | '"' :: rest => do
    let (text, rest) ← basicText (rest.length + 1) rest
    return (String.ofList text, rest)
  | '\x27' :: rest => do
    let (text, rest) ← literalText rest
    return (String.ofList text, rest)
  | _ =>
    let key := chars.takeWhile isBareKey
    if key.isEmpty then none else some (String.ofList key, chars.drop key.length)

/-- Takes a key and its dots, with the spaces around them. -/
def dottedKey : Nat → Reader (List String)
  | 0, _ => none
  | rounds + 1, chars => do
    let (key, rest) ← simpleKey (skipSpaces chars)
    match skipSpaces rest with
    | '.' :: rest =>
      let (keys, rest) ← dottedKey rounds rest
      return (key :: keys, rest)
    | rest => return ([key], rest)

/-- The digits of a number: single underscores may stand between two digits. -/
def plainDigits? (base : Nat) : List Char → Option (List Char)
  | [] => none
  | [c] => if (digit? base c).isSome then some [c] else none
  | c :: '_' :: rest => do
    if (digit? base c).isNone then none
    return c :: (← plainDigits? base rest)
  | c :: rest => do
    if (digit? base c).isNone then none
    return c :: (← plainDigits? base rest)

/-- Digits that make up the whole part of a decimal number. -/
def wholeDigits? (chars : List Char) : Option (List Char) := do
  let digits ← plainDigits? 10 chars
  if digits.length > 1 && digits.head? = some '0' then none
  return digits

/-- A 64-bit signed number. -/
def word? (negative : Bool) (magnitude : Nat) : Option Json :=
  if negative then if magnitude ≤ Nat.pow 2 63 then some (.int (-(magnitude : Int))) else none
  else if magnitude < Nat.pow 2 63 then some (.nat magnitude) else none

/-- An integer. Only a decimal one may have a sign. -/
def integer? : List Char → Option Json
  | '0' :: 'x' :: digits => do word? false (← number? 16 (← plainDigits? 16 digits))
  | '0' :: 'o' :: digits => do word? false (← number? 8 (← plainDigits? 8 digits))
  | '0' :: 'b' :: digits => do word? false (← number? 2 (← plainDigits? 2 digits))
  | '+' :: digits => do word? false (← number? 10 (← wholeDigits? digits))
  | '-' :: digits => do word? true (← number? 10 (← wholeDigits? digits))
  | digits => do word? false (← number? 10 (← wholeDigits? digits))

/-- Leaves out a sign. -/
def unsigned : List Char → List Char
  | '+' :: rest => rest
  | '-' :: rest => rest
  | chars => chars

/-- Whether some characters are a number with a fraction or an exponent, or not a number at all. -/
def isFraction (chars : List Char) : Bool :=
  let body := unsigned chars
  let isExponentMark (c : Char) : Bool := c = 'e' || c = 'E'
  let mantissa := body.takeWhile (!isExponentMark ·)
  let exponent := body.drop mantissa.length
  let whole := mantissa.takeWhile (· ≠ '.')
  let fraction := mantissa.drop whole.length
  let exponentOk := exponent.isEmpty || (plainDigits? 10 (unsigned (exponent.drop 1))).isSome
  let fractionOk := fraction.isEmpty || (plainDigits? 10 (fraction.drop 1)).isSome
  String.ofList body = "inf" || String.ofList body = "nan" ||
    ((wholeDigits? whole).isSome && fractionOk && exponentOk &&
      !(fraction.isEmpty && exponent.isEmpty))

/-- The number of exactly so many decimal digits at the front, and what follows. -/
def fixedDigits (width : Nat) (chars : List Char) : Option (Nat × List Char) := do
  if (chars.take width).length < width then none
  return (← number? 10 (chars.take width), chars.drop width)

/-- The number of days in a month. -/
def daysIn (year month : Nat) : Nat :=
  if month = 2 then
    if year % 4 = 0 && (year % 100 ≠ 0 || year % 400 = 0) then 29 else 28
  else if month = 4 || month = 6 || month = 9 || month = 11 then 30
  else 31

/-- Takes a date. -/
def date? (chars : List Char) : Option (List Char) := do
  let (year, rest) ← fixedDigits 4 chars
  match rest with
  | '-' :: rest =>
    let (month, rest) ← fixedDigits 2 rest
    match rest with
    | '-' :: rest =>
      let (day, rest) ← fixedDigits 2 rest
      if 1 ≤ month && month ≤ 12 && 1 ≤ day && day ≤ daysIn year month then return rest else none
    | _ => none
  | _ => none

/-- Takes a time of day. -/
def time? (chars : List Char) : Option (List Char) := do
  let (hour, rest) ← fixedDigits 2 chars
  match rest with
  | ':' :: rest =>
    let (minute, rest) ← fixedDigits 2 rest
    match rest with
    | ':' :: rest =>
      let (second, rest) ← fixedDigits 2 rest
      if hour ≥ 24 || minute ≥ 60 || second > 60 then none
      match rest with
      | '.' :: rest =>
        let digits := rest.takeWhile Char.isDigit
        if digits.isEmpty then none else return rest.drop digits.length
      | _ => return rest
    | _ => none
  | _ => none

/-- Takes the offset of a time. -/
def timeOffset? : List Char → Option (List Char)
  | [] => some []
  | 'Z' :: rest => some rest
  | 'z' :: rest => some rest
  | c :: rest => do
    if c ≠ '+' && c ≠ '-' then none
    let (hour, rest) ← fixedDigits 2 rest
    match rest with
    | ':' :: rest =>
      let (minute, rest) ← fixedDigits 2 rest
      if hour < 24 && minute < 60 then return rest else none
    | _ => none

/-- Whether some characters are a date, a time, or both. -/
def isMoment (chars : List Char) : Bool :=
  match date? chars with
  | some [] => true
  | some (c :: rest) =>
    (c = 'T' || c = 't' || c = ' ') && ((time? rest).bind timeOffset?) = some []
  | none => time? chars = some []

/-- Characters of numbers and dates. -/
def isScalarChar (c : Char) : Bool :=
  c.isAlphanum || c = '_' || c = '+' || c = '-' || c = '.' || c = ':'

/-- The characters of a number or a date. A space may divide a date from a time. -/
def scalarChars (chars : List Char) : List Char :=
  let first := chars.takeWhile isScalarChar
  match date? first, chars.drop first.length with
  | some [], ' ' :: c :: rest =>
    if c.isDigit then first ++ ' ' :: (c :: rest).takeWhile isScalarChar else first
  | _, _ => first

/-- Takes a value without parts: a truth value, a number or a date. -/
def scalar (chars : List Char) : Option (Json × List Char) := do
  let written := scalarChars chars
  let rest := chars.drop written.length
  let text := String.ofList written
  if text = "true" then return (.bool true, rest)
  else if text = "false" then return (.bool false, rest)
  else
    match integer? written with
    | some value => return (value, rest)
    | none => if isFraction written || isMoment written then return (.unreadable, rest) else none

/-- Takes the items of an array from behind its bracket. -/
def arrayItems (value : Reader Json) : Nat → Reader (List Json)
  | 0, _ => none
  | rounds + 1, chars =>
    match skipLines (chars.length + 1) chars with
    | ']' :: rest => some ([], rest)
    | chars => do
      let (item, rest) ← value chars
      match skipLines (rest.length + 1) rest with
      | ',' :: rest =>
        let (items, rest) ← arrayItems value rounds rest
        return (item :: items, rest)
      | ']' :: rest => return ([item], rest)
      | _ => none

/-- Takes a key, an equals sign and a value, and adds them to a table. -/
def entry (value : Reader Json) (entries : Entries) (chars : List Char) :
    Option (Entries × List Char) := do
  let (keys, rest) ← dottedKey (chars.length + 1) chars
  match rest with
  | '=' :: rest =>
    let (json, rest) ← value (skipSpaces rest)
    return (← define keys.dropLast (keys.getLastD "") json entries, rest)
  | _ => none

/-- Takes the entries of a table in braces from behind the first one. -/
def inlineEntries (value : Reader Json) : Nat → Entries → Reader Entries
  | 0, _, _ => none
  | rounds + 1, entries, chars => do
    let (entries, rest) ← entry value entries (skipSpaces chars)
    match skipSpaces rest with
    | ',' :: rest => inlineEntries value rounds entries rest
    | '\x7d' :: rest => return (entries, rest)
    | _ => none

/-- Takes a value. The number bounds how deep values nest. -/
def value : Nat → Reader Json
  | 0, _ => none
  | depth + 1, chars =>
    match chars with
    | '"' :: _ | '\x27' :: _ => do
      let (text, rest) ← quotedText chars
      return (.string text, rest)
    | '[' :: rest => do
      let (items, rest) ← arrayItems (value depth) (rest.length + 1) rest
      return (.array items, rest)
    | '\x7b' :: rest =>
      match skipSpaces rest with
      | '\x7d' :: rest => some (.object [], rest)
      | rest => do
        let (entries, rest) ← inlineEntries (value depth) (rest.length + 1) [] rest
        return (.object (fieldsOf entries), rest)
    | _ => scalar chars

/-- How deep values may nest. -/
def maxDepth : Nat := 80

/-- A file while it is being read: all entries, and the path of the open table. -/
structure Document where
  entries : Entries
  current : List String
  deriving Inhabited

/-- Takes a line that opens a table, from behind its brackets. -/
def header (inRow : Bool) (document : Document) (chars : List Char) :
    Option (Document × List Char) := do
  let (keys, rest) ← dottedKey (chars.length + 1) chars
  let rest ← match inRow, rest with
    | true, ']' :: ']' :: rest => some rest
    | false, ']' :: rest => some rest
    | _, _ => none
  let key := keys.getLastD ""
  let change := fun (_ : Bool) entries =>
    if inRow then appendTable key entries else openTable key entries
  let entries ← descend false change keys.dropLast false document.entries
  return (⟨entries, keys⟩, rest)

/-- Takes a key and its value, and puts them into the open table. -/
def keyValue (document : Document) (chars : List Char) : Option (Document × List Char) := do
  let (keys, rest) ← dottedKey (chars.length + 1) chars
  match rest with
  | '=' :: rest =>
    let (json, rest) ← value maxDepth (skipSpaces rest)
    let change := fun (_ : Bool) entries => define keys.dropLast (keys.getLastD "") json entries
    let entries ← descend false change document.current false document.entries
    return ({ document with entries }, rest)
  | _ => none

/-- Takes lines up to the end of the file. -/
def lines : Nat → Document → List Char → Option Document
  | 0, _, _ => none
  | rounds + 1, document, chars =>
    match skipLines (chars.length + 1) chars with
    | [] => some document
    | '[' :: '[' :: rest => do
      let (document, rest) ← header true document rest
      lines rounds document (← lineEnd? rest)
    | '[' :: rest => do
      let (document, rest) ← header false document rest
      lines rounds document (← lineEnd? rest)
    | chars => do
      let (document, rest) ← keyValue document chars
      lines rounds document (← lineEnd? rest)

/-- Leaves out the mark that may stand at the start of a file. -/
def skipMark : List Char → List Char
  | '\ufeff' :: rest => rest
  | chars => chars

/-- The structured value of a settings file. -/
def read? (text : String) : Option Json := do
  let document ← lines (text.length + 1) ⟨[], []⟩ (skipMark text.toList)
  return .object (fieldsOf document.entries)

end SourceFacts.Toml

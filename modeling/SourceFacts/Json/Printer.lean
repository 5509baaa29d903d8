import SourceFacts.Json
import SourceFacts.Decimal

/-!
Writing structured text, on one line or indented by two spaces a level. Names and texts are quoted;
control characters are escaped and all else stands as it is.
-/
namespace SourceFacts.Json

/-- A hexadecimal digit in lower case. -/
def hexChar (value : Nat) : Char :=
  if value < 10 then Char.ofNat (48 + value) else Char.ofNat (87 + value)

/-- A character inside a quoted text. -/
def escape (c : Char) : List Char :=
  match c with
  | '"' => ['\\', '"']
  | '\\' => ['\\', '\\']
  | '\n' => ['\\', 'n']
  | '\r' => ['\\', 'r']
  | '\t' => ['\\', 't']
  | c =>
    if c.toNat = 8 then ['\\', 'b']
    else if c.toNat = 12 then ['\\', 'f']
    else if c.toNat < 32 then
      ['\\', 'u', '0', '0', hexChar (c.toNat / 16), hexChar (c.toNat % 16)]
    else [c]

/-- A quoted text. -/
def quote (text : String) : String :=
  String.ofList ('"' :: text.toList.flatMap escape ++ ['"'])

/-- The text of a value that holds no other value. -/
def scalar : Json → String
  | null => "null"
  | bool true => "true"
  | bool false => "false"
  | int value => toString value
  | float value => if value.isNaN || value.isInf then "null" else Decimal.plain value
  | string value => quote value
  | _ => "null"

mutual

/-- One line of text. -/
def compact : Json → String
  | array items => "[" ++ compactItems items ++ "]"
  | object fields => "\x7b" ++ compactFields fields ++ "\x7d"
  | json => scalar json

def compactItems : List Json → String
  | [] => ""
  | [item] => compact item
  | item :: rest => compact item ++ "," ++ compactItems rest

def compactFields : List (String × Json) → String
  | [] => ""
  | [(name, value)] => quote name ++ ":" ++ compact value
  | (name, value) :: rest => quote name ++ ":" ++ compact value ++ "," ++ compactFields rest

end

/-- A line break and the blanks of a level. -/
def lineAt (level : Nat) : String :=
  String.ofList ('\n' :: List.replicate (2 * level) ' ')

mutual

/-- Indented text, one item or field a line; an empty array or object stays closed. -/
def indented (level : Nat) : Json → String
  | array [] => "[]"
  | array items => "[" ++ indentedItems (level + 1) items ++ lineAt level ++ "]"
  | object [] => "\x7b\x7d"
  | object fields => "\x7b" ++ indentedFields (level + 1) fields ++ lineAt level ++ "\x7d"
  | json => scalar json

def indentedItems (level : Nat) : List Json → String
  | [] => ""
  | [item] => lineAt level ++ indented level item
  | item :: rest => lineAt level ++ indented level item ++ "," ++ indentedItems level rest

def indentedFields (level : Nat) : List (String × Json) → String
  | [] => ""
  | [(name, value)] => lineAt level ++ quote name ++ ": " ++ indented level value
  | (name, value) :: rest =>
    lineAt level ++ quote name ++ ": " ++ indented level value ++ "," ++ indentedFields level rest

end

/-- Indented text of a whole value. -/
def pretty (json : Json) : String := indented 0 json

end SourceFacts.Json

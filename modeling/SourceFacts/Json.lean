/-!
Structured values: the trees that records are written to and read from. Fields keep the order they
were given in and may repeat, since a reader has to notice a repeated field.
-/
namespace SourceFacts

/-- A structured value. -/
inductive Json where
  | null
  | bool (value : Bool)
  | int (value : Int)
  | float (value : Float)
  | string (value : String)
  | array (items : List Json)
  | object (fields : List (String × Json))
  /-- A well-formed token that stands for no value, such as a number out of range. It may be
  passed over but not read. -/
  | unreadable
  deriving Inhabited

namespace Json

/-- The last value given to a field. -/
def field? (json : Json) (name : String) : Option Json :=
  match json with
  | object fields => fields.reverse.lookup name
  | _ => none

/-- The number of a numeric value. -/
def toFloat? : Json → Option Float
  | int value => some (Float.ofInt value)
  | float value => some value
  | _ => none

def toBool? : Json → Option Bool
  | bool value => some value
  | _ => none

def toText? : Json → Option String
  | string value => some value
  | _ => none

/-- An integer from zero up to, but not including, a bound. -/
def toNat? (bound : Nat) : Json → Option Nat
  | int (.ofNat value) => if value < bound then some value else none
  | _ => none

def toList? : Json → Option (List Json)
  | array items => some items
  | _ => none

/-- A natural number as a value. -/
def nat (value : Nat) : Json := int value

/-- A value that may be missing, with null in its place. -/
def ofOption {α : Type} (write : α → Json) : Option α → Json
  | none => null
  | some value => write value

/-- A list of values of one kind. -/
def ofList {α : Type} (write : α → Json) (items : List α) : Json :=
  array (items.map write)

end Json

end SourceFacts

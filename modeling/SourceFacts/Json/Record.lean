import SourceFacts.Json

/-!
Records as structured values. A record is written as an object with one field per component. It is
read from an object, where unknown fields are passed over and a repeated known field is refused, or
from an array that holds the components in order.
-/
namespace SourceFacts.Json

/-- What a reader finds for one component of a record: its value, or nothing. -/
abbrev Component := Option Json

/-- The value of a field that must not be given twice. The outer `none` stands for a repeated
field. -/
def uniqueField? (fields : List (String × Json)) (name : String) : Option Component :=
  match fields.filter fun field => field.1 = name with
  | [] => some none
  | [(_, value)] => some (some value)
  | _ => none

/-- The components of a record with these fields. An array has to hold every one of them. -/
def components? (names : List String) : Json → Option (List Component)
  | object fields => names.mapM (uniqueField? fields)
  | array items => if items.length = names.length then some (items.map some) else none
  | _ => none

/-- The components of a record whose fields all have defaults: an array may end early. -/
def optionalComponents? (names : List String) : Json → Option (List Component)
  | object fields => names.mapM (uniqueField? fields)
  | array items =>
    if items.length ≤ names.length then
      some (items.map some ++ List.replicate (names.length - items.length) none)
    else none
  | _ => none

/-- Reads a component that has to be there. -/
def required {α : Type} (read : Json → Option α) (component : Component) : Option α :=
  component.bind read

/-- Reads a value that may be null. -/
def nullable {α : Type} (read : Json → Option α) : Json → Option (Option α)
  | null => some none
  | json => (read json).map some

/-- Reads a component that may be missing or null. -/
def optional {α : Type} (read : Json → Option α) : Component → Option (Option α)
  | none => some none
  | some json => nullable read json

/-- Reads a component, with a default where it is missing. -/
def withDefault {α : Type} (default : α) (read : Json → Option α) : Component → Option α
  | none => some default
  | some json => read json

/-- Reads a list, item by item. -/
def listOf {α : Type} (read : Json → Option α) (json : Json) : Option (List α) := do
  (← json.toList?).mapM read

/-- Reads one of several named cases. A case is written as its name, and may also be given as an
object with that single field holding null. -/
def caseOf {α : Type} (read : String → Option α) : Json → Option α
  | string name => read name
  | object [(name, null)] => read name
  | _ => none

end SourceFacts.Json

import SourceFacts.Json

/-!
Tables of a settings file while it is being read. The format forbids defining a table twice, so a
table remembers how it came about: by a header of its own, on the way to another table, or by a
dotted key.
-/
namespace SourceFacts.Toml

/-- Something under a key. -/
inductive Node where
  | value (json : Json)
  /-- A table. It is implicit until it has a header of its own; a dotted one never gets one. -/
  | table (implicit dotted : Bool) (entries : List (String × Node))
  /-- Tables under one key, each with a header of its own, in order. -/
  | tables (items : List (List (String × Node)))
  deriving Inhabited

/-- The contents of a table. -/
abbrev Entries := List (String × Node)

mutual

/-- What a node stands for. -/
def Node.toJson : Node → Json
  | .value json => json
  | .table _ _ entries => .object (fieldsOf entries)
  | .tables items => .array (objectsOf items)

/-- The fields of a table. -/
def fieldsOf : List (String × Node) → List (String × Json)
  | [] => []
  | (key, node) :: rest => (key, node.toJson) :: fieldsOf rest

/-- Tables in a row. -/
def objectsOf : List (List (String × Node)) → List Json
  | [] => []
  | entries :: rest => .object (fieldsOf entries) :: objectsOf rest

end

/-- Puts a node under a key, in place of what was there. -/
def put (key : String) (node : Node) : Entries → Entries
  | [] => [(key, node)]
  | entry :: rest => if entry.1 = key then (key, node) :: rest else entry :: put key node rest

/-- Changes the table at the end of a path, and is told whether that table is dotted. Tables that
are missing on the way are made; of tables in a row the last one is meant. A dotted path does not
lead through a table that has a header. -/
def descend (dotted : Bool) (change : Bool → Entries → Option Entries) :
    List String → Bool → Entries → Option Entries
  | [], isDotted, entries => change isDotted entries
  | key :: rest, _, entries =>
    match entries.lookup key with
    | none => do
      let inner ← descend dotted change rest dotted []
      return put key (.table true dotted inner) entries
    | some (.value _) => none
    | some (.tables items) => do
      let inner ← descend dotted change rest false (items.getLastD [])
      return put key (.tables (items.dropLast ++ [inner])) entries
    | some (.table implicit isDotted inner) => do
      if dotted && !implicit then none
      let inner ← descend dotted change rest isDotted inner
      return put key (.table implicit isDotted inner) entries

/-- Adds a key that must be new. A key behind a dotted path goes into a dotted table only. -/
def define (path : List String) (key : String) (value : Json) (entries : Entries) :
    Option Entries :=
  descend true (fun isDotted entries =>
    if isDotted = path.isEmpty || (entries.lookup key).isSome then none
    else some (entries ++ [(key, .value value)])) path false entries

/-- Opens a table by its header. -/
def openTable (key : String) (entries : Entries) : Option Entries :=
  match entries.lookup key with
  | none => some (put key (.table false false []) entries)
  | some (.table true false inner) => some (put key (.table false false inner) entries)
  | _ => none

/-- Opens one more table of a row by its header. -/
def appendTable (key : String) (entries : Entries) : Option Entries :=
  match entries.lookup key with
  | none => some (put key (.tables [[]]) entries)
  | some (.tables items) => some (put key (.tables (items ++ [[]])) entries)
  | _ => none

end SourceFacts.Toml

import SourceFacts.Edit
import SourceFacts.Fact
import SourceFacts.Json.Record
import SourceFacts.Task

/-!
The written form of facts, edits and tasks. Each record has a writer `toJson` and a reader
`ofJson?`; offsets are 64-bit words and lines 32-bit words.
-/
namespace SourceFacts

/-- Offsets and counts lie below this bound. -/
def wordBound : Nat := Nat.pow 2 64

/-- Lines lie below this bound. -/
def lineBound : Nat := Nat.pow 2 32

/-- Reads an offset or a count. -/
def readWord : Json → Option Nat := Json.toNat? wordBound

/-- Reads a line. -/
def readLine : Json → Option Nat := Json.toNat? lineBound

namespace Position

def toJson (position : Position) : Json :=
  .object [("row", .nat position.row), ("column", .nat position.column)]

def ofJson? (json : Json) : Option Position := do
  match ← json.components? ["row", "column"] with
  | [row, column] => return ⟨← Json.required readWord row, ← Json.required readWord column⟩
  | _ => none

end Position

namespace Edit

def toJson (edit : Edit) : Json :=
  .object [("change_start", .nat edit.start), ("change_end", .nat edit.stop),
    ("new_text", .string edit.text)]

def ofJson? (json : Json) : Option Edit := do
  match ← json.components? ["change_start", "change_end", "new_text"] with
  | [start, stop, text] =>
    return ⟨← Json.required readWord start, ← Json.required readWord stop,
      ← Json.required Json.toText? text⟩
  | _ => none

end Edit

namespace EditSpan

def toJson (span : EditSpan) : Json :=
  .object [("start_index", .nat span.start), ("old_end_index", .nat span.oldStop),
    ("new_end_index", .nat span.newStop), ("start_position", span.startAt.toJson),
    ("old_end_position", span.oldStopAt.toJson), ("new_end_position", span.newStopAt.toJson)]

def ofJson? (json : Json) : Option EditSpan := do
  match ← json.components? ["start_index", "old_end_index", "new_end_index", "start_position",
      "old_end_position", "new_end_position"] with
  | [start, oldStop, newStop, startAt, oldStopAt, newStopAt] =>
    return ⟨← Json.required readWord start, ← Json.required readWord oldStop,
      ← Json.required readWord newStop, ← Json.required Position.ofJson? startAt,
      ← Json.required Position.ofJson? oldStopAt, ← Json.required Position.ofJson? newStopAt⟩
  | _ => none

end EditSpan

namespace ImportFact

def toJson (fact : ImportFact) : Json :=
  .object [("source", .string fact.source), ("line", .nat fact.line)]

def ofJson? (json : Json) : Option ImportFact := do
  match ← json.components? ["source", "line"] with
  | [source, line] =>
    return ⟨← Json.required Json.toText? source, ← Json.required readLine line⟩
  | _ => none

end ImportFact

namespace ExportFact

def toJson (fact : ExportFact) : Json :=
  .object [("name", .string fact.name), ("kind", .string fact.kind.word), ("line", .nat fact.line)]

def ofJson? (json : Json) : Option ExportFact := do
  match ← json.components? ["name", "kind", "line"] with
  | [name, kind, line] =>
    return ⟨← Json.required Json.toText? name,
      ← Json.required (Json.caseOf ExportKind.ofWord?) kind, ← Json.required readLine line⟩
  | _ => none

end ExportFact

namespace FunctionFact

def toJson (fact : FunctionFact) : Json :=
  .object [("name", .string fact.name), ("kind", .string fact.kind.word), ("line", .nat fact.line)]

def ofJson? (json : Json) : Option FunctionFact := do
  match ← json.components? ["name", "kind", "line"] with
  | [name, kind, line] =>
    return ⟨← Json.required Json.toText? name,
      ← Json.required (Json.caseOf FunctionKind.ofWord?) kind, ← Json.required readLine line⟩
  | _ => none

end FunctionFact

namespace Facts

def toJson (facts : Facts) : Json :=
  .object [("imports", .ofList ImportFact.toJson facts.imports),
    ("exports", .ofList ExportFact.toJson facts.exports),
    ("functions", .ofList FunctionFact.toJson facts.functions)]

def ofJson? (json : Json) : Option Facts := do
  match ← json.components? ["imports", "exports", "functions"] with
  | [imports, exports, functions] =>
    return ⟨← Json.required (Json.listOf ImportFact.ofJson?) imports,
      ← Json.required (Json.listOf ExportFact.ofJson?) exports,
      ← Json.required (Json.listOf FunctionFact.ofJson?) functions⟩
  | _ => none

end Facts

namespace Task

def toJson (task : Task) : Json :=
  .object [("file_path", .string task.path), ("content", .string task.content),
    ("language", .ofOption .string task.language)]

def ofJson? (json : Json) : Option Task := do
  match ← json.components? ["file_path", "content", "language"] with
  | [path, content, language] =>
    return ⟨← Json.required Json.toText? path, ← Json.required Json.toText? content,
      ← Json.optional Json.toText? language⟩
  | _ => none

end Task

namespace TaskResult

/-- A result without an error has no field for one. -/
def toJson (result : TaskResult) : Json :=
  .object ([("file_path", .string result.path), ("result", result.facts.toJson),
      ("duration_ms", .float result.duration)]
    ++ match result.error with
      | some error => [("error", .string error)]
      | none => [])

def ofJson? (json : Json) : Option TaskResult := do
  match ← json.components? ["file_path", "result", "duration_ms", "error"] with
  | [path, facts, duration, error] =>
    return ⟨← Json.required Json.toText? path, ← Json.required Facts.ofJson? facts,
      ← Json.required Json.toFloat? duration, ← Json.optional Json.toText? error⟩
  | _ => none

end TaskResult

end SourceFacts

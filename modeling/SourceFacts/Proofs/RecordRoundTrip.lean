import SourceFacts.Config
import SourceFacts.Proofs.JsonSpelling
import SourceFacts.Proofs.WellFormedFacts

/-! Records read back. Each record is written as an object that its own reader takes apart again: a field
is found under its name, lists are read item by item, a kind by its word, and a missing value from null or
from no field at all. Together with the texts of values this holds for the texts of records. -/
namespace SourceFacts

/-! ## Parts of records -/

namespace Json

variable {α : Type}

theorem uniqueField?_of_nodup {fields : List (String × Json)} (distinct : (fields.map Prod.fst).Nodup)
    (name : String) : uniqueField? fields name = some (fields.lookup name) := by
  induction fields with
  | nil => rfl
  | cons field fields ih =>
    obtain ⟨first, value⟩ := field
    rw [List.map_cons, List.nodup_cons] at distinct
    by_cases same : first = name
    · subst same
      have others : fields.filter (fun field => field.1 = first) = [] := by
        rw [List.filter_eq_nil_iff]
        intro other member named
        exact distinct.1 (List.mem_map.mpr ⟨other, member, of_decide_eq_true named⟩)
      simp [uniqueField?, others]
    · have skipped : uniqueField? ((first, value) :: fields) name = uniqueField? fields name := by
        simp [uniqueField?, same]
      have other : (name == first) = false := beq_false_of_ne (Ne.symm same)
      rw [skipped, ih distinct.2, List.lookup_cons, other]

theorem components?_object {fields : List (String × Json)} (distinct : (fields.map Prod.fst).Nodup)
    (names : List String) :
    components? names (.object fields) = some (names.map fun name => fields.lookup name) := by
  rw [components?]
  induction names with
  | nil => rfl
  | cons name names ih => rw [List.mapM_cons, uniqueField?_of_nodup distinct, ih]; rfl

theorem optionalComponents?_object {fields : List (String × Json)}
    (distinct : (fields.map Prod.fst).Nodup) (names : List String) :
    optionalComponents? names (.object fields) = some (names.map fun name => fields.lookup name) :=
  components?_object distinct names

theorem toNat?_nat {bound value : Nat} (small : value < bound) : toNat? bound (.nat value) = some value :=
  if_pos small

theorem nullable_string (text : Option String) : nullable toText? (.ofOption .string text) = some text := by
  cases text with
  | none => rfl
  | some text => rfl

theorem nullable_nat {bound : Nat} {value : Option Nat} (small : ∀ word ∈ value, word < bound) :
    nullable (toNat? bound) (.ofOption .nat value) = some value := by
  cases value with
  | none => rfl
  | some word => exact congrArg (Option.map some) (toNat?_nat (small word rfl))

theorem listOf_ofList {read : Json → Option α} {write : α → Json} {items : List α}
    (reads : ∀ item ∈ items, read (write item) = some item) :
    listOf read (.ofList write items) = some items := by
  change (items.map write).mapM read = some items
  induction items with
  | nil => rfl
  | cons item items ih =>
    rw [List.forall_mem_cons] at reads
    rw [List.map_cons, List.mapM_cons, reads.1, ih reads.2]
    rfl

end Json

theorem ExportKind.ofWord?_word (kind : ExportKind) : ofWord? kind.word = some kind := by
  cases kind <;> decide

theorem FunctionKind.ofWord?_word (kind : FunctionKind) : ofWord? kind.word = some kind := by
  cases kind <;> decide

/-! ## Records -/

/-- Numbers below the bound of offsets and counts. -/
def AreWords (words : List Nat) : Prop := ∀ word ∈ words, word < wordBound

theorem readWord_nat {value : Nat} (small : value < wordBound) : readWord (.nat value) = some value :=
  Json.toNat?_nat small

theorem readLine_nat {value : Nat} (small : value < lineBound) : readLine (.nat value) = some value :=
  Json.toNat?_nat small

def Position.words (position : Position) : List Nat := [position.row, position.column]

theorem Position.ofJson?_toJson {position : Position} (small : AreWords position.words) :
    ofJson? position.toJson = some position := by
  simp only [AreWords, words, List.forall_mem_cons] at small
  rw [ofJson?, toJson, Json.components?_object (by simp)]
  simp [List.lookup_cons, Json.required, readWord_nat, small]

def Edit.words (edit : Edit) : List Nat := [edit.start, edit.stop]

theorem Edit.ofJson?_toJson {edit : Edit} (small : AreWords edit.words) :
    ofJson? edit.toJson = some edit := by
  simp only [AreWords, words, List.forall_mem_cons] at small
  rw [ofJson?, toJson, Json.components?_object (by simp)]
  simp [List.lookup_cons, Json.required, Json.toText?, readWord_nat, small]

def EditSpan.positions (span : EditSpan) : List Position :=
  [span.startAt, span.oldStopAt, span.newStopAt]

def EditSpan.words (span : EditSpan) : List Nat :=
  [span.start, span.oldStop, span.newStop] ++ span.positions.flatMap Position.words

theorem EditSpan.areWords_positions {span : EditSpan} (small : AreWords span.words) :
    ∀ position ∈ span.positions, AreWords position.words := by
  intro position member word inPosition
  exact small word (List.mem_append_right _ (List.mem_flatMap.mpr ⟨position, member, inPosition⟩))

theorem EditSpan.ofJson?_toJson {span : EditSpan} (small : AreWords span.words) :
    ofJson? span.toJson = some span := by
  have positions : ∀ position ∈ span.positions, Position.ofJson? position.toJson = some position :=
    fun position member => Position.ofJson?_toJson (areWords_positions small position member)
  simp only [EditSpan.positions, List.forall_mem_cons] at positions
  simp only [AreWords, words, List.cons_append, List.forall_mem_cons] at small
  rw [ofJson?, toJson, Json.components?_object (by simp)]
  simp [List.lookup_cons, Json.required, readWord_nat, small, positions]

theorem ImportFact.ofJson?_toJson {fact : ImportFact} (small : fact.line < lineBound) :
    ofJson? fact.toJson = some fact := by
  rw [ofJson?, toJson, Json.components?_object (by simp)]
  simp [List.lookup_cons, Json.required, Json.toText?, readLine_nat, small]

theorem ExportFact.ofJson?_toJson {fact : ExportFact} (small : fact.line < lineBound) :
    ofJson? fact.toJson = some fact := by
  rw [ofJson?, toJson, Json.components?_object (by simp)]
  simp [List.lookup_cons, Json.required, Json.toText?, Json.caseOf, ExportKind.ofWord?_word, readLine_nat,
    small]

theorem FunctionFact.ofJson?_toJson {fact : FunctionFact} (small : fact.line < lineBound) :
    ofJson? fact.toJson = some fact := by
  rw [ofJson?, toJson, Json.components?_object (by simp)]
  simp [List.lookup_cons, Json.required, Json.toText?, Json.caseOf, FunctionKind.ofWord?_word, readLine_nat,
    small]

/-- Every line below the bound of lines. -/
def Facts.HasLines (facts : Facts) : Prop := ∀ line ∈ facts.lines, line < lineBound

theorem Facts.ofJson?_toJson {facts : Facts} (small : facts.HasLines) :
    ofJson? facts.toJson = some facts := by
  simp only [HasLines, lines, List.forall_mem_append, List.forall_mem_map] at small
  have imports := Json.listOf_ofList fun fact member => ImportFact.ofJson?_toJson (small.1.1 fact member)
  have exports := Json.listOf_ofList fun fact member => ExportFact.ofJson?_toJson (small.1.2 fact member)
  have functions := Json.listOf_ofList fun fact member => FunctionFact.ofJson?_toJson (small.2 fact member)
  rw [ofJson?, toJson, Json.components?_object (by simp)]
  simp [List.lookup_cons, Json.required, imports, exports, functions]

theorem Task.ofJson?_toJson (task : Task) : ofJson? task.toJson = some task := by
  rw [ofJson?, toJson, Json.components?_object (by simp)]
  simp [List.lookup_cons, Json.required, Json.toText?, Json.optional, Json.nullable_string]

theorem TaskResult.ofJson?_toJson {result : TaskResult} (small : result.facts.HasLines) :
    ofJson? result.toJson = some result := by
  have facts := Facts.ofJson?_toJson small
  obtain ⟨path, found, duration, error⟩ := result
  rw [ofJson?, toJson]
  cases error with
  | none =>
    rw [Json.components?_object (by simp)]
    simp [List.lookup_cons, Json.required, Json.toText?, Json.toFloat?, Json.optional, facts]
  | some message =>
    rw [Json.components?_object (by simp)]
    simp [List.lookup_cons, Json.required, Json.toText?, Json.toFloat?, Json.optional, Json.nullable, facts]

def CoordinatorOptions.words (options : CoordinatorOptions) : List Nat := [options.maxTrees]

theorem CoordinatorOptions.ofJson?_toJson {options : CoordinatorOptions} (small : AreWords options.words) :
    ofJson? options.toJson = some options := by
  simp only [AreWords, words, List.forall_mem_cons] at small
  rw [ofJson?, toJson, Json.optionalComponents?_object (by simp)]
  simp [List.lookup_cons, Json.withDefault, Json.toBool?, readWord_nat, small]

def PoolConfig.words (config : PoolConfig) : List Nat :=
  config.poolSize.toList ++ [config.minBatch, config.timeoutMs]

theorem PoolConfig.ofJson?_toJson {config : PoolConfig} (small : AreWords config.words) :
    ofJson? config.toJson = some config := by
  simp only [AreWords, words, List.forall_mem_append, List.forall_mem_cons, Option.mem_toList] at small
  have size : Json.nullable readWord (.ofOption .nat config.poolSize) = some config.poolSize :=
    Json.nullable_nat small.1
  rw [ofJson?, toJson, Json.optionalComponents?_object (by simp)]
  simp [List.lookup_cons, Json.withDefault, Json.toBool?, readWord_nat, size, small]

def Config.words (config : Config) : List Nat := config.parser.words ++ config.pool.words

theorem Config.ofJson?_toJson {config : Config} (small : AreWords config.words) :
    ofJson? config.toJson = some config := by
  simp only [AreWords, words, List.forall_mem_append] at small
  have parser := CoordinatorOptions.ofJson?_toJson small.1
  have pool := PoolConfig.ofJson?_toJson small.2
  rw [ofJson?, toJson, Json.optionalComponents?_object (by simp)]
  simp [List.lookup_cons, Json.withDefault, parser, pool]

/-! ## Texts of records -/

namespace Json

theorem Legible.noFields : Legible (.object []) := .object (List.forall_mem_nil _)

theorem Legible.field {name : String} {json : Json} {fields : List (String × Json)}
    (legible : json.Legible) (rest : Legible (.object fields)) :
    Legible (.object ((name, json) :: fields)) := by
  cases rest with
  | object each => exact .object (List.forall_mem_cons.mpr ⟨legible, each⟩)

theorem legible_nat {value : Nat} (small : value < wordBound) : Legible (.nat value) := by
  have most : value ≤ Number.significandMax := Nat.le_pred_of_lt small
  exact .int (by omega) (Int.ofNat_le.mpr most)

theorem legible_line {line : Nat} (small : line < lineBound) : Legible (.nat line) :=
  legible_nat (Nat.lt_trans small (by decide))

theorem legible_ofList {α : Type} {write : α → Json} {items : List α}
    (each : ∀ item ∈ items, Legible (write item)) : Legible (.ofList write items) :=
  .array (List.forall_mem_map.mpr each)

theorem legible_ofOption {α : Type} {write : α → Json} {value : Option α}
    (each : ∀ item ∈ value, Legible (write item)) : Legible (.ofOption write value) := by
  cases value with
  | none => exact .null
  | some item => exact each item rfl

end Json

open Json

theorem Position.legible {position : Position} (small : AreWords position.words) :
    position.toJson.Legible := by
  simp only [AreWords, words, List.forall_mem_cons] at small
  exact .field (legible_nat small.1) (.field (legible_nat small.2.1) .noFields)

theorem Edit.legible {edit : Edit} (small : AreWords edit.words) : edit.toJson.Legible := by
  simp only [AreWords, words, List.forall_mem_cons] at small
  exact .field (legible_nat small.1) (.field (legible_nat small.2.1) (.field (.string _) .noFields))

theorem EditSpan.legible {span : EditSpan} (small : AreWords span.words) : span.toJson.Legible := by
  have positions : ∀ position ∈ span.positions, position.toJson.Legible :=
    fun position member => Position.legible (areWords_positions small position member)
  simp only [EditSpan.positions, List.forall_mem_cons] at positions
  simp only [AreWords, words, List.cons_append, List.forall_mem_cons] at small
  refine .field (legible_nat small.1) (.field (legible_nat small.2.1) (.field (legible_nat small.2.2.1) ?_))
  exact .field positions.1 (.field positions.2.1 (.field positions.2.2.1 .noFields))

theorem Facts.legible {facts : Facts} (small : facts.HasLines) : facts.toJson.Legible := by
  simp only [HasLines, lines, List.forall_mem_append, List.forall_mem_map] at small
  obtain ⟨⟨imports, exports⟩, functions⟩ := small
  refine .field (legible_ofList fun fact member => ?_) (.field (legible_ofList fun fact member => ?_)
    (.field (legible_ofList fun fact member => ?_) .noFields))
  · exact .field (.string _) (.field (legible_line (imports fact member)) .noFields)
  · exact .field (.string _) (.field (.string _) (.field (legible_line (exports fact member)) .noFields))
  · exact .field (.string _) (.field (.string _) (.field (legible_line (functions fact member)) .noFields))

theorem Task.legible (task : Task) : task.toJson.Legible := by
  refine .field (.string _) (.field (.string _) (.field ?_ .noFields))
  exact legible_ofOption fun text _ => .string text

/-- The written form of a result with any value for its duration. -/
def TaskResult.timed (result : TaskResult) (duration : Json) : Json :=
  .object ([("file_path", .string result.path), ("result", result.facts.toJson), ("duration_ms", duration)]
    ++ match result.error with
      | some error => [("error", .string error)]
      | none => [])

theorem TaskResult.legible_timed {result : TaskResult} {duration : Json} (small : result.facts.HasLines)
    (legible : duration.Legible) : (result.timed duration).Legible := by
  refine .field (.string _) (.field (Facts.legible small) (.field legible ?_))
  cases result.error with
  | none => exact .noFields
  | some message => exact .field (.string _) .noFields

theorem TaskResult.legible {result : TaskResult} (small : result.facts.HasLines)
    (duration : LegibleFloat result.duration) : result.toJson.Legible :=
  legible_timed small (.float duration)

theorem CoordinatorOptions.legible {options : CoordinatorOptions} (small : AreWords options.words) :
    options.toJson.Legible := by
  simp only [AreWords, words, List.forall_mem_cons] at small
  exact .field (legible_nat small.1) (.field (.bool _) .noFields)

theorem PoolConfig.legible {config : PoolConfig} (small : AreWords config.words) :
    config.toJson.Legible := by
  simp only [AreWords, words, List.forall_mem_append, List.forall_mem_cons, Option.mem_toList] at small
  refine .field (legible_ofOption fun size given => legible_nat (small.1 size given)) ?_
  exact .field (legible_nat small.2.1) (.field (legible_nat small.2.2.1) (.field (.bool _) .noFields))

theorem Config.legible {config : Config} (small : AreWords config.words) : config.toJson.Legible := by
  simp only [AreWords, words, List.forall_mem_append] at small
  exact .field (CoordinatorOptions.legible small.1) (.field (PoolConfig.legible small.2) .noFields)

/-- A record is read from the value it is written to, and from both texts of that value. -/
structure ReadsBack {α : Type} (write : α → Json) (read : Json → Option α) (record : α) : Prop where
  fromValue : read (write record) = some record
  fromCompact : (Json.read? (write record).compact).bind read = some record
  fromPretty : (Json.read? (write record).pretty).bind read = some record

theorem ReadsBack.of_legible {α : Type} {write : α → Json} {read : Json → Option α} {record : α}
    (fromValue : read (write record) = some record) (legible : (write record).Legible) :
    ReadsBack write read record := by
  refine ⟨fromValue, ?_, ?_⟩
  · rw [read?_compact legible]
    exact fromValue
  · rw [read?_pretty legible]
    exact fromValue

/-! ## Missing fields -/

/-- A value without one of its fields. -/
def Json.without (json : Json) (name : String) : Json :=
  match json with
  | .object fields => .object (fields.filter fun field => field.1 ≠ name)
  | json => json

theorem Task.ofJson?_without {task : Task} (unnamed : task.language = none) :
    ofJson? (task.toJson.without "language") = some task := by
  obtain ⟨path, content, language⟩ := task
  cases unnamed
  rw [ofJson?, toJson, Json.without, Json.components?_object (by simp)]
  simp [List.lookup_cons, Json.required, Json.toText?, Json.optional]

theorem PoolConfig.ofJson?_without {config : PoolConfig} (small : AreWords config.words)
    (unset : config.poolSize = none) : ofJson? (config.toJson.without "pool_size") = some config := by
  obtain ⟨poolSize, minBatch, timeoutMs, logMetrics⟩ := config
  cases unset
  simp only [AreWords, words, List.forall_mem_append, List.forall_mem_cons] at small
  rw [ofJson?, toJson, Json.without, Json.optionalComponents?_object (by simp)]
  simp [List.lookup_cons, Json.withDefault, Json.toBool?, readWord_nat, small]

/-- The written form of settings that says nothing of the size of the pool. -/
def Config.withoutPoolSize (config : Config) : Json :=
  .object [("parser", config.parser.toJson), ("pool", config.pool.toJson.without "pool_size")]

theorem Config.ofJson?_withoutPoolSize {config : Config} (small : AreWords config.words)
    (unset : config.pool.poolSize = none) : ofJson? config.withoutPoolSize = some config := by
  simp only [AreWords, words, List.forall_mem_append] at small
  have parser := CoordinatorOptions.ofJson?_toJson small.1
  have pool := PoolConfig.ofJson?_without small.2 unset
  rw [ofJson?, withoutPoolSize, Json.optionalComponents?_object (by simp)]
  simp [List.lookup_cons, Json.withDefault, parser, pool]

theorem TaskResult.field?_error (result : TaskResult) :
    result.toJson.field? "error" = result.error.map .string := by
  rw [toJson, Json.field?]
  cases result.error with
  | none => simp [List.lookup_cons]
  | some message => simp

/-- Null is no duration. -/
theorem TaskResult.ofJson?_timed_null (result : TaskResult) : ofJson? (result.timed .null) = none := by
  rw [ofJson?, timed]
  cases result.error with
  | none =>
    rw [Json.components?_object (by simp)]
    simp [List.lookup_cons, Json.required, Json.toFloat?]
  | some message =>
    rw [Json.components?_object (by simp)]
    simp [List.lookup_cons, Json.required, Json.toFloat?]

/-- A duration that is no finite number is written as null. -/
theorem TaskResult.texts_timed_null {result : TaskResult}
    (infinite : (result.duration.isNaN || result.duration.isInf) = true) :
    result.toJson.compact = (result.timed .null).compact ∧
      result.toJson.pretty = (result.timed .null).pretty := by
  have null : (Json.float result.duration).scalar = Json.null.scalar := if_pos infinite
  rw [toJson, timed]
  cases result.error with
  | none => simp [Json.compact, Json.compactFields, Json.pretty, Json.indented, Json.indentedFields, null]
  | some message =>
    simp [Json.compact, Json.compactFields, Json.pretty, Json.indented, Json.indentedFields, null]

theorem TaskResult.infinite_unreadable {result : TaskResult} (small : result.facts.HasLines)
    (infinite : (result.duration.isNaN || result.duration.isInf) = true) :
    (Json.read? result.toJson.compact).bind ofJson? = none ∧
      (Json.read? result.toJson.pretty).bind ofJson? = none := by
  obtain ⟨compact, pretty⟩ := texts_timed_null infinite
  have legible := legible_timed small .null
  rw [compact, pretty, read?_compact legible, read?_pretty legible]
  exact ⟨ofJson?_timed_null result, ofJson?_timed_null result⟩

/-- **Records read back.** Facts, edits, spans of edits, tasks, settings and results are read from what
they are written to, and from its texts on one line and on many: the record comes back that was written,
however many facts of whatever kinds it has. Offsets, counts and lines have to be words of their size. A
language or a size of the pool that is not there is written as null and read as well where its field is
left out. A result has a field for an error exactly where it has an error, an empty one included; its
texts read back if the text of its duration does, and do not where the duration is no finite number. -/
theorem records_read_back :
    (∀ facts : Facts, facts.HasLines → ReadsBack Facts.toJson Facts.ofJson? facts) ∧
    (∀ edit : Edit, AreWords edit.words → ReadsBack Edit.toJson Edit.ofJson? edit) ∧
    (∀ span : EditSpan, AreWords span.words → ReadsBack EditSpan.toJson EditSpan.ofJson? span) ∧
    (∀ task : Task, ReadsBack Task.toJson Task.ofJson? task ∧
      (task.language = none → Task.ofJson? (task.toJson.without "language") = some task)) ∧
    (∀ config : Config, AreWords config.words → ReadsBack Config.toJson Config.ofJson? config ∧
      (config.pool.poolSize = none → Config.ofJson? config.withoutPoolSize = some config)) ∧
    (∀ result : TaskResult, result.facts.HasLines →
      TaskResult.ofJson? result.toJson = some result ∧
      result.toJson.field? "error" = result.error.map .string ∧
      (LegibleFloat result.duration → ReadsBack TaskResult.toJson TaskResult.ofJson? result) ∧
      ((result.duration.isNaN || result.duration.isInf) = true →
        (Json.read? result.toJson.compact).bind TaskResult.ofJson? = none ∧
          (Json.read? result.toJson.pretty).bind TaskResult.ofJson? = none)) := by
  refine ⟨?_, ?_, ?_, ?_, ?_, ?_⟩
  · intro facts small
    exact .of_legible (Facts.ofJson?_toJson small) (Facts.legible small)
  · intro edit small
    exact .of_legible (Edit.ofJson?_toJson small) (Edit.legible small)
  · intro span small
    exact .of_legible (EditSpan.ofJson?_toJson small) (EditSpan.legible small)
  · intro task
    exact ⟨.of_legible (Task.ofJson?_toJson task) (Task.legible task), Task.ofJson?_without⟩
  · intro config small
    exact ⟨.of_legible (Config.ofJson?_toJson small) (Config.legible small),
      Config.ofJson?_withoutPoolSize small⟩
  · intro result small
    have fromValue := TaskResult.ofJson?_toJson small
    exact ⟨fromValue, TaskResult.field?_error result,
      fun duration => .of_legible fromValue (TaskResult.legible small duration),
      TaskResult.infinite_unreadable small⟩

/-- A result with facts of every kind, a duration with a fraction and an empty error. -/
theorem empty_error_reads_back :
    let result : TaskResult :=
      ⟨"a.ts", ⟨[⟨"fs", 1⟩], ExportKind.all.map fun kind => ⟨"x", kind, 2⟩,
        FunctionKind.all.map fun kind => ⟨"y", kind, 3⟩⟩, 12.25, some ""⟩
    result.facts.HasLines ∧ LegibleFloat result.duration ∧
      ReadsBack TaskResult.toJson TaskResult.ofJson? result ∧
      result.toJson.field? "error" = some (.string "") := by
  intro result
  have lines : result.facts.HasLines := by
    rw [Facts.HasLines]
    decide +kernel
  have legible : LegibleFloat result.duration := by
    have text : Decimal.plain 12.25 = "12.25" := by decide +kernel
    have scaled : Number.float? ⟨false, [1, 2], some [2, 5], none⟩ = some 12.25 := by decide +kernel
    refine ⟨by decide +kernel, ?_⟩
    change Reader.number (Decimal.plain 12.25).toList = _
    rw [text]
    change some (Number.value ⟨false, [1, 2], some [2, 5], none⟩, ([] : List Char)) = _
    simp [Number.value, scaled, result]
  obtain ⟨-, error, reads, -⟩ := records_read_back.2.2.2.2.2 result lines
  exact ⟨lines, legible, reads legible, error⟩

end SourceFacts

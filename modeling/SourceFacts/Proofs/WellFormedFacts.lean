import Mathlib.Data.List.DropRight
import SourceFacts.Language
import SourceFacts.Parser
import SourceFacts.Proofs.NormalForm
import SourceFacts.Record

/-! The facts of every text are well formed, whatever the tree of the text and the queries of a grammar.
Matches come in any order, several of them may stand for one fact, and the texts and offsets of nodes are
taken as they are; order, lines and paths are put right where matches become facts. -/
namespace SourceFacts

/-! ## Well-formed facts -/

/-- How many line ends a text has. -/
def Text.lineEnds (text : String) : Nat :=
  (bytes text).count newline

/-- The marks that no module path starts or ends with. -/
def quotationMarks : List Char := ['"', '\x27', '\x60']

namespace Facts

/-- The lines of all facts. -/
def lines (facts : Facts) : List Nat :=
  facts.imports.map ImportFact.line ++ facts.exports.map ExportFact.line ++
    facts.functions.map FunctionFact.line

/-- Each list is in order of line and name. Imports are in strict order; of the others, two may have one
line and one name, but neighbours differ. Module paths are there and without quotes at their ends, and
lines are lines of the text. -/
structure WellFormed (text : String) (facts : Facts) : Prop where
  importsIncrease : facts.imports.Pairwise fun a b =>
    a.line < b.line ∨ a.line = b.line ∧ Text.bytes a.source < Text.bytes b.source
  exportsOrdered : facts.exports.Pairwise fun a b =>
    a.line < b.line ∨ a.line = b.line ∧ Text.bytes a.name ≤ Text.bytes b.name
  exportsApart : facts.exports.IsChain (· ≠ ·)
  functionsOrdered : facts.functions.Pairwise fun a b =>
    a.line < b.line ∨ a.line = b.line ∧ Text.bytes a.name ≤ Text.bytes b.name
  functionsApart : facts.functions.IsChain (· ≠ ·)
  paths : ∀ fact ∈ facts.imports, fact.source ≠ "" ∧ ∀ quote ∈ quotationMarks,
    fact.source.toList.head? ≠ some quote ∧ fact.source.toList.getLast? ≠ some quote
  inText : ∀ line ∈ facts.lines, 1 ≤ line ∧ line ≤ 1 + Text.lineEnds text

end Facts

theorem FactKey.le_iff {a b : FactKey} :
    a.le b = true ↔ a.line < b.line ∨ a.line = b.line ∧ a.name ≤ b.name := by
  simp [le]

theorem FactKey.le_eq_false_iff {a b : FactKey} :
    b.le a = false ↔ a.line < b.line ∨ a.line = b.line ∧ a.name < b.name := by
  rw [← Bool.not_eq_true, le_iff, not_or, not_and, List.not_le]
  constructor
  · rintro ⟨above, names⟩
    rcases Nat.lt_or_eq_of_le (Nat.le_of_not_lt above) with less | same
    · exact .inl less
    · exact .inr ⟨same, names same.symm⟩
  · rintro (less | ⟨same, names⟩)
    · exact ⟨by omega, by omega⟩
    · exact ⟨by omega, fun _ => names⟩

namespace Grammar

variable {grammar : Grammar} {tree : SyntaxTree} {text : String}

/-! ## Lines -/

theorem lineOf_mono {earlier later : Nat} (before : earlier ≤ later) :
    lineOf text earlier ≤ lineOf text later := by
  apply Nat.succ_le_succ
  apply List.Sublist.count_le
  exact (List.take_prefix_take_left before).sublist

theorem lineOf_le (offset : Nat) : lineOf text offset ≤ 1 + Text.lineEnds text := by
  rw [lineOf, Nat.add_comm]
  apply Nat.add_le_add_left
  exact List.Sublist.count_le _ (List.take_sublist _ _)

/-! ## Paths without quotes -/

theorem toList_unquote (text : String) :
    (unquote text).toList = (text.toList.dropWhile isQuote).rdropWhile isQuote :=
  String.toList_ofList

theorem unquote_first {first : Char} (starts : (unquote text).toList.head? = some first) :
    isQuote first = false := by
  rw [toList_unquote] at starts
  obtain ⟨dropped, whole⟩ := List.rdropWhile_prefix isQuote (text.toList.dropWhile isQuote)
  have first_kept : (text.toList.dropWhile isQuote).head? = some first := by
    rw [← whole, List.head?_append, starts, Option.some_or]
  have kept := List.head?_dropWhile_not isQuote text.toList
  rwa [first_kept] at kept

theorem unquote_last {last : Char} (ends : (unquote text).toList.getLast? = some last) :
    isQuote last = false := by
  rw [toList_unquote] at ends
  have some_left : (text.toList.dropWhile isQuote).rdropWhile isQuote ≠ [] := by
    intro none_left
    rw [none_left] at ends
    cases ends
  have kept := List.rdropWhile_last_not isQuote _ some_left
  rw [List.getLast?_eq_getLast_of_ne_nil some_left, Option.some.injEq] at ends
  rwa [ends, Bool.not_eq_true] at kept

theorem isQuote_iff {c : Char} : isQuote c = true ↔ c ∈ quotationMarks := by
  simp [isQuote, quotationMarks, or_assoc]

/-! ## Facts and the matches they come from -/

theorem mem_imports {fact : ImportFact} : fact ∈ (grammar.extract tree text).imports ↔
    ∃ captures ∈ grammar.found grammar.imports tree text,
      ∃ capture ∈ captures, importFact? text capture = some fact := by
  refine ((arrange_arranges ImportFact.key _).members fact).trans ?_
  simp only [List.mem_flatMap, List.mem_filterMap]

theorem mem_exports {fact : ExportFact} : fact ∈ (grammar.extract tree text).exports ↔
    ∃ captures ∈ grammar.found grammar.exports tree text,
      grammar.exportFact? text captures = some fact :=
  ((arrange_arranges ExportFact.key _).members fact).trans List.mem_filterMap

theorem mem_functions {fact : FunctionFact} : fact ∈ (grammar.extract tree text).functions ↔
    ∃ captures ∈ grammar.found grammar.functions tree text,
      grammar.functionFact? text captures = some fact :=
  ((arrange_arranges FunctionFact.key _).members fact).trans List.mem_filterMap

theorem importFact?_eq_some {capture : String × Place} {fact : ImportFact} :
    importFact? text capture = some fact ↔ (capture.1 = "source" ∧ unquote (capture.2.text text) ≠ "") ∧
      fact = ⟨unquote (capture.2.text text), lineOf text capture.2.start⟩ := by
  simp [importFact?, eq_comm (a := fact)]

/-- An export is what the named nodes of a match declare, under the name by which it is exported. -/
theorem exportFact?_eq_some {captures : Captures} {fact : ExportFact} :
    grammar.exportFact? text captures = some fact ↔ ∃ place,
      (Declared.ofCaptures exportKind? text captures).declaration = some (fact.kind, place) ∧
        exportName? (Declared.ofCaptures exportKind? text captures).name fact.kind = some fact.name ∧
          grammar.isExported fact.name place text = true ∧ fact.line = lineOf text place.start := by
  simp only [exportFact?, Option.bind_eq_bind, Option.bind_eq_some_iff, Option.ite_none_right_eq_some,
    Option.some.injEq]
  constructor
  · rintro ⟨⟨kind, place⟩, declared, name, named, exported, rfl⟩
    exact ⟨place, declared, named, exported, rfl⟩
  · rintro ⟨place, declared, named, exported, line⟩
    refine ⟨(fact.kind, place), declared, fact.name, named, exported, ?_⟩
    rw [← line]

theorem functionFact?_eq_some {captures : Captures} {fact : FunctionFact} :
    grammar.functionFact? text captures = some fact ↔ ∃ place,
      Declared.ofCaptures grammar.functionKind? text captures =
        ⟨some fact.name, some (fact.kind, place)⟩ ∧ fact.line = lineOf text place.start := by
  simp only [functionFact?, Option.bind_eq_bind, Option.bind_eq_some_iff, Option.pure_def,
    Option.some.injEq]
  constructor
  · rintro ⟨name, named, ⟨kind, place⟩, declared, rfl⟩
    exact ⟨place, by rw [← named, ← declared], rfl⟩
  · rintro ⟨place, declared, line⟩
    rw [declared]
    exact ⟨fact.name, rfl, (fact.kind, place), rfl, by rw [← line]⟩

theorem path_of_import {fact : ImportFact} (member : fact ∈ (grammar.extract tree text).imports) :
    fact.source ≠ "" ∧ ∀ quote ∈ quotationMarks,
      fact.source.toList.head? ≠ some quote ∧ fact.source.toList.getLast? ≠ some quote := by
  obtain ⟨captures, -, capture, -, made⟩ := mem_imports.mp member
  obtain ⟨⟨-, nonempty⟩, rfl⟩ := importFact?_eq_some.mp made
  refine ⟨nonempty, fun quote mark => ⟨fun starts => ?_, fun ends => ?_⟩⟩
  · rw [← isQuote_iff, unquote_first starts] at mark
    cases mark
  · rw [← isQuote_iff, unquote_last ends] at mark
    cases mark

/-- What is exported has passed the test of the grammar. -/
theorem isExported_of_export {fact : ExportFact}
    (member : fact ∈ (grammar.extract tree text).exports) :
    ∃ place, grammar.isExported fact.name place text = true := by
  obtain ⟨captures, -, made⟩ := mem_exports.mp member
  obtain ⟨place, -, -, exported, -⟩ := exportFact?_eq_some.mp made
  exact ⟨place, exported⟩

/-- Every fact stands in the line of some offset. -/
theorem lines_of_facts {line : Nat} (member : line ∈ (grammar.extract tree text).lines) :
    ∃ offset, line = lineOf text offset := by
  rw [Facts.lines, List.mem_append, List.mem_append, List.mem_map, List.mem_map, List.mem_map] at member
  rcases member with (⟨fact, found, rfl⟩ | ⟨fact, found, rfl⟩) | ⟨fact, found, rfl⟩
  · obtain ⟨captures, -, capture, -, made⟩ := mem_imports.mp found
    obtain ⟨-, rfl⟩ := importFact?_eq_some.mp made
    exact ⟨_, rfl⟩
  · obtain ⟨captures, -, made⟩ := mem_exports.mp found
    obtain ⟨place, -, -, -, line⟩ := exportFact?_eq_some.mp made
    exact ⟨_, line⟩
  · obtain ⟨captures, -, made⟩ := mem_functions.mp found
    obtain ⟨place, -, line⟩ := functionFact?_eq_some.mp made
    exact ⟨_, line⟩

theorem extract_wellFormed (grammar : Grammar) (tree : SyntaxTree) (text : String) :
    (grammar.extract tree text).WellFormed text where
  importsIncrease :=
    (arrange_increasing (fun _ _ => ImportFact.key_eq_iff.mp) _).imp FactKey.le_eq_false_iff.mp
  exportsOrdered := (arrange_arranges ExportFact.key _).ordered.imp FactKey.le_iff.mp
  exportsApart := (arrange_arranges ExportFact.key _).apart
  functionsOrdered := (arrange_arranges FunctionFact.key _).ordered.imp FactKey.le_iff.mp
  functionsApart := (arrange_arranges FunctionFact.key _).apart
  paths _ := path_of_import
  inText line member := by
    obtain ⟨offset, rfl⟩ := lines_of_facts member
    exact ⟨Nat.succ_pos _, lineOf_le offset⟩

/-- **The facts of every text are well formed.** Every grammar reads every text. The imports it gives
increase strictly by line and path; exports and functions are in order of line and name, and no two that
stand together are equal. No path is empty or starts or ends with a quotation mark. Each line is one of
the lines of the text, so where these are counted in words of 32 bits, it is such a word. What Go exports
starts with an upper-case letter, and nothing that Python exports starts with an underscore. -/
theorem every_text_gives_well_formed_facts (grammar : Grammar) (text path : String) :
    ∃ parsed, grammar.parser.parse text path = .ok parsed ∧
      parsed.facts.WellFormed text ∧
      (Text.lineEnds text < lineBound - 1 → ∀ line ∈ parsed.facts.lines, line < lineBound) ∧
      (grammar.isExported = go.isExported → ∀ fact ∈ parsed.facts.exports,
        ∃ first, fact.name.toList.head? = some first ∧ Text.isUppercase first = true) ∧
      (grammar.isExported = python.isExported →
        ∀ fact ∈ parsed.facts.exports, fact.name.toList.head? ≠ some '_') := by
  have wellFormed := extract_wellFormed grammar (grammar.engine.tree text) text
  refine ⟨grammar.parsed text, rfl, wellFormed, ?_, ?_, ?_⟩
  · intro few line member
    have inside := wellFormed.inText line member
    omega
  · intro asGo fact member
    obtain ⟨place, exported⟩ := isExported_of_export member
    simpa [asGo, go, Go.isCapitalized, Option.any_eq_true] using exported
  · intro asPython fact member
    obtain ⟨place, exported⟩ := isExported_of_export member
    simpa [asPython, python] using exported

/-- Three imports in one line, one of them twice: two are left, in order, and of two functions the one
with a small letter is no export. -/
theorem repeated_import_well_formed :
    let text := "import \"fmt\"; import \"fmt\"; import \"os\"\n\nfunc Run() \x7b\x7d\nfunc walk() \x7b\x7d\n"
    ∃ parsed, go.parser.parse text "main.go" = .ok parsed ∧ parsed.facts.WellFormed text ∧
      parsed.facts = ⟨[⟨"fmt", 1⟩, ⟨"os", 1⟩], [⟨"Run", .function, 3⟩],
        [⟨"Run", .function, 3⟩, ⟨"walk", .function, 4⟩]⟩ ∧
      Text.lineEnds text < lineBound - 1 ∧ (∀ line ∈ parsed.facts.lines, line < lineBound) ∧
      ∃ first, "Run".toList.head? = some first ∧ Text.isUppercase first = true := by
  intro text
  obtain ⟨parsed, read, wellFormed, fits, capital, -⟩ :=
    every_text_gives_well_formed_facts go text "main.go"
  have facts : parsed.facts = ⟨[⟨"fmt", 1⟩, ⟨"os", 1⟩], [⟨"Run", .function, 3⟩],
      [⟨"Run", .function, 3⟩, ⟨"walk", .function, 4⟩]⟩ := by
    let tree := go.engine.tree text
    have imports : (go.found go.imports tree text).flatMap (fun captures =>
        captures.filterMap (importFact? text)) = [⟨"fmt", 1⟩, ⟨"fmt", 1⟩, ⟨"os", 1⟩] := by
      decide +kernel
    have exports : (go.found go.exports tree text).filterMap (go.exportFact? text) =
        [⟨"Run", .function, 3⟩] := by decide +kernel
    have functions : (go.found go.functions tree text).filterMap (go.functionFact? text) =
        [⟨"Run", .function, 3⟩, ⟨"walk", .function, 4⟩] := by decide +kernel
    rw [← Except.ok.inj read, Grammar.parsed, Grammar.extract, imports, exports, functions,
      Facts.normalize, arrange_of_sorted (by decide), arrange_of_sorted (by decide),
      arrange_of_sorted (by decide)]
    decide
  have few : Text.lineEnds text < lineBound - 1 := by decide +kernel
  refine ⟨parsed, read, wellFormed, facts, few, fits few, ?_⟩
  exact capital rfl ⟨"Run", .function, 3⟩ (by rw [facts]; exact List.mem_singleton_self _)

end Grammar

end SourceFacts

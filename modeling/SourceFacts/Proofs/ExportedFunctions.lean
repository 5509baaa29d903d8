import SourceFacts.Proofs.WellFormedFacts

/-! Exported functions are functions. Exports and functions are asked for by different queries, and an
export may be found at another node than the function it makes known: at the statement that exports it, or
at its first decorator. In every tree, each exported function has a declaration that the query for functions
fits as well, and it starts where the export does or behind it. All that is asked of an engine is that it
finds exactly what queries match. -/
namespace SourceFacts

/-! ## What fits a shape -/

namespace Shape

variable {place : Place} {captures : Captures}

theorem fits_node {kind field : Option String} {names : List String} {shapes : List Shape} :
    Fits (node kind field names shapes) place captures ↔
      accepts kind field place.node.head = true ∧ ∃ inner,
        FitsAmong shapes place place.node.children inner ∧ captures = names.map (·, place) ++ inner := by
  constructor
  · intro fits
    cases fits with
    | node accepted inside => exact ⟨accepted, _, inside, rfl⟩
  · rintro ⟨accepted, inner, inside, rfl⟩
    exact .node accepted inside

/-- Of several shapes the first fits one of the nodes, and the others fit some of them. -/
theorem FitsAmong.uncons {shape : Shape} {shapes : List Shape} {nodes : List SyntaxTree}
    (fits : FitsAmong (shape :: shapes) place nodes captures) :
    ∃ first others, captures = first ++ others ∧
      (∃ child ∈ nodes, shape.Fits (place.below child) first) ∧ FitsAmong shapes place nodes others := by
  induction nodes with
  | nil => cases fits
  | cons child rest ih =>
    cases fits with
    | pass later =>
      obtain ⟨first, others, rfl, ⟨found, member, fits⟩, among⟩ := ih later
      exact ⟨first, others, rfl, ⟨found, List.mem_cons_of_mem _ member, fits⟩, .pass among⟩
    | take fits later => exact ⟨_, _, rfl, ⟨child, List.mem_cons_self, fits⟩, .pass later⟩

theorem fitsAmong_nil {nodes : List SyntaxTree} (fits : FitsAmong [] place nodes captures) :
    captures = [] := by
  induction nodes with
  | nil => cases fits; rfl
  | cons child rest ih =>
    cases fits with
    | none => rfl
    | pass later => exact ih later

theorem fitsAmong_singleton {shape : Shape} {nodes : List SyntaxTree} :
    FitsAmong [shape] place nodes captures ↔ ∃ child ∈ nodes, shape.Fits (place.below child) captures := by
  constructor
  · intro fits
    obtain ⟨first, others, rfl, found, among⟩ := fits.uncons
    rw [fitsAmong_nil among, List.append_nil]
    exact found
  · rintro ⟨child, member, fits⟩
    induction nodes with
    | nil => cases member
    | cons other rest ih =>
      rcases List.mem_cons.mp member with rfl | later
      · simpa using FitsAmong.take fits (FitsAmong.none : FitsAmong [] place rest [])
      · exact .pass (ih later)

/-- What fits a shape with one shape below it. -/
theorem fits_over {kind field : Option String} {names : List String} {shape : Shape} :
    Fits (node kind field names [shape]) place captures ↔
      accepts kind field place.node.head = true ∧ ∃ child ∈ place.node.children, ∃ inner,
        shape.Fits (place.below child) inner ∧ captures = names.map (·, place) ++ inner := by
  rw [fits_node]
  constructor
  · rintro ⟨accepted, inner, inside, rfl⟩
    obtain ⟨child, member, fits⟩ := fitsAmong_singleton.mp inside
    exact ⟨accepted, child, member, inner, fits, rfl⟩
  · rintro ⟨accepted, child, member, inner, fits, rfl⟩
    exact ⟨accepted, inner, fitsAmong_singleton.mpr ⟨child, member, fits⟩, rfl⟩

/-- What fits a shape with no shape below it. -/
theorem fits_leaf {kind field : Option String} {names : List String} :
    Fits (node kind field names []) place captures ↔
      accepts kind field place.node.head = true ∧ captures = names.map (·, place) := by
  rw [fits_node]
  constructor
  · rintro ⟨accepted, inner, inside, rfl⟩
    rw [fitsAmong_nil inside, List.append_nil]
    exact ⟨accepted, rfl⟩
  · rintro ⟨accepted, rfl⟩
    exact ⟨accepted, [], .none, (List.append_nil _).symm⟩

theorem kind_of_accepts {kind : String} {field : Option String} {head : NodeHead}
    (accepted : accepts (some kind) field head = true) : head.kind = kind := by
  simp only [accepts, Option.all_some, Bool.and_eq_true, decide_eq_true_eq] at accepted
  exact accepted.1.2.symm

/-- A node that is accepted in a field is accepted anywhere. -/
theorem accepts_anywhere {kind field : Option String} {head : NodeHead}
    (accepted : accepts kind field head = true) : accepts kind none head = true := by
  simp only [accepts, Option.all_none, Bool.and_true, Bool.and_eq_true] at accepted ⊢
  exact accepted.1

mutual

/-- The names that a match of a shape gives, in their order. -/
def names : Shape → List String
  | node _ _ own shapes => own ++ namesAmong shapes

/-- The names that a match of several shapes gives. -/
def namesAmong : List Shape → List String
  | [] => []
  | shape :: shapes => names shape ++ namesAmong shapes

end

mutual

theorem map_fst_of_fits (shape : Shape) {place : Place} {captures : Captures}
    (fits : shape.Fits place captures) : captures.map Prod.fst = shape.names := by
  match shape with
  | node kind field own shapes =>
    obtain ⟨-, inner, inside, rfl⟩ := fits_node.mp fits
    simp [names, map_fst_of_fitsAmong shapes inside, Function.comp_def]

theorem map_fst_of_fitsAmong (shapes : List Shape) {place : Place} {nodes : List SyntaxTree}
    {captures : Captures} (fits : FitsAmong shapes place nodes captures) :
    captures.map Prod.fst = namesAmong shapes := by
  match shapes with
  | [] =>
    rw [fitsAmong_nil fits]
    rfl
  | shape :: shapes =>
    obtain ⟨first, others, rfl, ⟨child, -, found⟩, among⟩ := fits.uncons
    rw [List.map_append, map_fst_of_fits shape found, map_fst_of_fitsAmong shapes among, namesAmong]

end

end Shape

/-! ## The shapes by which functions are exported -/

/-- The kind of the export that a match with these names stands for. -/
def ExportKind.ofNames? (names : List String) : Option ExportKind :=
  names.foldl (fun kind name => if name = "name" then kind else (ofDeclaration? name).or kind) none

/-- The shapes by which a query for exports finds functions. -/
def Query.functionShapes (query : Query) : List Shape :=
  (query.map Rule.shape).filter fun shape => ExportKind.ofNames? shape.names = some .function

namespace Grammar

variable {grammar : Grammar} {tree : SyntaxTree} {text : String} {query : Query}

theorem kind_ofCaptures (text : String) (captures : Captures) :
    (Declared.ofCaptures exportKind? text captures).declaration.map Prod.fst =
      ExportKind.ofNames? (captures.map Prod.fst) := by
  have folded : ∀ declared : Declared ExportKind,
      (captures.foldl (Declared.note exportKind? text) declared).declaration.map Prod.fst =
        (captures.map Prod.fst).foldl
          (fun kind name => if name = "name" then kind else (ExportKind.ofDeclaration? name).or kind)
          (declared.declaration.map Prod.fst) := by
    induction captures with
    | nil => exact fun _ => rfl
    | cons capture rest ih =>
      intro declared
      rw [List.foldl_cons, ih, List.map_cons, List.foldl_cons]
      congr 1
      rw [Declared.note, exportKind?]
      split
      · rfl
      · cases ExportKind.ofDeclaration? capture.1 <;> rfl
  exact folded ⟨none, none⟩

/-- An exported function is found by one of the shapes for functions. -/
theorem shape_of_function (exact : grammar.engine.Exact) (asked : grammar.exports = .valid query)
    {fact : ExportFact} (member : fact ∈ (grammar.extract tree text).exports)
    (kind : fact.kind = .function) :
    ∃ captures, grammar.exportFact? text captures = some fact ∧
      ∃ place, tree.Holds [] place ∧ ∃ shape ∈ query.functionShapes, shape.Fits place captures := by
  obtain ⟨captures, found, made⟩ := mem_exports.mp member
  rw [asked, Grammar.found, exact] at found
  obtain ⟨place, holds, rule, inQuery, fits, -⟩ := found
  refine ⟨captures, made, place, holds, rule.shape, ?_, fits⟩
  obtain ⟨_, declared, -⟩ := exportFact?_eq_some.mp made
  have ofNames := kind_ofCaptures text captures
  rw [declared, rule.shape.map_fst_of_fits fits, kind] at ofNames
  exact List.mem_filter.mpr ⟨List.mem_map_of_mem inQuery, decide_eq_true ofNames.symm⟩

/-! ## From a declaration to the fact of a function -/

/-- The node at a place is a declaration of a kind, and a node right below it is its name. -/
structure Declares (kind nameKind : String) (place : Place) (name : SyntaxTree) : Prop where
  ofKind : Shape.accepts (some kind) none place.node.head = true
  inside : name ∈ place.node.children
  isName : Shape.accepts (some nameKind) (some "name") name.head = true

section

variable {kind nameKind declared : String} {place : Place} {name : SyntaxTree} {captures : Captures}

theorem Declares.fits (declares : Declares kind nameKind place name) (declared : String) :
    (Shape.declaring kind nameKind declared).Fits place
      [(declared, place), ("name", place.below name)] :=
  Shape.fits_over.mpr ⟨declares.ofKind, name, declares.inside, [("name", place.below name)],
    Shape.fits_leaf.mpr ⟨declares.isName, rfl⟩, rfl⟩

theorem declares_of_fits {field : Option String} {names : List String}
    (fits : (Shape.node (some kind) field names [.name nameKind]).Fits place captures) :
    ∃ name, Declares kind nameKind place name ∧
      captures = names.map (·, place) ++ [("name", place.below name)] := by
  obtain ⟨accepted, name, inside, inner, isName, rfl⟩ := Shape.fits_over.mp fits
  obtain ⟨named, rfl⟩ := Shape.fits_leaf.mp isName
  exact ⟨name, ⟨Shape.accepts_anywhere accepted, inside, named⟩, rfl⟩

/-- What a declaration and its name say. -/
theorem ofCaptures_pair {κ : Type} {kind? : String → Place → Option κ} {found : κ} {exported : Place}
    (distinct : declared ≠ "name") (isKind : kind? declared exported = some found) :
    Declared.ofCaptures kind? text [(declared, exported), ("name", place)] =
      ⟨some (place.text text), some (found, exported)⟩ := by
  simp [Declared.ofCaptures, Declared.note, distinct, isKind]

/-- A declaration that the query for functions asks for is the declaration of a function. -/
theorem function_of_declares (exact : grammar.engine.Exact) (asked : grammar.functions = .valid query)
    (inQuery : ⟨.declaring kind nameKind declared, []⟩ ∈ query) {found : FunctionKind}
    (isKind : grammar.functionKind? declared place = some found) (holds : tree.Holds [] place)
    (declares : Declares kind nameKind place name) :
    ⟨(place.below name).text text, found, lineOf text place.start⟩ ∈
      (grammar.extract tree text).functions := by
  refine mem_functions.mpr ⟨[(declared, place), ("name", place.below name)], ?_, ?_⟩
  · rw [asked, Grammar.found, exact]
    exact ⟨place, holds, _, inQuery, declares.fits declared, rfl⟩
  · have distinct : declared ≠ "name" := by
      rintro rfl
      cases isKind
    exact functionFact?_eq_some.mpr ⟨place, ofCaptures_pair distinct isKind, rfl⟩

end

/-- An export rests on the declaration of a function: it has its name, and it starts where the
declaration does or before it. -/
structure RestsOn (tree : SyntaxTree) (captures : Captures) (kind nameKind : String)
    (exported place : Place) : Prop where
  holds : tree.Holds [] place
  behind : exported.start ≤ place.start
  declares : ∃ name, Declares kind nameKind place name ∧
    captures = [("function", exported), ("name", place.below name)]

/-- The functions that a grammar exports from a text are functions in it; where only plain ones can be
exported, they are plain. -/
def BacksExports (grammar : Grammar) (tree : SyntaxTree) (text : String) (plain : Prop) : Prop :=
  ∀ fact ∈ (grammar.extract tree text).exports, fact.kind = .function →
    ∃ function ∈ (grammar.extract tree text).functions, function.name = fact.name ∧
      fact.line ≤ function.line ∧ (plain → function.kind = .function)

/-- An export that rests on a declaration which the query for functions asks for has its function. -/
theorem RestsOn.function {captures : Captures} {kind nameKind declared : String} {exported place : Place}
    (rests : RestsOn tree captures kind nameKind exported place) (exact : grammar.engine.Exact)
    (asked : grammar.functions = .valid query)
    (inQuery : ⟨.declaring kind nameKind declared, []⟩ ∈ query) {found : FunctionKind}
    (isKind : grammar.functionKind? declared place = some found) {plain : Prop}
    (isPlain : plain → found = .function) {fact : ExportFact}
    (made : grammar.exportFact? text captures = some fact) :
    ∃ function ∈ (grammar.extract tree text).functions, function.name = fact.name ∧
      fact.line ≤ function.line ∧ (plain → function.kind = .function) := by
  obtain ⟨name, declares, rfl⟩ := rests.declares
  obtain ⟨start, declaration, named, -, line⟩ := exportFact?_eq_some.mp made
  rw [ofCaptures_pair (by decide) rfl] at declaration named
  obtain ⟨-, rfl⟩ := Prod.mk.inj (Option.some.inj declaration)
  refine ⟨_, function_of_declares exact asked inQuery isKind rests.holds declares, ?_, ?_, isPlain⟩
  · exact Option.some.inj named
  · rw [line]
    exact lineOf_mono rests.behind

/-- What an export rests on has passed the test of the grammar. -/
theorem RestsOn.isExported {captures : Captures} {kind nameKind : String} {exported place : Place}
    (rests : RestsOn tree captures kind nameKind exported place) {fact : ExportFact}
    (made : grammar.exportFact? text captures = some fact) :
    grammar.isExported fact.name exported text = true := by
  obtain ⟨name, -, rfl⟩ := rests.declares
  obtain ⟨start, declaration, -, isExported, -⟩ := exportFact?_eq_some.mp made
  rw [ofCaptures_pair (by decide) rfl] at declaration
  obtain ⟨-, rfl⟩ := Prod.mk.inj (Option.some.inj declaration)
  exact isExported

/-! ## Go and Java -/

section

variable {engine : Engine} (exact : engine.Exact)

theorem RestsOn.of_declaring {captures : Captures} {kind nameKind : String} {place : Place}
    (holds : tree.Holds [] place)
    (fits : (Shape.declaring kind nameKind "function").Fits place captures) :
    RestsOn tree captures kind nameKind place place :=
  ⟨holds, Nat.le_refl _, declares_of_fits fits⟩

theorem Go.functionShapes : Go.exports.functionShapes =
    [.declaring "function_declaration" "identifier" "function",
      .declaring "method_declaration" "field_identifier" "function"] :=
  rfl

theorem Java.functionShapes : Java.exports.functionShapes = [] := rfl

include exact in
theorem go_backsExports (tree : SyntaxTree) (text : String) :
    { go with engine := engine }.BacksExports tree text False := by
  intro fact member kind
  obtain ⟨captures, made, place, holds, shape, inShapes, fits⟩ := shape_of_function exact rfl member kind
  rw [Go.functionShapes, List.mem_pair] at inShapes
  rcases inShapes with rfl | rfl
  · exact (RestsOn.of_declaring holds fits).function exact rfl List.mem_cons_self rfl False.elim made
  · exact (RestsOn.of_declaring holds fits).function exact rfl
      (List.mem_cons_of_mem _ List.mem_cons_self) rfl False.elim made

include exact in
theorem java_backsExports (tree : SyntaxTree) (text : String) :
    { java with engine := engine }.BacksExports tree text True := by
  intro fact member kind
  obtain ⟨captures, -, place, -, shape, inShapes, -⟩ := shape_of_function exact rfl member kind
  rw [Java.functionShapes] at inShapes
  cases inShapes

/-! ## Rust -/

theorem Rust.functionShapes : Rust.exports.functionShapes =
    [visibleItem "function_item" "identifier" "function"] :=
  rfl

/-- What stands directly in a file or in a module is no member of a type. -/
theorem Rust.isMember_eq_false {place : Place} (level : isModuleLevel place = true) :
    isMember place = false := by
  rw [isModuleLevel] at level
  rw [isMember]
  cases above : place.parent? with
  | none => rfl
  | some parent =>
    simp only [above, Bool.or_eq_true, Bool.and_eq_true, decide_eq_true_eq] at level
    rcases level with file | ⟨-, inModule⟩
    · simp [file]
    · obtain ⟨owner, here, isModule⟩ := (Option.any_eq_true _ _).mp inModule
      simp [here, of_decide_eq_true isModule]

theorem RestsOn.of_visibleItem {captures : Captures} {kind nameKind : String} {place : Place}
    (holds : tree.Holds [] place)
    (fits : (Rust.visibleItem kind nameKind "function").Fits place captures) :
    RestsOn tree captures kind nameKind place place := by
  obtain ⟨accepted, inner, inside, rfl⟩ := Shape.fits_node.mp fits
  obtain ⟨first, others, rfl, ⟨modifier, -, isModifier⟩, among⟩ := inside.uncons
  obtain ⟨-, rfl⟩ := Shape.fits_leaf.mp isModifier
  exact ⟨holds, Nat.le_refl _, declares_of_fits (Shape.fits_node.mpr ⟨accepted, others, among, rfl⟩)⟩

include exact in
theorem rust_backsExports (tree : SyntaxTree) (text : String) :
    { rust with engine := engine }.BacksExports tree text True := by
  intro fact member kind
  obtain ⟨captures, made, place, holds, shape, inShapes, fits⟩ := shape_of_function exact rfl member kind
  rw [Rust.functionShapes, List.mem_singleton] at inShapes
  subst inShapes
  have rests := RestsOn.of_visibleItem holds fits
  have noMember : Rust.isMember place = false := by
    have exported := rests.isExported made
    exact Rust.isMember_eq_false (Bool.and_eq_true_iff.mp exported).2
  have isKind : functionKind? { rust with engine := engine } "function" place = some .function := by
    simp [functionKind?, rust, noMember]
  exact rests.function exact rfl List.mem_cons_self isKind (fun _ => rfl) made

/-! ## Python -/

theorem Python.functionShapes : Python.exports.functionShapes =
    [.of "module" [.declaring "function_definition" "identifier" "function"],
      .of "module" [decorated "function_definition" "function"]] :=
  rfl

/-- A definition directly in a file, or decorated there, is found with the function that it defines, which
belongs to no class. -/
theorem Python.restsOn {captures : Captures} {place : Place} {shape : Shape} (holds : tree.Holds [] place)
    (inShapes : shape ∈ Python.exports.functionShapes) (fits : shape.Fits place captures) :
    ∃ exported definition, RestsOn tree captures "function_definition" "identifier" exported definition ∧
      isClassBody definition.above = false := by
  rw [Python.functionShapes, List.mem_pair] at inShapes
  rcases inShapes with rfl | rfl
  · obtain ⟨isModule, child, inside, inner, defines, rfl⟩ := Shape.fits_over.mp fits
    refine ⟨_, _, .of_declaring (.child holds inside) defines, ?_⟩
    simp [Place.below, isClassBody, Shape.kind_of_accepts isModule]
  · obtain ⟨isModule, child, inside, inner, decorates, rfl⟩ := Shape.fits_over.mp fits
    obtain ⟨isDecorated, definition, below, inner, defines, rfl⟩ := Shape.fits_over.mp decorates
    have kind : child.head.kind = "decorated_definition" := Shape.kind_of_accepts isDecorated
    refine ⟨place.below child, (place.below child).below definition, ?_, ?_⟩
    · obtain ⟨name, declares, rfl⟩ := declares_of_fits defines
      exact ⟨.child (.child holds inside) below, Nat.le_add_right .., name, declares, rfl⟩
    · simp [Place.below, isClassBody, Shape.kind_of_accepts isModule, kind]

include exact in
theorem python_backsExports (tree : SyntaxTree) (text : String) :
    { python with engine := engine }.BacksExports tree text True := by
  intro fact member kind
  obtain ⟨captures, made, place, holds, shape, inShapes, fits⟩ := shape_of_function exact rfl member kind
  obtain ⟨exported, definition, rests, noClass⟩ := Python.restsOn holds inShapes fits
  have isKind : functionKind? { python with engine := engine } "function" definition = some .function := by
    simp [functionKind?, python, noClass]
  exact rests.function exact rfl List.mem_cons_self isKind (fun _ => rfl) made

/-! ## Scripts -/

theorem Script.functionShapes : Script.exports.functionShapes =
    [exportedDeclaration "function" "function_declaration" [.name "identifier"],
      exportedDeclaration "function" "generator_function_declaration" [.name "identifier"]] :=
  rfl

/-- The export of a declaration is found at the statement right above it. -/
theorem RestsOn.of_exportedDeclaration {captures : Captures} {kind nameKind : String} {place : Place}
    (holds : tree.Holds [] place)
    (fits : (Script.exportedDeclaration "function" kind [.name nameKind]).Fits place captures) :
    ∃ declaration, RestsOn tree captures kind nameKind place declaration := by
  obtain ⟨-, child, inside, inner, isDeclared, rfl⟩ := Shape.fits_over.mp fits
  obtain ⟨name, declares, rfl⟩ := declares_of_fits isDeclared
  exact ⟨place.below child, .child holds inside, Nat.le_add_right .., name, declares, rfl⟩

/-- A grammar with the queries for scripts and without methods among plain functions exports only
functions. -/
theorem script_backsExports {grammar : Grammar} (exact : grammar.engine.Exact)
    (exports : grammar.exports = .valid Script.exports)
    (functions : grammar.functions = .valid Script.functions)
    (noMethods : ∀ place, grammar.isMethod place = false) (tree : SyntaxTree) (text : String) :
    grammar.BacksExports tree text True := by
  intro fact member kind
  obtain ⟨captures, made, place, holds, shape, inShapes, fits⟩ :=
    shape_of_function exact exports member kind
  have isKind : ∀ declaration, grammar.functionKind? "function" declaration = some .function := by
    intro declaration
    simp [functionKind?, noMethods]
  rw [Script.functionShapes, List.mem_pair] at inShapes
  rcases inShapes with rfl | rfl
  · obtain ⟨declaration, rests⟩ := RestsOn.of_exportedDeclaration holds fits
    exact rests.function exact functions List.mem_cons_self (isKind declaration) (fun _ => rfl) made
  · obtain ⟨declaration, rests⟩ := RestsOn.of_exportedDeclaration holds fits
    exact rests.function exact functions (List.mem_cons_of_mem _ List.mem_cons_self)
      (isKind declaration) (fun _ => rfl) made

end

/-! ## All languages -/

/-- The grammars that export no methods. -/
def plainExporters : List Grammar := [.typescript, .tsx, .python, .rust]

theorem go_not_mem_plainExporters : go ∉ plainExporters := by
  intro member
  have named : go.name ∈ plainExporters.map Grammar.name := List.mem_map_of_mem member
  revert named
  decide

theorem BacksExports.imp {plain other : Prop} (backs : grammar.BacksExports tree text plain)
    (fewer : other → plain) : grammar.BacksExports tree text other := by
  intro fact member kind
  obtain ⟨function, found, name, line, isPlain⟩ := backs fact member kind
  exact ⟨function, found, name, line, fun holds => isPlain (fewer holds)⟩

theorem known_backsExports {grammar : Grammar} (known : grammar ∈ Grammar.all) {engine : Engine}
    (exact : engine.Exact) (tree : SyntaxTree) (text : String) :
    { grammar with engine := engine }.BacksExports tree text (grammar ∈ plainExporters) := by
  simp only [Grammar.all, List.mem_cons, List.not_mem_nil, or_false] at known
  rcases known with rfl | rfl | rfl | rfl | rfl | rfl
  · exact (script_backsExports exact rfl rfl (fun _ => rfl) tree text).imp fun _ => trivial
  · exact (script_backsExports exact rfl rfl (fun _ => rfl) tree text).imp fun _ => trivial
  · exact (rust_backsExports exact tree text).imp fun _ => trivial
  · exact (python_backsExports exact tree text).imp fun _ => trivial
  · exact (go_backsExports exact tree text).imp go_not_mem_plainExporters
  · exact (java_backsExports exact tree text).imp fun _ => trivial

/-- The engines of the known grammars find exactly what queries match. -/
theorem known_exact {grammar : Grammar} (known : grammar ∈ Grammar.all) : grammar.engine.Exact := by
  simp only [Grammar.all, List.mem_cons, List.not_mem_nil, or_false] at known
  rcases known with rfl | rfl | rfl | rfl | rfl | rfl <;> exact fun _ _ _ _ => Query.mem_find

/-- **Exported functions are functions.** Let a known grammar read any text, with any engine that finds
exactly what queries match, whatever tree it makes of the text. To each function that is exported there is
a function of the same name among the functions of the text, in the line of the export or below it. In
scripts, in Python and in Rust it is a plain one, neither a method nor an arrow function. -/
theorem exported_functions_are_functions {grammar : Grammar} (known : grammar ∈ Grammar.all)
    {engine : Engine} (exact : engine.Exact) (text path : String) :
    ∃ parsed, { grammar with engine := engine }.parser.parse text path = .ok parsed ∧
      ∀ fact ∈ parsed.facts.exports, fact.kind = .function →
        ∃ function ∈ parsed.facts.functions, function.name = fact.name ∧ fact.line ≤ function.line ∧
          (grammar ∈ plainExporters → function.kind = .function) :=
  ⟨_, rfl, known_backsExports known exact (engine.tree text) text⟩

/-- A decorated function is exported in the line of its decorator and stands in the line below. -/
theorem decorated_function_exported_above :
    let text := "@app\ndef run():\n    pass\n"
    python ∈ Grammar.all ∧ python.engine.Exact ∧ python ∈ plainExporters ∧
    ∃ parsed, python.parser.parse text "main.py" = .ok parsed ∧
      parsed.facts = ⟨[], [⟨"run", .function, 1⟩], [⟨"run", .function, 2⟩]⟩ ∧
      ∃ function ∈ parsed.facts.functions, function.name = "run" ∧ 1 ≤ function.line ∧
        function.kind = .function := by
  intro text
  have known : python ∈ Grammar.all := by simp [Grammar.all]
  have plain : python ∈ plainExporters := by simp [plainExporters]
  obtain ⟨parsed, read, functions⟩ :=
    exported_functions_are_functions known (known_exact known) text "main.py"
  have facts : parsed.facts = ⟨[], [⟨"run", .function, 1⟩], [⟨"run", .function, 2⟩]⟩ := by
    rw [← Except.ok.inj read]
    decide +kernel
  obtain ⟨function, member, name, below, kind⟩ :=
    functions ⟨"run", .function, 1⟩ (by rw [facts]; exact List.mem_singleton_self _) rfl
  exact ⟨known, known_exact known, plain, parsed, read, facts, function, member, name, below, kind plain⟩

end Grammar

end SourceFacts

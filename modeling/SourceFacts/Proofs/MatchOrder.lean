import SourceFacts.Fact
import SourceFacts.Proofs.EditBetween

/-! Normal forms and the order in which facts were found. Facts are sorted by line and name
alone, facts of one line and name stay as they were found, and a repeat goes only where it
stands right behind its like. So the normal form forgets the order of finding exactly where
line and name tell all facts apart. Imports consist of nothing else; exports and functions
also have a kind. -/
namespace SourceFacts

attribute [ext] FactKey ExportFact FunctionFact

namespace FactKey

theorem le_trans (a b c : FactKey) (first : a.le b = true) (second : b.le c = true) :
    a.le c = true := by
  simp only [le, Bool.or_eq_true, Bool.and_eq_true, decide_eq_true_eq] at first second ⊢
  rcases first with less | ⟨line, name⟩
  · rcases second with less' | ⟨line', name'⟩
    · exact .inl (by omega)
    · exact .inl (by omega)
  · rcases second with less' | ⟨line', name'⟩
    · exact .inl (by omega)
    · exact .inr ⟨line.trans line', List.le_trans name name'⟩

theorem le_total (a b : FactKey) : (a.le b || b.le a) = true := by
  simp only [le, Bool.or_eq_true, Bool.and_eq_true, decide_eq_true_eq]
  rcases Nat.lt_trichotomy a.line b.line with less | same | more
  · exact .inl (.inl less)
  · rcases List.le_total a.name b.name with name | name
    · exact .inl (.inr ⟨same, name⟩)
    · exact .inr (.inr ⟨same.symm, name⟩)
  · exact .inr (.inl more)

theorem le_refl (a : FactKey) : a.le a = true := by
  simpa using le_total a a

theorem le_antisymm {a b : FactKey} (first : a.le b = true) (second : b.le a = true) : a = b := by
  simp only [le, Bool.or_eq_true, Bool.and_eq_true, decide_eq_true_eq] at first second
  have line : a.line = b.line := by omega
  have name : a.name = b.name := by
    apply List.le_antisymm
    · exact (first.resolve_left (by omega)).2
    · exact (second.resolve_left (by omega)).2
  exact FactKey.ext line name

end FactKey

/-! ## Arranging -/

section

variable {α : Type} [DecidableEq α] {key : α → FactKey} {items others : List α} {item other : α}

/-- Dropping repeats never drops the first item of any sort. -/
theorem find?_dropRepeats (wanted : α → Bool) (items : List α) :
    (dropRepeats items).find? wanted = items.find? wanted := by
  fun_induction dropRepeats items with
  | case1 => rfl
  | case2 item => rfl
  | case3 item rest ih =>
    rw [ih]
    cases is : wanted item <;> simp [is]
  | case4 item next rest different ih =>
    rw [List.find?_cons, ih]
    exact List.find?_cons.symm

/-- Of the items that do not rank before an item, the one that was found first comes first. -/
theorem find?_arrange_cons (key : α → FactKey) (item : α) (rest : List α) :
    (arrange key (item :: rest)).find? (fun other => (key item).le (key other)) = some item := by
  obtain ⟨front, back, sorted, -, before⟩ :=
    List.mergeSort_cons (fun a b c => FactKey.le_trans (key a) (key b) (key c))
      (fun a b => FactKey.le_total (key a) (key b)) item rest
  have smaller : front.find? (fun other => (key item).le (key other)) = none := by
    apply List.find?_eq_none.mpr
    intro other member
    simpa using before other member
  rw [arrange, find?_dropRepeats, sorted, List.find?_append, smaller]
  simp [FactKey.le_refl]

/-- Items that are in order already stay as they were found, but for repeats. -/
theorem arrange_of_sorted (sorted : items.Pairwise fun a b => (key a).le (key b) = true) :
    arrange key items = dropRepeats items := by
  rw [arrange, List.mergeSort_of_pairwise sorted]

/-- Where keys tell items apart, there is only one way to sort them. -/
theorem arrange_perm (same : items.Perm others)
    (apart : ∀ a ∈ items, ∀ b ∈ items, key a = key b → a = b) :
    arrange key items = arrange key others := by
  have sorted := List.pairwise_mergeSort (fun a b c => FactKey.le_trans (key a) (key b) (key c))
    (fun a b => FactKey.le_total (key a) (key b))
  have sort : (items.mergeSort fun a b => (key a).le (key b)) =
      others.mergeSort fun a b => (key a).le (key b) := by
    refine List.Perm.eq_of_pairwise ?_ (sorted items) (sorted others)
      ((List.mergeSort_perm items _).trans (same.trans (List.mergeSort_perm others _).symm))
    intro a b inItems inOthers le ge
    exact apart a (List.mem_mergeSort.mp inItems) b
      (same.mem_iff.mpr (List.mem_mergeSort.mp inOthers)) (FactKey.le_antisymm le ge)
  rw [arrange, arrange, sort]

/-- Two items with one key can be found in either order, and stay in it. -/
theorem arrange_perm_iff (key : α → FactKey) (items : List α) :
    (∀ others, items.Perm others → arrange key others = arrange key items) ↔
      ∀ a ∈ items, ∀ b ∈ items, key a = key b → a = b := by
  constructor
  · intro independent a inA b inB same
    refine Decidable.byContradiction fun different => ?_
    have rest : b ∈ items.erase a := (List.mem_erase_of_ne (Ne.symm different)).mpr inB
    have first : items.Perm (a :: b :: (items.erase a).erase b) :=
      (List.perm_cons_erase inA).trans ((List.perm_cons_erase rest).cons a)
    have second := first.trans (List.Perm.swap b a _)
    have arranged := (independent _ first).trans (independent _ second).symm
    have foundFirst := find?_arrange_cons key a (b :: (items.erase a).erase b)
    have foundSecond := find?_arrange_cons key b (a :: (items.erase a).erase b)
    rw [arranged, same, foundSecond] at foundFirst
    exact different (Option.some.inj foundFirst).symm
  · intro apart others same
    exact (arrange_perm same apart).symm

end

/-! ## Facts found in another order -/

theorem ImportFact.key_eq_iff {a b : ImportFact} : a.key = b.key ↔ a = b := by
  cases a
  cases b
  simp [key, Text.bytes_eq_iff, and_comm]

theorem ExportFact.key_eq_iff {a b : ExportFact} :
    a.key = b.key ↔ a.line = b.line ∧ a.name = b.name := by
  simp [key, Text.bytes_eq_iff]

theorem FunctionFact.key_eq_iff {a b : FunctionFact} :
    a.key = b.key ↔ a.line = b.line ∧ a.name = b.name := by
  simp [key, Text.bytes_eq_iff]

namespace Facts

/-- The same facts, found in another order. -/
structure Reorders (facts other : Facts) : Prop where
  imports : facts.imports.Perm other.imports
  exports : facts.exports.Perm other.exports
  functions : facts.functions.Perm other.functions

/-- **The normal form forgets the order of finding exactly where line and name tell the kind.**
However the facts of a file are ordered they have the same normal form, if and only if no two
exports, and no two functions, of one line and name differ in kind. -/
theorem normalize_forgets_order_iff (facts : Facts) :
    (∀ other, Reorders facts other → other.normalize = facts.normalize) ↔
      (∀ a ∈ facts.exports, ∀ b ∈ facts.exports,
        a.line = b.line → a.name = b.name → a.kind = b.kind) ∧
      (∀ a ∈ facts.functions, ∀ b ∈ facts.functions,
        a.line = b.line → a.name = b.name → a.kind = b.kind) := by
  constructor
  · intro forgets
    have exports := (arrange_perm_iff ExportFact.key facts.exports).mp fun others same =>
      congrArg Facts.exports (forgets { facts with exports := others } ⟨.refl _, same, .refl _⟩)
    have functions := (arrange_perm_iff FunctionFact.key facts.functions).mp fun others same =>
      congrArg Facts.functions
        (forgets { facts with functions := others } ⟨.refl _, .refl _, same⟩)
    constructor
    · intro a inA b inB line name
      exact congrArg ExportFact.kind (exports a inA b inB (ExportFact.key_eq_iff.mpr ⟨line, name⟩))
    · intro a inA b inB line name
      exact congrArg FunctionFact.kind
        (functions a inA b inB (FunctionFact.key_eq_iff.mpr ⟨line, name⟩))
  · rintro ⟨exports, functions⟩ other same
    have importsSame :
        arrange ImportFact.key facts.imports = arrange ImportFact.key other.imports :=
      arrange_perm same.imports fun _ _ _ _ => ImportFact.key_eq_iff.mp
    have exportsSame :
        arrange ExportFact.key facts.exports = arrange ExportFact.key other.exports := by
      apply arrange_perm same.exports
      intro a inA b inB key
      obtain ⟨line, name⟩ := ExportFact.key_eq_iff.mp key
      exact ExportFact.ext name (exports a inA b inB line name) line
    have functionsSame :
        arrange FunctionFact.key facts.functions = arrange FunctionFact.key other.functions := by
      apply arrange_perm same.functions
      intro a inA b inB key
      obtain ⟨line, name⟩ := FunctionFact.key_eq_iff.mp key
      exact FunctionFact.ext name (functions a inA b inB line name) line
    rw [normalize, normalize, importsSame, exportsSame, functionsSame]

/-- A class and a type of one name in one line, the class found again behind the type: the normal
form keeps all three facts, and has two where the class was found twice in a row. -/
theorem clashing_exports_keep_order :
    let merged : Facts :=
      ⟨[], [⟨"x", .classDecl, 1⟩, ⟨"x", .typeDecl, 1⟩, ⟨"x", .classDecl, 1⟩], []⟩
    let other : Facts :=
      ⟨[], [⟨"x", .classDecl, 1⟩, ⟨"x", .classDecl, 1⟩, ⟨"x", .typeDecl, 1⟩], []⟩
    Reorders merged other ∧ merged.normalize.count = 3 ∧ other.normalize.count = 2 := by
  intro merged other
  have counted : ∀ exports : List ExportFact,
      exports.Pairwise (fun a b => a.key.le b.key = true) →
        (normalize ⟨[], exports, []⟩).count = (dropRepeats exports).length := by
    intro exports sorted
    simp [normalize, count, arrange_of_sorted sorted, arrange_of_sorted .nil, dropRepeats]
  refine ⟨⟨.nil, by decide, .nil⟩, ?_, ?_⟩
  · rw [counted merged.exports (by decide)]
    decide
  · rw [counted other.exports (by decide)]
    decide

end Facts

end SourceFacts

import SourceFacts.Syntax.Tree

/-!
Queries over syntax trees. A shape says what a node and some of the nodes below it look like and gives
names to some of them; a rule is a shape with conditions on the texts of the named nodes. What a query
matches is said by a relation, `Query.Matches`, and `Query.find` lists exactly that.
-/
namespace SourceFacts

/-- The nodes that a match names, outer ones first. -/
abbrev Captures := List (String × Place)

/-- What a node looks like: its kind, or any kind that the grammar names; the field it stands in, if that
matters; the names that a match gives it; and what some of the nodes right below it look like, in their
order. -/
inductive Shape where
  | node (kind field : Option String) (names : List String) (children : List Shape)
  deriving Inhabited

namespace Shape

/-- A node of a kind. -/
def of (kind : String) (children : List Shape) : Shape := node (some kind) none [] children

/-- A node of any kind. -/
def any : Shape := node none none [] []

/-- The same shape in a field. -/
def inField (field : String) : Shape → Shape
  | node kind _ names children => node kind (some field) names children

/-- The same shape with a name for the node. -/
def named (name : String) : Shape → Shape
  | node kind field names children => node kind field (name :: names) children

/-- The name of what the node above declares. -/
def name (kind : String) : Shape := ((of kind []).inField "name").named "name"

/-- A declaration of a kind, with a name of a kind, itself named by what it declares. -/
def declaring (kind nameKind declared : String) : Shape := (of kind [name nameKind]).named declared

/-- Whether a node by itself looks like a shape. -/
def accepts (kind field : Option String) (head : NodeHead) : Bool :=
  head.named && kind.all (· = head.kind) && field.all (some · = head.field)

mutual

/-- A shape fits the node at a place, and these are the nodes that it names. -/
inductive Fits : Shape → Place → Captures → Prop where
  | node {kind field : Option String} {names : List String} {shapes : List Shape} {place : Place}
    {captures : Captures} (accepted : accepts kind field place.node.head = true)
    (inside : FitsAmong shapes place place.node.children captures) :
    Fits (node kind field names shapes) place (names.map (·, place) ++ captures)

/-- Shapes fit some of the nodes right below a place, in their order. -/
inductive FitsAmong : List Shape → Place → List SyntaxTree → Captures → Prop where
  | none {place : Place} {nodes : List SyntaxTree} : FitsAmong [] place nodes []
  | pass {shapes : List Shape} {place : Place} {node : SyntaxTree} {rest : List SyntaxTree}
    {captures : Captures} (later : FitsAmong shapes place rest captures) :
    FitsAmong shapes place (node :: rest) captures
  | take {shape : Shape} {shapes : List Shape} {place : Place} {node : SyntaxTree}
    {rest : List SyntaxTree} {first others : Captures} (fits : Fits shape (place.below node) first)
    (later : FitsAmong shapes place rest others) :
    FitsAmong (shape :: shapes) place (node :: rest) (first ++ others)

end

/-- All ways to choose one of some nodes and others behind it. -/
def choose (first : SyntaxTree → List Captures) (others : List SyntaxTree → List Captures) :
    List SyntaxTree → List Captures
  | [] => []
  | tree :: rest =>
    (first tree).flatMap (fun captures => (others rest).map (captures ++ ·)) ++ choose first others rest

mutual

/-- The ways in which a shape fits the node at a place. -/
def find : Shape → Place → List Captures
  | node kind field names shapes, place =>
    if accepts kind field place.node.head then
      (findAmong shapes place place.node.children).map (names.map (·, place) ++ ·)
    else []

/-- The ways in which shapes fit some of the nodes right below a place. -/
def findAmong : List Shape → Place → List SyntaxTree → List Captures
  | [], _, _ => [[]]
  | shape :: shapes, place, nodes =>
    choose (fun tree => find shape (place.below tree)) (findAmong shapes place) nodes

end

mutual

theorem mem_find {place : Place} {captures : Captures} (shape : Shape) :
    captures ∈ shape.find place ↔ shape.Fits place captures := by
  match shape with
  | node kind field names shapes =>
    rw [find]
    constructor
    · intro member
      split at member
      · obtain ⟨inner, among, rfl⟩ := List.mem_map.mp member
        exact .node ‹_› ((mem_findAmong shapes).mp among)
      · cases member
    · intro fits
      cases fits with
      | node accepted inside =>
        rw [if_pos accepted]
        exact List.mem_map_of_mem ((mem_findAmong shapes).mpr inside)

theorem mem_findAmong {place : Place} {nodes : List SyntaxTree} {captures : Captures}
    (shapes : List Shape) :
    captures ∈ findAmong shapes place nodes ↔ FitsAmong shapes place nodes captures := by
  match shapes with
  | [] =>
    rw [findAmong, List.mem_singleton]
    constructor
    · rintro rfl
      exact .none
    · intro fits
      induction nodes with
      | nil => cases fits; rfl
      | cons tree rest ih =>
        cases fits with
        | none => rfl
        | pass later => exact ih later
  | shape :: shapes =>
    rw [findAmong]
    induction nodes with
    | nil =>
      constructor
      · intro member
        cases member
      · intro fits
        cases fits
    | cons tree rest ih =>
      rw [choose, List.mem_append, List.mem_flatMap]
      constructor
      · rintro (⟨first, found, member⟩ | later)
        · obtain ⟨others, among, rfl⟩ := List.mem_map.mp member
          exact .take ((mem_find shape).mp found) ((mem_findAmong shapes).mp among)
        · exact .pass (ih.mp later)
      · intro fits
        cases fits with
        | pass later => exact .inr (ih.mpr later)
        | take fits later =>
          refine .inl ⟨_, (mem_find shape).mpr fits, List.mem_map_of_mem ?_⟩
          exact (mem_findAmong shapes).mpr later

end

end Shape

/-- A condition on the texts of the nodes that a match gives a name. -/
structure Condition where
  name : String
  test : String → Bool

/-- A shape, and what the nodes that it names must satisfy. -/
structure Rule where
  shape : Shape
  conditions : List Condition := []

/-- Whether the conditions of a rule hold of the nodes that a match names. -/
def Rule.allows (rule : Rule) (source : String) (captures : Captures) : Bool :=
  rule.conditions.all fun condition => captures.all fun (name, place) =>
    name ≠ condition.name || condition.test (place.text source)

/-- A query is a list of rules. -/
abbrev Query := List Rule

namespace Query

/-- These are the nodes that a match of a query names: the shape of a rule fits at some place of the tree,
and its conditions hold. -/
def Matches (query : Query) (tree : SyntaxTree) (source : String) (captures : Captures) : Prop :=
  ∃ place, tree.Holds [] place ∧ ∃ rule ∈ query,
    rule.shape.Fits place captures ∧ rule.allows source captures = true

/-- The matches of a query in a tree, those at outer places first. -/
def find (query : Query) (tree : SyntaxTree) (source : String) : List Captures :=
  tree.places.flatMap fun place =>
    query.flatMap fun rule => (rule.shape.find place).filter (rule.allows source)

/-- A query finds exactly what it matches. -/
theorem mem_find {query : Query} {tree : SyntaxTree} {source : String} {captures : Captures} :
    captures ∈ query.find tree source ↔ query.Matches tree source captures := by
  simp only [find, Matches, List.mem_flatMap, List.mem_filter, SyntaxTree.mem_places, Shape.mem_find]

end Query

end SourceFacts

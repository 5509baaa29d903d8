import SourceFacts.Text.Bytes

/-!
Syntax trees. A node has a kind, may stand in a field of the node above it, and starts some bytes behind
the start of that node, so no node starts before the one it stands in. A place is a node of a tree
together with the nodes above it; only a place knows its offset in the text.
-/
namespace SourceFacts

/-- What a node is by itself. -/
structure NodeHead where
  kind : String
  /-- Whether the kind is a name of the grammar; a keyword or a mark is not. -/
  named : Bool
  /-- The field of the node above that the node stands in. -/
  field : Option String
  /-- The number of bytes from the start of the node above to the start of this one. -/
  offset : Nat
  /-- The number of bytes that the node takes up. -/
  length : Nat
  deriving DecidableEq, Repr, Inhabited

/-- A tree of source text. -/
inductive SyntaxTree where
  | node (head : NodeHead) (children : List SyntaxTree)
  deriving Inhabited

namespace SyntaxTree

def head : SyntaxTree → NodeHead
  | node head _ => head

def children : SyntaxTree → List SyntaxTree
  | node _ children => children

end SyntaxTree

/-- A node and the nodes above it, innermost first. -/
structure Place where
  node : SyntaxTree
  above : List SyntaxTree

namespace Place

def kind (place : Place) : String := place.node.head.kind

/-- The place of the node above. -/
def parent? : Place → Option Place
  | ⟨_, []⟩ => none
  | ⟨_, parent :: above⟩ => some ⟨parent, above⟩

/-- The place of a node right below. -/
def below (place : Place) (child : SyntaxTree) : Place :=
  ⟨child, place.node :: place.above⟩

/-- The offset of the first byte of the innermost of some nodes, each of which stands in the next. -/
def startOf : List SyntaxTree → Nat
  | [] => 0
  | node :: above => startOf above + node.head.offset

/-- The offset of the first byte. -/
def start (place : Place) : Nat :=
  startOf (place.node :: place.above)

/-- The stretch of the source text that the node takes up. -/
def text (place : Place) (source : String) : String :=
  Text.slice source place.start (place.start + place.node.head.length)

/-- The text of the first node of a kind right below. -/
def childText? (place : Place) (kind source : String) : Option String :=
  (place.node.children.find? fun child => child.head.kind = kind).map fun child =>
    (place.below child).text source

end Place

/-- A tree with its offset in the text, before it stands in another tree. -/
structure Branch where
  start : Nat
  tree : SyntaxTree

namespace Branch

/-- The tree below a node that starts at an offset. -/
def under (start : Nat) (branch : Branch) : SyntaxTree :=
  .node { branch.tree.head with offset := branch.start - start } branch.tree.children

/-- A node between two offsets, with branches below it. -/
def grow (kind : String) (start stop : Nat) (branches : List Branch) : Branch :=
  ⟨start, .node ⟨kind, true, none, 0, stop - start⟩ (branches.map (under start))⟩

/-- The same branch in a field of the node that it will stand below. -/
def inField (field : String) (branch : Branch) : Branch :=
  ⟨branch.start, .node { branch.tree.head with field := some field } branch.tree.children⟩

end Branch

namespace SyntaxTree

mutual

/-- The places of a tree below some nodes, outer ones first. -/
def visit (above : List SyntaxTree) : SyntaxTree → List Place
  | node head children =>
    ⟨node head children, above⟩ :: visitAll (node head children :: above) children

/-- The places of several trees below some nodes, one tree after the other. -/
def visitAll (above : List SyntaxTree) : List SyntaxTree → List Place
  | [] => []
  | tree :: rest => visit above tree ++ visitAll above rest

end

/-- The places of a tree, outer ones first. -/
def places (tree : SyntaxTree) : List Place :=
  tree.visit []

/-- A place is one of a tree that itself stands below some nodes: it is the tree, or it is right below
such a place. -/
inductive Holds (above : List SyntaxTree) (tree : SyntaxTree) : Place → Prop where
  | whole : Holds above tree ⟨tree, above⟩
  | child {place : Place} {child : SyntaxTree} (holds : Holds above tree place)
    (member : child ∈ place.node.children) : Holds above tree (place.below child)

theorem mem_visitAll {above trees : List SyntaxTree} {place : Place} :
    place ∈ visitAll above trees ↔ ∃ tree ∈ trees, place ∈ visit above tree := by
  induction trees with
  | nil => simp [visitAll]
  | cons tree rest ih => simp [visitAll, ih]

/-- A place of a tree that stands right below another one is a place of the other. -/
theorem Holds.inside {above : List SyntaxTree} {tree child : SyntaxTree} {place : Place}
    (member : child ∈ tree.children) (holds : Holds (tree :: above) child place) :
    Holds above tree place := by
  induction holds with
  | whole => exact .child .whole member
  | child _ inside ih => exact .child ih inside

mutual

theorem holds_of_mem_visit {above : List SyntaxTree} {place : Place} (tree : SyntaxTree)
    (member : place ∈ visit above tree) : Holds above tree place := by
  match tree with
  | node head children =>
    rw [visit, List.mem_cons] at member
    rcases member with rfl | below
    · exact .whole
    · obtain ⟨child, inside, holds⟩ := holds_of_mem_visitAll children below
      exact holds.inside inside

theorem holds_of_mem_visitAll {above : List SyntaxTree} {place : Place} (trees : List SyntaxTree)
    (member : place ∈ visitAll above trees) : ∃ tree ∈ trees, Holds above tree place := by
  match trees with
  | [] => cases member
  | tree :: rest =>
    rw [visitAll, List.mem_append] at member
    rcases member with first | later
    · exact ⟨tree, List.mem_cons_self, holds_of_mem_visit tree first⟩
    · obtain ⟨child, inside, holds⟩ := holds_of_mem_visitAll rest later
      exact ⟨child, List.mem_cons_of_mem _ inside, holds⟩

end

theorem self_mem_visit (above : List SyntaxTree) (tree : SyntaxTree) :
    ⟨tree, above⟩ ∈ visit above tree := by
  cases tree
  rw [visit]
  exact List.mem_cons_self

mutual

/-- Whatever stands right below a visited place is visited. -/
theorem below_mem_visit {above : List SyntaxTree} {place : Place} {child : SyntaxTree}
    (inside : child ∈ place.node.children) (tree : SyntaxTree) (member : place ∈ visit above tree) :
    place.below child ∈ visit above tree := by
  match tree with
  | node head children =>
    rw [visit, List.mem_cons] at member ⊢
    rcases member with rfl | later
    · exact .inr (mem_visitAll.mpr ⟨child, inside, self_mem_visit _ child⟩)
    · exact .inr (below_mem_visitAll inside children later)

theorem below_mem_visitAll {above : List SyntaxTree} {place : Place} {child : SyntaxTree}
    (inside : child ∈ place.node.children) (trees : List SyntaxTree)
    (member : place ∈ visitAll above trees) : place.below child ∈ visitAll above trees := by
  match trees with
  | [] => cases member
  | tree :: rest =>
    rw [visitAll, List.mem_append] at member ⊢
    exact member.imp (below_mem_visit inside tree) (below_mem_visitAll inside rest)

end

/-- The listed places of a tree are all that it holds. -/
theorem mem_places {tree : SyntaxTree} {place : Place} : place ∈ tree.places ↔ tree.Holds [] place := by
  constructor
  · exact holds_of_mem_visit tree
  · intro holds
    induction holds with
    | whole => exact self_mem_visit [] tree
    | child _ inside ih => exact below_mem_visit inside tree ih

end SyntaxTree

end SourceFacts

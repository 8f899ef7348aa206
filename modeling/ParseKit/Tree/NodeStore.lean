import ParseKit.Tree.Node

/-!
# Building trees with shared nodes

While a tree is built, a node may be given to several parents and may
still get children afterwards; every parent then sees them. A `NodeStore`
holds nodes by number, each with the numbers of its children, and
`NodeStore.tree?` is the tree that a node stands for at the moment.
-/

namespace ParseKit

/-- **A node that is being built**, its children given by number. -/
structure NodeCell where
  /-- The kind. -/
  kind : Int
  /-- The label. -/
  label : String
  /-- The value. -/
  value : Option String
  /-- The numbers of the children. -/
  children : List Nat
  deriving Repr, Inhabited

/-- **Nodes that are being built**, by number. -/
structure NodeStore where
  /-- The nodes. -/
  cells : Array NodeCell
  deriving Repr, Inhabited

namespace NodeStore

/-- No nodes. -/
def empty : NodeStore := ⟨#[]⟩

/-- A store with a node more, and the number of that node. -/
def add (s : NodeStore) (kind : Int) (label : String) (value : Option String) :
    Nat × NodeStore :=
  (s.cells.size, ⟨s.cells.push ⟨kind, label, value, []⟩⟩)

/-- Gives a node more children. -/
def addChildren (s : NodeStore) (n : Nat) (children : List Nat) : NodeStore :=
  ⟨s.cells.modify n fun c => { c with children := c.children ++ children }⟩

/-- The tree of a node, down to a depth. -/
def treeTo? (s : NodeStore) : Nat → Nat → Option Node
  | 0, _ => none
  | depth + 1, n => do
    let c ← s.cells[n]?
    let children ← c.children.mapM (s.treeTo? depth)
    return .mk c.kind c.label c.value children

/-- **The tree that a node stands for**; none if the node is below itself. -/
def tree? (s : NodeStore) (n : Nat) : Option Node := s.treeTo? (s.cells.size + 1) n

end NodeStore

end ParseKit

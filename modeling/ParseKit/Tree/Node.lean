import ParseKit.Error

/-!
# Nodes

A tree of nodes is what parsing makes. A node has a kind, a label, perhaps
a value, and children in order.

`Node.preorder` lists a tree by recursion on it; `Node.walk` does so with
a stack of the nodes that are still to come, without recursion on the
depth.
-/

namespace ParseKit

/-- **A node of a tree.** -/
inductive Node where
  /-- A node with its children. -/
  | mk (kind : Int) (label : String) (value : Option String) (children : List Node)
  deriving Repr, Inhabited

namespace Node

/-- The kind of a node. -/
def kind : Node → Int
  | mk kind _ _ _ => kind

/-- The label of a node. -/
def label : Node → String
  | mk _ label _ _ => label

/-- The value of a node, if it has one. -/
def value : Node → Option String
  | mk _ _ value _ => value

/-- The children of a node. -/
def children : Node → List Node
  | mk _ _ _ children => children

/-- A node without children. -/
def leaf (kind : Int) (label : String) (value : Option String := none) : Node :=
  mk kind label value []

/-- The node with a child more, the last. -/
def addChild : Node → Node → Node
  | mk kind label value children, child => mk kind label value (children ++ [child])

/-- The node with another value. -/
def withValue : Node → Option String → Node
  | mk kind label _ children, value => mk kind label value children

/-- The value of a node, which must have one. -/
def valueText (n : Node) : Except NodeValueError String :=
  match n.value with
  | some s => .ok s
  | none => .error ⟨n.label⟩

mutual

/-- Whether two trees are equal. -/
def decEq : (m n : Node) → Decidable (m = n)
  | mk kind label value children, mk kind' label' value' children' =>
    have : Decidable (children = children') := decEqAll children children'
    decidable_of_iff (kind = kind' ∧ label = label' ∧ value = value' ∧ children = children')
      (by rw [mk.injEq])

/-- Whether two lists of trees are equal. -/
def decEqAll : (ms ns : List Node) → Decidable (ms = ns)
  | [], [] => .isTrue rfl
  | [], _ :: _ => .isFalse nofun
  | _ :: _, [] => .isFalse nofun
  | m :: ms, n :: ns =>
    have : Decidable (m = n) := decEq m n
    have : Decidable (ms = ns) := decEqAll ms ns
    decidable_of_iff (m = n ∧ ms = ns) (by rw [List.cons.injEq])

end

instance : DecidableEq Node := decEq

mutual

/-- The number of nodes of a tree. -/
def size : Node → Nat
  | mk _ _ _ children => 1 + sizeAll children

/-- The number of nodes of trees. -/
def sizeAll : List Node → Nat
  | [] => 0
  | n :: rest => n.size + sizeAll rest

end

mutual

/-- The number of nodes on the longest way down a tree. -/
def depth : Node → Nat
  | mk _ _ _ children => 1 + depthAll children

/-- The greatest depth of trees. -/
def depthAll : List Node → Nat
  | [] => 0
  | n :: rest => max n.depth (depthAll rest)

end

mutual

/-- **The nodes of a tree in pre-order**: a node, then the nodes of its
children. -/
def preorder : Node → List Node
  | n@(mk _ _ _ children) => n :: preorderAll children

/-- The nodes of trees in pre-order. -/
def preorderAll : List Node → List Node
  | [] => []
  | n :: rest => n.preorder ++ preorderAll rest

end

theorem sizeAll_append (a b : List Node) : sizeAll (a ++ b) = sizeAll a + sizeAll b := by
  induction a with
  | nil => simp [sizeAll]
  | cons n rest ih => simp [sizeAll, ih, Nat.add_assoc]

theorem size_eq (n : Node) : n.size = 1 + sizeAll n.children := by
  cases n; simp [size, children]

/-- The nodes of the trees on a stack: the top one, then its children before
the rest of the stack. -/
def walkStack : List Node → List Node
  | [] => []
  | n :: stack => n :: walkStack (n.children ++ stack)
termination_by stack => sizeAll stack
decreasing_by
  simp only [sizeAll, sizeAll_append, size_eq n]
  omega

/-- **The nodes of a tree, depth first.** -/
def walk (n : Node) : List Node := walkStack [n]

/-- **Induction on forests**: what holds of no trees, and of trees if it holds of the
children of the first and of the trees after it, holds of all. -/
theorem forest_induction {P : List Node → Prop} (nil : P [])
    (cons : ∀ n rest, P n.children → P rest → P (n :: rest)) : ∀ ns, P ns
  | [] => nil
  | .mk _ _ _ children :: rest =>
    cons _ rest (forest_induction nil cons children) (forest_induction nil cons rest)

theorem mem_preorderAll_cons {m n : Node} {rest : List Node} :
    m ∈ preorderAll (n :: rest) ↔ m = n ∨ m ∈ preorderAll n.children ∨ m ∈ preorderAll rest := by
  cases n
  simp [preorderAll, preorder, children]

/-- **A node as messages show it**, with the number of its children. -/
def shown (n : Node) (kinds : KindTable := .anonymous) : String :=
  "Node(kind=" ++ kinds.display n.kind ++ ", label=" ++ Text.quote n.label ++ ", value="
    ++ (match n.value with
      | some s => Text.quote s
      | none => Value.null.shown)
    ++ ", children=" ++ toString n.children.length ++ ")"

end Node

end ParseKit

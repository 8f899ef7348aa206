import ParseKit.Tree.Dump
import ParseKit.Tree.NodeStore
import Mathlib.Data.List.Forall2

/-!
# Walks and dumps are in pre-order

A tree is listed in three ways: by recursion on it (`Node.preorder`), by a loop with a stack
of the nodes that are still to come (`Node.walk`), and by the lines of its dump.

What the three have in common is said by paths. `Node.listing` has the nodes of a tree with
the paths that lead to them, a path being the numbers of the children to go to. Each path of
the tree is there once, in lexicographic order, and that is pre-order. The depth of a node is
the length of its path, so that the listing says where each line of a dump has to begin.

A node that is given to several parents is one node with several paths. The loop over nodes
that are held by number (`NodeStore.Walks`) yields it once for each of them. Its invariant is
about all that is on the stack, every number with the path on which it was reached
(`NodeStore.walks_of_leads`).
-/

namespace ParseKit

/-- All of a list has values if and only if each item has one. -/
theorem mapM_eq_some_iff {α β : Type} {f : α → Option β} {as : List α} {bs : List β} :
    as.mapM f = some bs ↔ List.Forall₂ (fun a b => f a = some b) as bs := by
  induction as generalizing bs with
  | nil => simp [eq_comm]
  | cons a as ih =>
    simp only [List.mapM_cons, List.forall₂_cons_left_iff, ← ih, bind, Option.bind_eq_some_iff,
      pure, Option.some.injEq]
    constructor
    · rintro ⟨b, hb, bs, hbs, rfl⟩
      exact ⟨b, bs, hb, hbs, rfl⟩
    · rintro ⟨b, bs, hb, hbs, rfl⟩
      exact ⟨b, hb, bs, hbs, rfl⟩

namespace Node

/-! ## The loop over the nodes -/

theorem preorderAll_eq_flatMap (ns : List Node) : preorderAll ns = ns.flatMap preorder := by
  induction ns with
  | nil => simp [preorderAll]
  | cons n ns ih => simp [preorderAll, ih]

theorem preorder_eq (n : Node) : n.preorder = n :: preorderAll n.children := by
  cases n
  rw [preorder, children]

/-- **A stack of trees is walked in pre-order**, one tree after the other. -/
theorem walkStack_eq_preorderAll (stack : List Node) : walkStack stack = preorderAll stack := by
  fun_induction walkStack stack with
  | case1 => rw [preorderAll]
  | case2 n stack ih =>
    rw [ih, preorderAll, preorder_eq]
    simp only [preorderAll_eq_flatMap, List.flatMap_append, List.cons_append]

theorem walk_eq_preorder (n : Node) : n.walk = n.preorder := by
  rw [walk, walkStack_eq_preorderAll, preorderAll, preorderAll, List.append_nil]

/-! ## Nodes and the paths to them -/

/-- **The node at a path**, which has the number of a child for each level. -/
def at? : List Nat → Node → Option Node
  | [], n => some n
  | i :: path, n => n.children[i]?.bind (at? path)

mutual

/-- **The nodes of a tree with the paths to them**, in pre-order. -/
def listing : Node → List (List Nat × Node)
  | n@(mk _ _ _ children) => ([], n) :: listingFrom 0 children

/-- The nodes of children, the first of which has a number. -/
def listingFrom (number : Nat) : List Node → List (List Nat × Node)
  | [] => []
  | n :: rest => n.listing.map (fun e => (number :: e.1, e.2)) ++ listingFrom (number + 1) rest

end

theorem listing_eq (n : Node) : n.listing = ([], n) :: listingFrom 0 n.children := by
  cases n
  rw [listing, children]

theorem map_snd_listingFrom (ns : List Node) (number : Nat) :
    (listingFrom number ns).map Prod.snd = preorderAll ns := by
  induction ns using forest_induction generalizing number with
  | nil => rw [listingFrom, preorderAll, List.map_nil]
  | cons n rest hchildren hrest =>
    rw [listingFrom, preorderAll, List.map_append, hrest, List.map_map]
    show n.listing.map Prod.snd ++ _ = _
    rw [listing_eq, preorder_eq, List.map_cons, hchildren]

/-- **The listing has the nodes in pre-order.** -/
theorem map_snd_listing (n : Node) : n.listing.map Prod.snd = n.preorder := by
  rw [listing_eq, preorder_eq, List.map_cons, map_snd_listingFrom]

/-- A path of a tree stays or goes on into a child. -/
theorem mem_listing_of_children {n m : Node}
    (h : ∀ path, (path, m) ∈ listingFrom 0 n.children
      ↔ ∃ i rest, path = (0 + i) :: rest ∧ n.children[i]?.bind (at? rest) = some m)
    (path : List Nat) : (path, m) ∈ n.listing ↔ n.at? path = some m := by
  rw [listing_eq, List.mem_cons, h]
  cases path with
  | nil => simp [at?, eq_comm]
  | cons i path => simp [at?]

theorem mem_listingFrom {path : List Nat} {m : Node} (ns : List Node) (number : Nat) :
    (path, m) ∈ listingFrom number ns
      ↔ ∃ i rest, path = (number + i) :: rest ∧ ns[i]?.bind (at? rest) = some m := by
  induction ns using forest_induction generalizing number path with
  | nil => simp [listingFrom]
  | cons n rest hchildren hrest =>
    have hfirst := mem_listing_of_children (n := n) fun path => hchildren 0
    simp only [listingFrom, List.mem_append, List.mem_map, hrest, Prod.exists, Prod.mk.injEq]
    constructor
    · rintro (⟨path, m, hmem, rfl, rfl⟩ | ⟨i, path, rfl, hat⟩)
      · exact ⟨0, path, rfl, (hfirst path).mp hmem⟩
      · exact ⟨i + 1, path, by rw [Nat.add_right_comm, Nat.add_assoc], hat⟩
    · rintro ⟨i, path, rfl, hat⟩
      cases i with
      | zero => exact .inl ⟨path, m, (hfirst path).mpr hat, rfl, rfl⟩
      | succ i => exact .inr ⟨i, path, by rw [Nat.add_right_comm, Nat.add_assoc], hat⟩

/-- **The listing has every path of the tree**, with the node there. -/
theorem mem_listing {n m : Node} {path : List Nat} :
    (path, m) ∈ n.listing ↔ n.at? path = some m :=
  mem_listing_of_children (fun _ => mem_listingFrom n.children 0) path

/-- Paths into children go by the numbers of these. -/
theorem exists_cons_of_mem_listingFrom {number : Nat} {ns : List Node} {path : List Nat}
    (h : path ∈ (listingFrom number ns).map Prod.fst) : ∃ i rest, path = (number + i) :: rest := by
  obtain ⟨⟨path, m⟩, hmem, rfl⟩ := List.mem_map.mp h
  obtain ⟨i, rest, rfl, -⟩ := (mem_listingFrom ns number).mp hmem
  exact ⟨i, rest, rfl⟩

theorem pairwise_lt_listing_of_children {n : Node}
    (h : ((listingFrom 0 n.children).map Prod.fst).Pairwise (· < ·)) :
    (n.listing.map Prod.fst).Pairwise (· < ·) := by
  rw [listing_eq, List.map_cons, List.pairwise_cons]
  refine ⟨fun path hpath => ?_, h⟩
  obtain ⟨i, rest, rfl⟩ := exists_cons_of_mem_listingFrom hpath
  exact List.nil_lt_cons _ _

theorem pairwise_lt_listingFrom (ns : List Node) (number : Nat) :
    ((listingFrom number ns).map Prod.fst).Pairwise (· < ·) := by
  induction ns using forest_induction generalizing number with
  | nil => simp [listingFrom]
  | cons n rest hchildren hrest =>
    have hfirst : (n.listing.map fun e => (number :: e.1, e.2)).map Prod.fst
        = (n.listing.map Prod.fst).map (number :: ·) := by
      simp only [List.map_map, Function.comp_def]
    rw [listingFrom, List.map_append, hfirst, List.pairwise_append]
    refine ⟨?_, hrest (number + 1), ?_⟩
    · refine (pairwise_lt_listing_of_children (hchildren 0)).map _ fun a b hab => ?_
      exact List.cons_lt_cons_iff.mpr (.inr ⟨rfl, hab⟩)
    · intro a ha b hb
      obtain ⟨path, -, rfl⟩ := List.mem_map.mp ha
      obtain ⟨i, rest, rfl⟩ := exists_cons_of_mem_listingFrom hb
      exact List.cons_lt_cons_iff.mpr (.inl (by omega))

/-- **The paths of the listing increase**, so that each is there once. -/
theorem pairwise_lt_listing (n : Node) : (n.listing.map Prod.fst).Pairwise (· < ·) :=
  pairwise_lt_listing_of_children (pairwise_lt_listingFrom n.children 0)

end Node

namespace NodeStore

/-! ## The loop over nodes by number -/

/-- **A number stands for a tree**: the nodes below it make up the tree, and it is finite. -/
def StandsFor (s : NodeStore) (number : Nat) (n : Node) : Prop :=
  ∃ depth, s.treeTo? depth number = some n

/-- **The loop over nodes that are held by number.** It takes a number from the stack and
yields it, and puts the numbers of its children in its place. -/
inductive Walks (s : NodeStore) : (stack yielded : List Nat) → Prop where
  /-- Nothing is left. -/
  | nil : Walks s [] []
  /-- A number is yielded. -/
  | cons {number : Nat} {c : NodeCell} {stack yielded : List Nat}
      (hcell : s.cells[number]? = some c) (h : Walks s (c.children ++ stack) yielded) :
      Walks s (number :: stack) (number :: yielded)

/-- The loop can go only one way. -/
theorem Walks.unique {s : NodeStore} {stack a b : List Nat} (ha : s.Walks stack a)
    (hb : s.Walks stack b) : a = b := by
  induction ha generalizing b with
  | nil =>
    cases hb
    rfl
  | cons hcell _ ih =>
    cases hb with
    | cons hcell' hb =>
      cases hcell.symm.trans hcell'
      rw [ih hb]

/-- **The number at a path** below a number. -/
def follow? (s : NodeStore) (number : Nat) : List Nat → Option Nat
  | [] => some number
  | i :: path => (s.cells[number]?.bind fun c => c.children[i]?).bind (s.follow? · path)

/-- **A number is at a path** below another, and stands for a tree. -/
def Leads (s : NodeStore) (start number : Nat) (e : List Nat × Node) : Prop :=
  s.follow? start e.1 = some number ∧ s.StandsFor number e.2

theorem forall₂_of_mapM {s : NodeStore} {depth : Nat} {numbers : List Nat} {ns : List Node}
    (h : numbers.mapM (s.treeTo? depth) = some ns) : List.Forall₂ s.StandsFor numbers ns :=
  (mapM_eq_some_iff.mp h).imp fun _ _ hn => ⟨depth, hn⟩

/-- What a number stands for is made of its cell and of what its children stand for. -/
theorem StandsFor.exists_cell {s : NodeStore} {number : Nat} {n : Node}
    (h : s.StandsFor number n) :
    ∃ c, s.cells[number]? = some c ∧ List.Forall₂ s.StandsFor c.children n.children := by
  obtain ⟨depth, h⟩ := h
  cases depth with
  | zero => cases h
  | succ depth =>
    simp only [treeTo?, bind, Option.bind_eq_some_iff, pure, Option.some.injEq] at h
    obtain ⟨c, hcell, ns, hns, rfl⟩ := h
    exact ⟨c, hcell, forall₂_of_mapM hns⟩

theorem follow?_append {s : NodeStore} {start number : Nat} {path : List Nat}
    (h : s.follow? start path = some number) (more : List Nat) :
    s.follow? start (path ++ more) = s.follow? number more := by
  induction path generalizing start with
  | nil =>
    cases h
    rfl
  | cons i path ih =>
    obtain ⟨next, hnext, h⟩ := Option.bind_eq_some_iff.mp h
    rw [List.cons_append, follow?, hnext, Option.bind_some, ih h]

/-- The trees with their paths, each as a number further than the one before. -/
def branches (path : List Nat) (ns : List Node) : List (List Nat × Node) :=
  ns.zipIdx.map fun e => (path ++ [e.2], e.1)

theorem map_snd_branches (path : List Nat) (ns : List Node) :
    (branches path ns).map Prod.snd = ns := by
  rw [branches, List.map_map]
  exact List.zipIdx_map_fst 0 ns

/-- **The children of a node are at the paths one step further.** -/
theorem Leads.children {s : NodeStore} {start number : Nat} {path : List Nat} {n : Node}
    (h : s.Leads start number (path, n)) :
    ∃ c, s.cells[number]? = some c
      ∧ List.Forall₂ (s.Leads start) c.children (branches path n.children) := by
  obtain ⟨hfollow, hstands⟩ := h
  obtain ⟨c, hcell, hchildren⟩ := hstands.exists_cell
  refine ⟨c, hcell, List.forall₂_iff_get.mpr ⟨?_, fun i hi hi' => ⟨?_, ?_⟩⟩⟩
  · simp [branches, hchildren.length_eq]
  · simp [branches, follow?_append hfollow, follow?, hcell]
  · have hi'' : i < n.children.length := by simpa [branches] using hi'
    simpa [branches] using hchildren.get hi hi''

/-- The nodes below a path, from the tree that is there. -/
def below (e : List Nat × Node) : List (List Nat × Node) :=
  e.2.listing.map fun f => (e.1 ++ f.1, f.2)

theorem map_listingFrom (path : List Nat) (ns : List Node) (number : Nat) :
    ((Node.listingFrom number ns).map fun f => (path ++ f.1, f.2))
      = (ns.zipIdx number).flatMap fun e => below (path ++ [e.2], e.1) := by
  induction ns generalizing number with
  | nil => simp [Node.listingFrom]
  | cons n ns ih => simp [Node.listingFrom, ih, below, Function.comp_def]

/-- Below a path are the tree there, and what is below its children. -/
theorem below_eq (path : List Nat) (n : Node) :
    below (path, n) = (path, n) :: (branches path n.children).flatMap below := by
  rw [below, Node.listing_eq, List.map_cons, map_listingFrom, branches, List.flatMap_map,
    List.append_nil]

/-- **The loop over what is on the stack** yields the numbers below, at their paths. -/
theorem walks_of_leads {s : NodeStore} {start : Nat} {stack : List Nat}
    {pending : List (List Nat × Node)} (h : List.Forall₂ (s.Leads start) stack pending) :
    ∃ yielded, s.Walks stack yielded
      ∧ List.Forall₂ (s.Leads start) yielded (pending.flatMap below) := by
  induction hns : pending.map Prod.snd using Node.walkStack.induct generalizing stack pending with
  | case1 =>
    cases List.map_eq_nil_iff.mp hns
    cases h
    exact ⟨[], .nil, .nil⟩
  | case2 n ns ih =>
    obtain ⟨⟨path, n⟩, pending, rfl, rfl, rfl⟩ := List.map_eq_cons_iff.mp hns
    cases h with
    | @cons number _ stack _ hfirst hrest =>
      obtain ⟨c, hcell, hchildren⟩ := hfirst.children
      obtain ⟨yielded, hwalks, hyielded⟩ := ih (List.rel_append hchildren hrest)
        (by rw [List.map_append, map_snd_branches])
      refine ⟨number :: yielded, .cons hcell hwalks, ?_⟩
      rw [List.flatMap_cons, below_eq, List.cons_append, ← List.flatMap_append]
      exact .cons hfirst hyielded

end NodeStore

namespace Dump

/-! ## The lines of a dump -/

/-- A guide of some level. -/
def IsGuide (color : Bool) (s : String) : Prop := ∃ last, s = guide color last

/-- **The segments that a line begins with**: guides for the levels above, and a branch for
its own. -/
inductive AreSegments (color : Bool) : List String → Prop where
  /-- The line of the root. -/
  | root : AreSegments color []
  /-- A line below it. -/
  | below {guides : List String} (h : ∀ s ∈ guides, IsGuide color s) (last : Bool) :
      AreSegments color (guides ++ [branch color last])

/-- **The entry of a node at a depth**: as many segments, each of three columns, and then the
head of the node. -/
def IsEntry (color : Bool) (depth : Nat) (n : Node) (line : String) : Prop :=
  ∃ segments, AreSegments color segments ∧ segments.length = depth
    ∧ (∀ s ∈ segments, (Text.stripColours s).length = 3)
    ∧ line = String.join segments ++ nodeHead color n

theorem columns_branch : ∀ color last, (Text.stripColours (branch color last)).length = 3 := by
  decide +kernel

theorem columns_guide : ∀ color last, (Text.stripColours (guide color last)).length = 3 := by
  decide +kernel

theorem isEntry_root (color : Bool) (n : Node) : IsEntry color 0 n ("" ++ nodeHead color n) :=
  ⟨[], .root, rfl, List.forall_mem_nil _, rfl⟩

theorem isEntry_below {color : Bool} {guides : List String} (h : ∀ s ∈ guides, IsGuide color s)
    (last : Bool) (n : Node) :
    IsEntry color (guides.length + 1) n
      (String.join guides ++ branch color last ++ nodeHead color n) := by
  refine ⟨guides ++ [branch color last], .below h last, by simp, ?_, by simp [String.join_append]⟩
  rw [List.forall_mem_append, List.forall_mem_singleton]
  refine ⟨fun s hs => ?_, columns_branch color last⟩
  obtain ⟨last, rfl⟩ := h s hs
  exact columns_guide color last

/-- **The lines of children are the entries of their nodes**, below as many levels as there
are guides. -/
theorem entries_childLines (color : Bool) (ns : List Node) (number : Nat) {guides : List String}
    (h : ∀ s ∈ guides, IsGuide color s) :
    List.Forall₂ (fun e line => IsEntry color (guides.length + e.1.length) e.2 line)
      (Node.listingFrom number ns) (childLines color (String.join guides) ns) := by
  induction ns using Node.forest_induction generalizing number guides with
  | nil =>
    rw [Node.listingFrom, childLines]
    exact .nil
  | cons n rest hchildren hrest =>
    have hguides : ∀ s ∈ guides ++ [guide color rest.isEmpty], IsGuide color s :=
      List.forall_mem_append.mpr ⟨h, List.forall_mem_singleton.mpr ⟨_, rfl⟩⟩
    have hindent : String.join (guides ++ [guide color rest.isEmpty])
        = String.join guides ++ guide color rest.isEmpty := by
      simp [String.join_append]
    have hbelow := hchildren 0 hguides
    rw [hindent] at hbelow
    have hfirst : List.Forall₂ (fun e line => IsEntry color (guides.length + e.1.length) e.2 line)
        (n.listing.map fun e => (number :: e.1, e.2))
        (nodeLines color (String.join guides ++ branch color rest.isEmpty)
          (String.join guides ++ guide color rest.isEmpty) n) := by
      rw [Node.listing_eq, List.map_cons]
      cases n
      rw [nodeLines]
      refine .cons (isEntry_below h _ _) ?_
      rw [List.forall₂_map_left_iff]
      refine hbelow.imp fun e line hentry => ?_
      rwa [List.length_append, List.length_singleton, Nat.add_assoc, Nat.add_comm 1] at hentry
    rw [Node.listingFrom, childLines]
    exact List.rel_append hfirst (hrest (number + 1) h)

/-- **The lines of a dump are the entries of the nodes**, at the depths of their paths. -/
theorem entries_nodeLines (color : Bool) (n : Node) :
    List.Forall₂ (fun e line => IsEntry color e.1.length e.2 line) n.listing
      (nodeLines color "" "" n) := by
  have hchildren := entries_childLines color n.children 0 (List.forall_mem_nil _)
  simp only [List.length_nil, Nat.zero_add] at hchildren
  obtain ⟨kind, label, value, children⟩ := n
  rw [Node.listing, nodeLines]
  exact .cons (isEntry_root color _) hchildren

end Dump

/-! ## Listed in pre-order -/

/-- **A tree is listed in pre-order** by the loop over its nodes, by the loop over numbers that
stand for it, and by the lines of its dump. -/
structure Node.ListedInPreorder (n : Node) : Prop where
  /-- The loop with a stack yields what recursion lists. -/
  walk : n.walk = n.preorder
  /-- The listing by paths has these nodes. -/
  nodes : n.listing.map Prod.snd = n.walk
  /-- Its paths are all that there are in the tree, with the nodes there. -/
  paths : ∀ path m, (path, m) ∈ n.listing ↔ n.at? path = some m
  /-- They are in lexicographic order, and so each is there once. -/
  once : (n.listing.map Prod.fst).Pairwise (· < ·)
  /-- Where nodes are shared, the loop ends, in one way only, and yields for each path the
  node at it. -/
  shared : ∀ (s : NodeStore) (start : Nat), s.StandsFor start n →
    ∃ yielded, s.Walks [start] yielded ∧ (∀ other, s.Walks [start] other → other = yielded)
      ∧ List.Forall₂ (s.Leads start) yielded n.listing
  /-- The dump has one line for each path, the entry of its node at the depth of the path. -/
  lines : ∀ color, List.Forall₂ (fun e line => Dump.IsEntry color e.1.length e.2 line) n.listing
    (Dump.nodeLines color "" "" n)

/-- **Every tree is listed in pre-order.** -/
theorem Node.listedInPreorder (n : Node) : n.ListedInPreorder where
  walk := n.walk_eq_preorder
  nodes := n.map_snd_listing.trans n.walk_eq_preorder.symm
  paths := fun _ _ => mem_listing
  once := n.pairwise_lt_listing
  shared := by
    intro s start hstands
    obtain ⟨yielded, hwalks, hleads⟩ :=
      NodeStore.walks_of_leads (.cons (b := ([], n)) ⟨rfl, hstands⟩ .nil)
    refine ⟨yielded, hwalks, fun other hother => hother.unique hwalks, ?_⟩
    simpa [NodeStore.below] using hleads
  lines := fun color => Dump.entries_nodeLines color n

/-- A node with two children that share their own. -/
def NodeStore.sharedLeaf : NodeStore :=
  ⟨#[⟨0, "root", none, [1, 2]⟩, ⟨1, "left", none, [3]⟩, ⟨2, "right", none, [3, 3]⟩,
    ⟨3, "leaf", some "x", []⟩]⟩

/-- The tree that it stands for. -/
def Node.sharedLeaf : Node :=
  .mk 0 "root" none [.mk 1 "left" none [.leaf 3 "leaf" (some "x")],
    .mk 2 "right" none [.leaf 3 "leaf" (some "x"), .leaf 3 "leaf" (some "x")]]

/-- The shared node is yielded three times, once for each path to it. -/
theorem Node.listedInPreorder_sharedLeaf : NodeStore.sharedLeaf.StandsFor 0 .sharedLeaf
    ∧ NodeStore.sharedLeaf.Walks [0] [0, 1, 3, 2, 3, 3]
    ∧ Node.sharedLeaf.listing.map Prod.fst = [[], [0], [0, 0], [1], [1, 0], [1, 1]]
    ∧ List.Forall₂ (NodeStore.sharedLeaf.Leads 0) [0, 1, 3, 2, 3, 3] Node.sharedLeaf.listing := by
  have hstands : NodeStore.sharedLeaf.StandsFor 0 .sharedLeaf := ⟨3, rfl⟩
  have hwalks : NodeStore.sharedLeaf.Walks [0] [0, 1, 3, 2, 3, 3] :=
    .cons rfl (.cons rfl (.cons rfl (.cons rfl (.cons rfl (.cons rfl .nil)))))
  obtain ⟨yielded, -, hunique, hleads⟩ := sharedLeaf.listedInPreorder.shared .sharedLeaf 0 hstands
  rw [← hunique _ hwalks] at hleads
  exact ⟨hstands, hwalks, by decide +kernel, hleads⟩

end ParseKit

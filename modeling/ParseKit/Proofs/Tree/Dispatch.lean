import ParseKit.Tree.Handler
import ParseKit.Proofs.Tree.Preorder
import Mathlib.Data.List.Induction
import Mathlib.Data.Set.Insert

/-!
# Visiting goes through a tree in pre-order

A handler that asks for the results of all children of its node visits them one after the
other, up to the first visit that fails (`Visitor.visitAll`), and goes on with the results or
fails alike (`Visitor.perform_children`).

A visitor **covers** a set of kinds if these have the handler that gives the results of the
children, and no other kind has a handler. Visiting with it goes on as long as kinds are
covered, and comes to the nodes in the order of a walk: it succeeds just if all nodes of the
tree are covered, and then the result is nested as the tree is; otherwise it fails at the
first node of the walk that is not (`Visitor.visit_of_covers`).
-/

namespace ParseKit

namespace Visitor

/-! ## Visits one after the other -/

/-- **Visits one after the other**, up to the first that fails. -/
def visitAll : List (Visitor → Outcome) → Visitor → Except VisitFailure (List Result) × Visitor
  | [], v => (.ok [], v)
  | visit :: rest, v =>
    match visit v with
    | (.error f, v) => (.error f, v)
    | (.ok r, v) =>
      match visitAll rest v with
      | (.error f, v) => (.error f, v)
      | (.ok rs, v) => (.ok (r :: rs), v)

theorem length_visitEach (ns : List Node) : (visitEach ns).length = ns.length := by
  induction ns with
  | nil => simp [visitEach]
  | cons n ns ih => simp [visitEach, ih]

theorem perform_childrenFrom (node : Node) {all visits : List (Visitor → Outcome)} {number : Nat}
    (hvisits : all.drop number = visits) (results : List Result) (next : List Result → Action)
    (v : Visitor) :
    perform node all (Action.childrenFrom number visits.length results next) v
      = match visitAll visits v with
        | (.error f, v) => (.error f, v)
        | (.ok rs, v) => perform node all (next (results ++ rs)) v := by
  induction visits generalizing number results v with
  | nil => simp [Action.childrenFrom, visitAll]
  | cons visit visits ih =>
    have hnumber : all[number]? = some visit := by
      rw [← List.head?_drop, hvisits, List.head?_cons]
    have hdrop : all.drop (number + 1) = visits := by
      rw [← List.tail_drop, hvisits, List.tail_cons]
    simp only [List.length_cons, Action.childrenFrom, perform, hnumber, visitAll]
    cases visit v with
    | mk outcome v =>
      cases outcome with
      | error f => rfl
      | ok r =>
        dsimp only
        rw [ih hdrop]
        cases visitAll visits v with
        | mk outcome v =>
          cases outcome with
          | error f => rfl
          | ok rs => simp

/-- **A handler that asks for the results of the children** goes on with them if all can be
visited, and fails as the first of them that cannot. -/
theorem perform_children (node : Node) (next : List Result → Action) (v : Visitor) :
    perform node (visitEach node.children) (Action.children node next) v
      = match visitAll (visitEach node.children) v with
        | (.error f, v) => (.error f, v)
        | (.ok rs, v) => perform node (visitEach node.children) (next rs) v := by
  rw [Action.children, ← length_visitEach, perform_childrenFrom node List.drop_zero]
  rfl

theorem visit_eq_perform {n : Node} {v : Visitor} {h : Handler} (hh : v.handler? n.kind = some h) :
    visit n v = perform n (visitEach n.children) (h n) v := by
  cases n with
  | mk kind label value children =>
    have hkind : v.handler? kind = some h := hh
    rw [visit, hkind]
    rfl

theorem visit_eq_error {n : Node} {v : Visitor} (hh : v.handler? n.kind = none) :
    visit n v = (.error (.error (.visit ⟨n.kind, n.label⟩)), v) := by
  cases n with
  | mk kind label value children =>
    have hkind : v.handler? kind = none := hh
    rw [visit, hkind]
    rfl

/-! ## Registering -/

theorem lookup_cons_of_ne {k key : Int} (h : k ≠ key) (old : Handler)
    (handlers : List (Int × Handler)) :
    ((key, old) :: handlers).lookup k = handlers.lookup k := by
  rw [List.lookup_cons, beq_false_of_ne h]

/-- Where a handler is put in place of another, only its kind has another one. -/
theorem lookup_replaced (handlers : List (Int × Handler)) (kind : Int) (h : Handler) (k : Int) :
    (handlers.map fun e => if e.1 == kind then (kind, h) else e).lookup k
      = if k = kind then (handlers.lookup kind).map fun _ => h else handlers.lookup k := by
  induction handlers with
  | nil => simp
  | cons e handlers ih =>
    obtain ⟨key, old⟩ := e
    rw [List.map_cons]
    by_cases hkey : key = kind
    · subst hkey
      rw [if_pos (beq_self_eq_true key)]
      by_cases hk : k = key
      · simp [hk]
      · rw [lookup_cons_of_ne hk, ih, lookup_cons_of_ne hk, if_neg hk, if_neg hk]
    · rw [if_neg (mt eq_of_beq hkey)]
      by_cases hk : k = key
      · subst hk
        simp [hkey]
      · rw [lookup_cons_of_ne hk, ih, lookup_cons_of_ne hk, lookup_cons_of_ne (Ne.symm hkey)]

/-- **A kind that is registered has the handler**, and all others have what they had. -/
theorem handler?_register (v : Visitor) (kind : Int) (h : Handler) (k : Int) :
    (v.register kind h).handler? k = if k = kind then some h else v.handler? k := by
  unfold register
  by_cases hhandles : v.handles kind = true
  · obtain ⟨old, hold⟩ := Option.isSome_iff_exists.mp hhandles
    have hlookup : v.handlers.lookup kind = some old := hold
    rw [if_pos hhandles]
    show List.lookup k (v.handlers.map _) = _
    rw [lookup_replaced, hlookup]
    rfl
  · have hnone : v.handlers.lookup kind = none := Option.not_isSome_iff_eq_none.mp hhandles
    rw [if_neg hhandles]
    show List.lookup k (v.handlers ++ [(kind, h)]) = _
    rw [List.lookup_append]
    by_cases hk : k = kind
    · simp [hk, hnone]
    · rw [lookup_cons_of_ne hk, List.lookup_nil, Option.or_none, if_neg hk]
      rfl

/-! ## Covering -/

/-- **A visitor covers a set of kinds**: these have the handler that gives the results of the
children, and no other kind has a handler. -/
structure Covers (v : Visitor) (kinds : Set Int) : Prop where
  /-- A kind of the set. -/
  covered : ∀ kind ∈ kinds, v.handler? kind = some Handler.children
  /-- Any other kind. -/
  other : ∀ kind ∉ kinds, v.handler? kind = none

theorem covers_empty : Visitor.Covers {} ∅ := ⟨fun _ h => h.elim, fun _ _ => rfl⟩

/-- Registering one kind more covers it too. -/
theorem Covers.register {v : Visitor} {kinds : Set Int} (h : v.Covers kinds) (kind : Int) :
    (v.register kind Handler.children).Covers (insert kind kinds) := by
  constructor
  · intro k hk
    rw [handler?_register]
    split
    · rfl
    · exact h.covered k (hk.resolve_left ‹_›)
  · intro k hk
    rw [handler?_register, if_neg fun heq => hk (.inl heq)]
    exact h.other k fun hmem => hk (.inr hmem)

/-- **The visitor of some kinds**, which are registered one after the other. -/
def covering (kinds : List Int) : Visitor :=
  kinds.foldl (fun v kind => v.register kind Handler.children) {}

theorem covers_covering (kinds : List Int) : (covering kinds).Covers {kind | kind ∈ kinds} := by
  induction kinds using List.reverseRecOn with
  | nil =>
    have hnone : {kind : Int | kind ∈ []} = ∅ := by simp
    rw [hnone]
    exact covers_empty
  | append_singleton kinds kind ih =>
    have hone : {k | k ∈ kinds ++ [kind]} = insert kind {k | k ∈ kinds} := by
      ext k
      simp [or_comm]
    rw [hone, covering, List.foldl_append]
    exact ih.register kind

end Visitor

mutual

/-- **The shape of a tree**: a compound for each node, with one item for each child. -/
def Node.shape : Node → Result
  | .mk _ _ _ children => .compound (Node.shapes children)

/-- The shapes of trees. -/
def Node.shapes : List Node → List Result
  | [] => []
  | n :: rest => n.shape :: Node.shapes rest

end

theorem Node.shape_eq (n : Node) : n.shape = .compound (Node.shapes n.children) := by
  cases n
  rw [shape, children]

/-- **The first node of a list whose kind is outside of a set.** -/
def Node.FirstOutside (kinds : Set Int) (ns : List Node) (m : Node) : Prop :=
  ∃ before after, ns = before ++ m :: after ∧ (∀ b ∈ before, b.kind ∈ kinds) ∧ m.kind ∉ kinds

namespace Visitor

/-- The failure at a node that has no handler. -/
def unhandled (m : Node) : VisitFailure := .error (.visit ⟨m.kind, m.label⟩)

variable {v : Visitor} {kinds : Set Int}

/-- **What visiting a tree comes to**: its shape if all its nodes are covered, or else a failure
at the first that is not. -/
def Reaches (v : Visitor) (kinds : Set Int) (n : Node) : Prop :=
  (∀ m ∈ n.preorder, m.kind ∈ kinds) ∧ visit n v = (.ok n.shape, v)
    ∨ ∃ m, Node.FirstOutside kinds n.preorder m ∧ visit n v = (.error (unhandled m), v)

/-- The same for trees that are visited one after the other. -/
def ReachesAll (v : Visitor) (kinds : Set Int) (ns : List Node) : Prop :=
  (∀ m ∈ Node.preorderAll ns, m.kind ∈ kinds)
      ∧ visitAll (visitEach ns) v = (.ok (Node.shapes ns), v)
    ∨ ∃ m, Node.FirstOutside kinds (Node.preorderAll ns) m
      ∧ visitAll (visitEach ns) v = (.error (unhandled m), v)

theorem Covers.visit (h : v.Covers kinds) {n : Node} (hchildren : v.ReachesAll kinds n.children) :
    v.Reaches kinds n := by
  rw [Reaches, Node.preorder_eq]
  by_cases hkind : n.kind ∈ kinds
  · rw [visit_eq_perform (h.covered n.kind hkind), Handler.children, perform_children,
      Node.shape_eq]
    rcases hchildren with ⟨hall, hvisit⟩ | ⟨m, ⟨before, after, heq, hbefore, hm⟩, hvisit⟩
    · rw [hvisit]
      exact .inl ⟨List.forall_mem_cons.mpr ⟨hkind, hall⟩, rfl⟩
    · rw [hvisit]
      refine .inr ⟨m, ⟨n :: before, after, by rw [heq, List.cons_append], ?_, hm⟩, rfl⟩
      exact List.forall_mem_cons.mpr ⟨hkind, hbefore⟩
  · refine .inr ⟨n, ⟨[], _, rfl, List.forall_mem_nil _, hkind⟩, ?_⟩
    exact visit_eq_error (h.other n.kind hkind)

theorem Covers.visitAll (h : v.Covers kinds) (ns : List Node) : v.ReachesAll kinds ns := by
  induction ns using Node.forest_induction with
  | nil =>
    refine .inl ⟨by simp [Node.preorderAll], ?_⟩
    rw [visitEach, Visitor.visitAll, Node.shapes]
  | cons n rest hchildren hrest =>
    rw [ReachesAll, Node.preorderAll, visitEach, Visitor.visitAll, Node.shapes]
    rcases h.visit hchildren with ⟨hall, hvisit⟩ | ⟨m, ⟨before, after, heq, hbefore, hm⟩, hvisit⟩
    · rw [hvisit]
      dsimp only
      rcases hrest with ⟨hall', hvisits⟩ | ⟨m, ⟨before, after, heq, hbefore, hm⟩, hvisits⟩
      · rw [hvisits]
        exact .inl ⟨List.forall_mem_append.mpr ⟨hall, hall'⟩, rfl⟩
      · rw [hvisits]
        refine .inr ⟨m, ⟨n.preorder ++ before, after, ?_, ?_, hm⟩, rfl⟩
        · rw [heq, List.append_assoc]
        · exact List.forall_mem_append.mpr ⟨hall, hbefore⟩
    · rw [hvisit]
      refine .inr ⟨m, ⟨before, after ++ Node.preorderAll rest, ?_, hbefore, hm⟩, rfl⟩
      rw [heq, List.append_assoc, List.cons_append]

/-- **Visiting a tree with a visitor that covers a set of kinds.** -/
structure Dispatched (v : Visitor) (kinds : Set Int) (n : Node) : Prop where
  /-- It succeeds just if all nodes of the walk have their kinds in the set. -/
  succeeds : (∃ r, (visit n v).1 = .ok r) ↔ ∀ m ∈ n.walk, m.kind ∈ kinds
  /-- The result then is nested as the tree is. -/
  result : ∀ r, (visit n v).1 = .ok r → r = n.shape
  /-- Otherwise it fails at the first node of the walk that has its kind outside. -/
  fails : (¬ ∀ m ∈ n.walk, m.kind ∈ kinds) →
    ∃ m, Node.FirstOutside kinds n.walk m ∧ (visit n v).1 = .error (unhandled m)
  /-- Nothing is written, registered or recorded. -/
  leaves : (visit n v).2 = v

/-- **Visiting goes through the nodes of a walk**, up to the first that is not covered. -/
theorem visit_of_covers (h : v.Covers kinds) (n : Node) : v.Dispatched kinds n := by
  have hreaches := h.visit (h.visitAll n.children)
  rw [Reaches, ← Node.walk_eq_preorder] at hreaches
  rcases hreaches with ⟨hall, hvisit⟩ | ⟨m, hfirst, hvisit⟩
  · rw [Prod.ext_iff] at hvisit
    refine ⟨⟨fun _ => hall, fun _ => ⟨_, hvisit.1⟩⟩, fun r hr => ?_, fun hnot => absurd hall hnot,
      hvisit.2⟩
    exact Except.ok.inj (hr.symm.trans hvisit.1)
  · rw [Prod.ext_iff] at hvisit
    have hnot : ¬ ∀ m ∈ n.walk, m.kind ∈ kinds := by
      obtain ⟨before, after, heq, -, hm⟩ := hfirst
      exact fun hall => hm (hall m (heq ▸ List.mem_append_right before List.mem_cons_self))
    have hfails : ¬ ∃ r, (visit n v).1 = .ok r := by
      rintro ⟨r, hr⟩
      cases hr.symm.trans hvisit.1
    exact ⟨⟨fun hok => absurd hok hfails, fun hall => absurd hall hnot⟩,
      fun r hr => absurd ⟨r, hr⟩ hfails, fun _ => ⟨m, hfirst, hvisit.1⟩, hvisit.2⟩

/-- A tree in which the first kind above eight is further down than the second. -/
def deepKind : Node :=
  .mk 0 "root" none [.leaf 8 "leaf", .mk 3 "inner" none [.leaf 9 "deep"], .leaf 10 "late"]

/-- With the kinds from zero to eight, visiting it fails at the deeper one. -/
theorem visit_of_covers_deepKind :
    (covering [0, 1, 2, 3, 4, 5, 6, 7, 8]).Covers {kind | kind ∈ [0, 1, 2, 3, 4, 5, 6, 7, 8]}
    ∧ (covering [0, 1, 2, 3, 4, 5, 6, 7, 8]).Dispatched {kind | kind ∈ [0, 1, 2, 3, 4, 5, 6, 7, 8]}
      deepKind
    ∧ (visit deepKind (covering [0, 1, 2, 3, 4, 5, 6, 7, 8])).1
      = .error (.error (.visit ⟨9, "deep"⟩)) :=
  ⟨covers_covering _, visit_of_covers (covers_covering _) deepKind, rfl⟩

end Visitor

end ParseKit

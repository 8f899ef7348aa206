import ParseKit.Proofs.Parsing.Commitment
import Mathlib.Data.List.Forall2

/-!
# No token is lost and none is used twice

A unit is **keeping** if it adds a leaf to its node for each token that it
takes, and adds the node of each unit that it lets parse and that makes one.
The tree of a keeping unit accounts for the tokens between the cursor before
and the cursor afterwards: its leaves, in order, stand for these tokens
without those that were skipped, each at most once.

A unit may let another parse, see it fail, and go on. What the failed unit
had taken is before the cursor of nobody, and may be taken again. To speak
of this, `Script.course` tells what a run does, step by step: which token is
taken, which are skipped, which unit makes a node and what it did for it,
and which unit fails and what it had taken till then. The steps that last,
`Course.lasting`, are those of the run and of the units that made nodes,
however deep. Each begins where the one before has ended
(`Script.course_covers`), and everything that is said of the tree is read
off this: two steps never take one token, and a token between two steps
there is not.

Whether a node is the leaf of a token or the node of a unit cannot be seen
from the node, since a unit may make a node without children; the course
knows. Where the two can be told apart by looking, the leaves of the tree
are those that one sees, `Node.leavesWhere`.
-/

namespace ParseKit

/-! ## Leaves -/

namespace Node

mutual

/-- **The leaves of a tree in order**, by a test that tells them from other
nodes. -/
def leavesWhere (isLeaf : Node → Bool) : Node → List Node
  | n@(mk _ _ _ children) => if isLeaf n then [n] else leavesWhereAll isLeaf children

/-- The leaves of trees in order. -/
def leavesWhereAll (isLeaf : Node → Bool) : List Node → List Node
  | [] => []
  | n :: rest => n.leavesWhere isLeaf ++ leavesWhereAll isLeaf rest

end

theorem leavesWhere_of_leaf {isLeaf : Node → Bool} {n : Node} (h : isLeaf n = true) :
    n.leavesWhere isLeaf = [n] := by
  cases n
  rw [leavesWhere, if_pos h]

theorem leavesWhere_of_not_leaf {isLeaf : Node → Bool} {n : Node} (h : isLeaf n = false) :
    n.leavesWhere isLeaf = leavesWhereAll isLeaf n.children := by
  cases n
  rw [leavesWhere, if_neg (by rw [h]; exact Bool.false_ne_true)]
  rfl

end Node

/-! ## Keeping units -/

/-- **A script keeps what it takes**, with the children that it has so far: it
adds a leaf for each token that it takes and the node of each unit that makes
one, and the node that it ends with has these children. The units that it
lets parse are keeping too. Whatever else it does is free: what it looks at,
what it skips, and whether it goes on after a failure. -/
def Script.Keeps (leafOf : Token → Node → Prop) : Script → List Node → Prop
  | .done n, built => n.children = built
  | .fail _, _ => True
  | .peek next, built => ∀ r, Keeps leafOf (next r) built
  | .eat next, built =>
    (∀ t, ∃ leaf, leafOf t leaf ∧ Keeps leafOf (next (.ok t)) (built ++ [leaf]))
      ∧ ∀ f, Keeps leafOf (next (.error f)) built
  | .require _ next, built =>
    (∀ t, ∃ leaf, leafOf t leaf ∧ Keeps leafOf (next (.ok t)) (built ++ [leaf]))
      ∧ ∀ f, Keeps leafOf (next (.error f)) built
  | .isKind _ next, built => ∀ b, Keeps leafOf (next b) built
  | .skipWhile _ next, built => Keeps leafOf next built
  | .look next, built => ∀ cursor size, Keeps leafOf (next cursor size) built
  | .parse _ unit next, built =>
    Keeps leafOf unit [] ∧ (∀ n, Keeps leafOf (next (.ok n)) (built ++ [n]))
      ∧ ∀ f, Keeps leafOf (next (.error f)) built
  | .parseOther _ next, built => ∀ f, Keeps leafOf (next (.error f)) built

/-! ## Courses -/

/-- **A step of a run.** Tokens are told by their indices. -/
inductive Happening where
  /-- A token is taken. -/
  | took (i : Nat)
  /-- The trivia before a unit is skipped. -/
  | trivia (start stop : Nat)
  /-- Tokens of some kinds are skipped. -/
  | skipped (kinds : Kinds) (start stop : Nat)
  /-- A unit fails; it and those within it had taken these tokens. -/
  | failed (taken : List Nat)
  deriving DecidableEq, Repr

/-- **What a run does, from first to last.** -/
inductive Course where
  /-- Nothing more. -/
  | done
  /-- A step, and what comes after it. -/
  | step (h : Happening) (rest : Course)
  /-- A unit makes a node in a course of its own. -/
  | made (n : Node) (inner rest : Course)

namespace Course

/-- **The steps that last**: those of the run and of the units that made
nodes, in order. -/
def lasting : Course → List Happening
  | done => []
  | step h rest => h :: rest.lasting
  | made _ inner rest => inner.lasting ++ rest.lasting

/-- The nodes that units made. -/
def nodes : Course → List Node
  | done => []
  | step _ rest => rest.nodes
  | made n inner rest => n :: (inner.nodes ++ rest.nodes)

end Course

/-- The token that a step takes and keeps. -/
def Happening.kept? : Happening → Option Nat
  | took i => some i
  | _ => none

/-- **The tokens that are kept** in some steps, in order. -/
def Happening.kept (steps : List Happening) : List Nat := steps.filterMap kept?

/-- The tokens that a step takes, kept or not. -/
def Happening.taken : Happening → List Nat
  | took i => [i]
  | failed taken => taken
  | _ => []

/-- **The course of a script on a state.** -/
def Script.course : Script → State → Course
  | .done _, _ => .done
  | .fail _, _ => .done
  | .peek next, s =>
    match s.peek with
    | .ok t => course (next (.ok t)) s
    | .error e => course (next (.error (refusal e))) s
  | .eat next, s =>
    match s.eat with
    | .ok (t, s') => .step (.took s.cursor) (course (next (.ok t)) s')
    | .error e => course (next (.error (refusal e))) s
  | .require kinds next, s =>
    match s.require kinds with
    | .ok (t, s') => .step (.took s.cursor) (course (next (.ok t)) s')
    | .error e => course (next (.error (refusal e))) s
  | .isKind kinds next, s => course (next (s.isKind kinds)) s
  | .skipWhile kinds next, s =>
    .step (.skipped kinds s.cursor (s.skipWhile kinds).cursor) (course next (s.skipWhile kinds))
  | .look next, s => course (next s.cursor s.tokens.length) s
  | .parse _ unit next, s =>
    let start := s.skipTrivia
    .step (.trivia s.cursor start.cursor) <|
      match (unit.run start).result with
      | .ok n =>
        .made n (course unit start)
          (course (next (.ok n)) (start.moveTo (unit.run start).state.cursor))
      | .error f =>
        .step (.failed ((course unit start).lasting.flatMap Happening.taken))
          (course (next (.error f)) start)
  | .parseOther shown next, s => course (next (.error (.notUnit shown))) s

/-- The course of letting a unit parse. -/
def State.courseOf (s : State) (name : String) (unit : Script) : Course :=
  (Script.parsed name unit .done).course s

/-! ## Each step begins where the one before has ended -/

/-- All tokens from an index to another are of some kinds. -/
def Kinds.Fill (kinds : Kinds) (tokens : List Token) (start stop : Nat) : Prop :=
  ∀ i, start ≤ i → i < stop → ∃ t, tokens[i]? = some t ∧ t.kind ∈ kinds

/-- **A step leads from a cursor to another**, over tokens that it takes or may
skip. A unit that fails leads nowhere, and took nothing before the cursor. -/
def Happening.Leads (tokens : List Token) (skipKinds : Kinds) :
    Nat → Happening → Nat → Prop
  | c, took i, d => i = c ∧ d = c + 1
  | c, trivia start stop, d => start = c ∧ stop = d ∧ c ≤ d ∧ skipKinds.Fill tokens c d
  | c, skipped kinds start stop, d => start = c ∧ stop = d ∧ c ≤ d ∧ kinds.Fill tokens c d
  | c, failed taken, d => d = c ∧ ∀ i ∈ taken, c ≤ i

/-- **Steps lead from a cursor to another**, one after the other. -/
inductive Covers (tokens : List Token) (skipKinds : Kinds) :
    Nat → List Happening → Nat → Prop
  | nil (c : Nat) : Covers tokens skipKinds c [] c
  | cons {c d e : Nat} {h : Happening} {rest : List Happening}
      (head : h.Leads tokens skipKinds c d) (tail : Covers tokens skipKinds d rest e) :
      Covers tokens skipKinds c (h :: rest) e

section Covers

variable {tokens : List Token} {skipKinds : Kinds} {c d e : Nat} {steps : List Happening}

theorem Happening.Leads.le {h : Happening} (hlead : h.Leads tokens skipKinds c d) : c ≤ d := by
  cases h with
  | took i =>
    obtain ⟨-, rfl⟩ := hlead
    exact Nat.le_succ c
  | trivia start stop => exact hlead.2.2.1
  | skipped kinds start stop => exact hlead.2.2.1
  | failed taken => exact hlead.1.ge

theorem Happening.Leads.le_taken {h : Happening} (hlead : h.Leads tokens skipKinds c d) {i : Nat}
    (hi : i ∈ h.taken) : c ≤ i := by
  cases h with
  | took j => exact (List.mem_singleton.mp hi ▸ hlead.1).ge
  | trivia start stop => cases hi
  | skipped kinds start stop => cases hi
  | failed taken => exact hlead.2 i hi

theorem Covers.append {steps' : List Happening} (h : Covers tokens skipKinds c steps d)
    (h' : Covers tokens skipKinds d steps' e) : Covers tokens skipKinds c (steps ++ steps') e := by
  induction h with
  | nil c => exact h'
  | cons head tail ih => exact .cons head (ih h')

theorem Covers.le (h : Covers tokens skipKinds c steps d) : c ≤ d := by
  induction h with
  | nil c => exact Nat.le_refl c
  | cons head tail ih => exact head.le.trans ih

/-- What is taken in some steps is not before them. -/
theorem Covers.le_taken (h : Covers tokens skipKinds c steps d) {i : Nat}
    (hi : i ∈ steps.flatMap Happening.taken) : c ≤ i := by
  induction h with
  | nil c => cases hi
  | cons head tail ih =>
    rw [List.flatMap_cons, List.mem_append] at hi
    rcases hi with hi | hi
    · exact head.le_taken hi
    · exact head.le.trans (ih hi)

/-- What is kept lies between the cursors. -/
theorem Covers.kept_within (h : Covers tokens skipKinds c steps d) {i : Nat}
    (hi : i ∈ Happening.kept steps) : c ≤ i ∧ i < d := by
  induction h with
  | nil c => cases hi
  | @cons c d e h rest head tail ih =>
    have hle := head.le
    rw [Happening.kept, List.filterMap_cons] at hi
    split at hi
    · exact ⟨hle.trans (ih hi).1, (ih hi).2⟩
    · rename_i j hj
      rcases List.mem_cons.mp hi with rfl | hi
      · cases h with
        | took j =>
          obtain ⟨rfl, rfl⟩ := head
          cases hj
          exact ⟨Nat.le_refl _, Nat.lt_of_succ_le tail.le⟩
        | trivia start stop => cases hj
        | skipped kinds start stop => cases hj
        | failed taken => cases hj
      · exact ⟨hle.trans (ih hi).1, (ih hi).2⟩

/-- **What is kept is kept in order**, and no token twice. -/
theorem Covers.kept_increasing (h : Covers tokens skipKinds c steps d) :
    (Happening.kept steps).Pairwise (· < ·) := by
  induction h with
  | nil c => exact List.Pairwise.nil
  | @cons c d e h rest head tail ih =>
    cases h with
    | took j =>
      obtain ⟨rfl, rfl⟩ := head
      exact List.pairwise_cons.mpr ⟨fun i hi => (tail.kept_within hi).1, ih⟩
    | trivia start stop => exact ih
    | skipped kinds start stop => exact ih
    | failed taken => exact ih

/-- **A token that is not kept was skipped.** -/
theorem Covers.skipped (h : Covers tokens skipKinds c steps d) {i : Nat} (hc : c ≤ i) (hd : i < d)
    (hi : i ∉ Happening.kept steps) :
    ∃ t, tokens[i]? = some t ∧ (t.kind ∈ skipKinds
      ∨ ∃ kinds start stop, .skipped kinds start stop ∈ steps ∧ start ≤ i ∧ i < stop
        ∧ t.kind ∈ kinds) := by
  induction h with
  | nil c => exact absurd (hc.trans_lt hd) (Nat.lt_irrefl _)
  | @cons c d e h rest head tail ih =>
    rcases Nat.lt_or_ge i d with hlt | hge
    · cases h with
      | took j =>
        obtain ⟨rfl, rfl⟩ := head
        obtain rfl : i = j := Nat.le_antisymm (Nat.le_of_lt_succ hlt) hc
        exact absurd (List.mem_cons_self ..) hi
      | trivia start stop =>
        obtain ⟨-, -, -, hfill⟩ := head
        obtain ⟨t, ht, hkind⟩ := hfill i hc hlt
        exact ⟨t, ht, Or.inl hkind⟩
      | skipped kinds start stop =>
        obtain ⟨rfl, rfl, -, hfill⟩ := head
        obtain ⟨t, ht, hkind⟩ := hfill i hc hlt
        exact ⟨t, ht, Or.inr ⟨kinds, start, stop, List.mem_cons_self .., hc, hlt, hkind⟩⟩
      | failed taken =>
        obtain ⟨rfl, -⟩ := head
        exact absurd (hc.trans_lt hlt) (Nat.lt_irrefl _)
    · have hrest : i ∉ Happening.kept rest := fun hmem => hi <| by
        rw [Happening.kept, List.filterMap_cons]
        split
        · exact hmem
        · exact List.mem_cons_of_mem _ hmem
      obtain ⟨t, ht, hkind⟩ := ih hge hd hrest
      refine ⟨t, ht, hkind.imp_right ?_⟩
      rintro ⟨kinds, start, stop, hmem, h⟩
      exact ⟨kinds, start, stop, List.mem_cons_of_mem _ hmem, h⟩

/-- Steps in two parts meet at a cursor. -/
theorem Covers.of_append {before after : List Happening}
    (h : Covers tokens skipKinds c (before ++ after) e) :
    ∃ d, Covers tokens skipKinds c before d ∧ Covers tokens skipKinds d after e := by
  induction before generalizing c with
  | nil => exact ⟨c, .nil c, h⟩
  | cons step rest ih =>
    cases h with
    | cons head tail =>
      obtain ⟨d, hrest, hafter⟩ := ih tail
      exact ⟨d, .cons head hrest, hafter⟩

/-- **What a unit took that failed is kept only if it is taken again later.** -/
theorem Covers.kept_after_failed {before after : List Happening} {taken : List Nat}
    (h : Covers tokens skipKinds c (before ++ .failed taken :: after) e) {i : Nat} (hi : i ∈ taken)
    (hkept : i ∈ Happening.kept (before ++ .failed taken :: after)) :
    i ∈ Happening.kept after := by
  obtain ⟨d, hbefore, hafter⟩ := h.of_append
  rw [Happening.kept, List.filterMap_append, List.mem_append] at hkept
  rcases hkept with hkept | hkept
  · -- what was kept before lies before the cursor, and the unit began at the cursor
    have hlt : i < d := (hbefore.kept_within hkept).2
    have hge : d ≤ i := hafter.le_taken (List.mem_append_left _ hi)
    exact absurd (hge.trans_lt hlt) (Nat.lt_irrefl _)
  · exact hkept

end Covers

/-- The token at the cursor is the one with the index of the cursor. -/
theorem State.getElem?_of_rest {s : State} {t : Token} {rest : List Token}
    (h : s.rest = t :: rest) : s.tokens[s.cursor]? = some t := by
  rw [← Nat.add_zero s.cursor, ← List.getElem?_drop, ← State.rest, h]
  rfl

/-- What is skipped is of the kinds. -/
theorem State.fill_skipWhile (s : State) (kinds : Kinds) :
    kinds.Fill s.tokens s.cursor (s.skipWhile kinds).cursor := by
  intro i hi hlt
  obtain ⟨j, rfl⟩ := Nat.exists_eq_add_of_le hi
  have hj : j < (s.rest.takeWhile fun t => kinds.contains t.kind).length :=
    Nat.lt_of_add_lt_add_left hlt
  have hfront := List.takeWhile_prefix (l := s.rest) fun t : Token => kinds.contains t.kind
  have hget : s.tokens[s.cursor + j]?
      = some (s.rest.takeWhile fun t => kinds.contains t.kind)[j] := by
    rw [← List.getElem?_drop]
    exact List.getElem?_eq_some_iff.mpr ⟨hj.trans_le hfront.length_le, (hfront.getElem hj).symm⟩
  have hskip : kinds.contains (s.rest.takeWhile fun t => kinds.contains t.kind)[j].kind = true :=
    List.mem_takeWhile_imp (p := fun t : Token => kinds.contains t.kind) (List.getElem_mem hj)
  exact ⟨_, hget, List.contains_iff_mem.mp hskip⟩

theorem State.leads_skipWhile (s : State) (kinds : Kinds) :
    s.cursor ≤ (s.skipWhile kinds).cursor
      ∧ kinds.Fill s.tokens s.cursor (s.skipWhile kinds).cursor :=
  ⟨Nat.le_add_right _ _, s.fill_skipWhile kinds⟩

/-- **The lasting steps of a run lead from its first cursor to its last**, one
after the other and without a gap. -/
theorem Script.course_covers (u : Script) (s : State) :
    Covers s.tokens s.skipKinds s.cursor (u.course s).lasting (u.run s).state.cursor := by
  induction u generalizing s with
  | done n => exact .nil _
  | fail f => exact .nil _
  | peek next ih =>
    rw [course, run]
    cases s.peek with
    | ok t => exact ih _ s
    | error e => exact ih _ s
  | eat next ih =>
    rw [course, run]
    cases heat : s.eat with
    | ok p =>
      obtain ⟨t, s'⟩ := p
      obtain ⟨rfl, -⟩ := State.eat_eq_ok heat
      exact .cons ⟨rfl, rfl⟩ (ih _ s.advance)
    | error e => exact ih _ s
  | require kinds next ih =>
    rw [course, run]
    cases hrequire : s.require kinds with
    | ok p =>
      obtain ⟨t, s'⟩ := p
      obtain ⟨rfl, -⟩ := State.require_eq_ok hrequire
      exact .cons ⟨rfl, rfl⟩ (ih _ s.advance)
    | error e => exact ih _ s
  | isKind kinds next ih => exact ih _ s
  | skipWhile kinds next ih =>
    exact .cons ⟨rfl, rfl, s.leads_skipWhile kinds⟩ (ih (s.skipWhile kinds))
  | look next ih => exact ih _ _ s
  | parse name unit next ihunit ih =>
    have hinner := ihunit s.skipTrivia
    rw [course, run]
    dsimp only
    refine .cons ⟨rfl, rfl, s.leads_skipWhile s.skipKinds⟩ ?_
    cases (unit.run s.skipTrivia).result with
    | ok n =>
      -- the steps of the unit lead on to where it has come, and that is committed
      exact hinner.append (ih (.ok n) (s.skipTrivia.moveTo (unit.run s.skipTrivia).state.cursor))
    | error f =>
      -- the unit began here and is back here, whatever it had taken
      exact .cons ⟨rfl, fun i hi => hinner.le_taken hi⟩ (ih _ s.skipTrivia)
  | parseOther shown next ih => exact ih _ s

/-! ## The tree grows as the course says -/

/-- **Trees bear leaves in a course**: for each token that is taken a leaf that
stands for it, for each unit that makes a node this node with the leaves that
it bears in the course of the unit, and nothing else. -/
inductive Course.Bears (leafOf : Token → Node → Prop) (tokens : List Token) :
    Course → List Node → List Node → Prop
  | done : Bears leafOf tokens .done [] []
  | took {i : Nat} {t : Token} {leaf : Node} {rest : Course} {trees leaves : List Node}
      (token : tokens[i]? = some t) (stands : leafOf t leaf)
      (tail : Bears leafOf tokens rest trees leaves) :
      Bears leafOf tokens (.step (.took i) rest) (leaf :: trees) (leaf :: leaves)
  | passed {h : Happening} {rest : Course} {trees leaves : List Node} (none : h.kept? = none)
      (tail : Bears leafOf tokens rest trees leaves) :
      Bears leafOf tokens (.step h rest) trees leaves
  | made {n : Node} {inner rest : Course} {trees leaves leaves' : List Node}
      (within : Bears leafOf tokens inner n.children leaves)
      (tail : Bears leafOf tokens rest trees leaves') :
      Bears leafOf tokens (.made n inner rest) (n :: trees) (leaves ++ leaves')

namespace Course.Bears

variable {leafOf : Token → Node → Prop} {tokens : List Token} {course : Course}
  {trees leaves : List Node}

/-- **The leaves stand for the tokens that are kept**, in order. -/
theorem stand (h : course.Bears leafOf tokens trees leaves) :
    List.Forall₂ (fun i leaf => ∃ t, tokens[i]? = some t ∧ leafOf t leaf)
      (Happening.kept course.lasting) leaves := by
  induction h with
  | done => exact .nil
  | took token stands tail ih => exact .cons ⟨_, token, stands⟩ ih
  | passed hnone tail ih =>
    rw [lasting, Happening.kept, List.filterMap_cons_none hnone]
    exact ih
  | made within tail ihwithin ih =>
    rw [lasting, Happening.kept, List.filterMap_append]
    exact List.rel_append ihwithin ih

/-- **The leaves are those that one sees**, if they can be told from the nodes
of the units. -/
theorem leavesWhereAll_eq {isLeaf : Node → Bool} (h : course.Bears leafOf tokens trees leaves)
    (hleaf : ∀ t leaf, leafOf t leaf → isLeaf leaf = true)
    (hnode : ∀ m ∈ course.nodes, isLeaf m = false) : Node.leavesWhereAll isLeaf trees = leaves := by
  induction h with
  | done => rfl
  | took token stands tail ih =>
    rw [Node.leavesWhereAll, Node.leavesWhere_of_leaf (hleaf _ _ stands), ih hnode]
    rfl
  | passed hnone tail ih => exact ih hnode
  | made within tail ihwithin ih =>
    rw [nodes, List.forall_mem_cons, List.forall_mem_append] at hnode
    rw [Node.leavesWhereAll, Node.leavesWhere_of_not_leaf hnode.1, ihwithin hnode.2.1,
      ih hnode.2.2]

end Course.Bears

/-- **The node of a keeping script bears leaves in the course of the script**,
from the children on that the script began with. -/
theorem Script.bears_of_keeps {leafOf : Token → Node → Prop} {u : Script} {built : List Node}
    {s : State} {n : Node} (hkeeps : u.Keeps leafOf built) (h : (u.run s).result = .ok n) :
    ∃ trees leaves, n.children = built ++ trees
      ∧ (u.course s).Bears leafOf s.tokens trees leaves := by
  induction u generalizing s n built with
  | done m =>
    cases h
    exact ⟨[], [], by rw [List.append_nil]; exact hkeeps, .done⟩
  | fail f => cases h
  | peek next ih =>
    rw [run] at h
    rw [course]
    cases hpeek : s.peek with
    | ok t =>
      rw [hpeek] at h
      exact ih _ (hkeeps _) h
    | error e =>
      rw [hpeek] at h
      exact ih _ (hkeeps _) h
  | eat next ih =>
    rw [run] at h
    rw [course]
    cases heat : s.eat with
    | ok p =>
      obtain ⟨t, s'⟩ := p
      rw [heat] at h
      obtain ⟨rfl, rest, hrest⟩ := State.eat_eq_ok heat
      obtain ⟨leaf, hleaf, hnext⟩ := hkeeps.1 t
      obtain ⟨trees, leaves, hchildren, hbears⟩ := ih _ hnext h
      refine ⟨leaf :: trees, leaf :: leaves, by simpa using hchildren, ?_⟩
      exact .took (State.getElem?_of_rest hrest) hleaf hbears
    | error e =>
      rw [heat] at h
      exact ih _ (hkeeps.2 _) h
  | require kinds next ih =>
    rw [run] at h
    rw [course]
    cases hrequire : s.require kinds with
    | ok p =>
      obtain ⟨t, s'⟩ := p
      rw [hrequire] at h
      obtain ⟨rfl, -, rest, hrest⟩ := State.require_eq_ok hrequire
      obtain ⟨leaf, hleaf, hnext⟩ := hkeeps.1 t
      obtain ⟨trees, leaves, hchildren, hbears⟩ := ih _ hnext h
      refine ⟨leaf :: trees, leaf :: leaves, by simpa using hchildren, ?_⟩
      exact .took (State.getElem?_of_rest hrest) hleaf hbears
    | error e =>
      rw [hrequire] at h
      exact ih _ (hkeeps.2 _) h
  | isKind kinds next ih => exact ih _ (hkeeps _) h
  | skipWhile kinds next ih =>
    obtain ⟨trees, leaves, hchildren, hbears⟩ := ih hkeeps h
    exact ⟨trees, leaves, hchildren, .passed rfl hbears⟩
  | look next ih => exact ih _ _ (hkeeps _ _) h
  | parse name unit next ihunit ih =>
    obtain ⟨hunit, hok, herror⟩ := hkeeps
    rw [run] at h
    rw [course]
    dsimp only at h ⊢
    cases hinner : (unit.run s.skipTrivia).result with
    | ok m =>
      rw [hinner] at h
      obtain ⟨inner, leaves, hm, hbears⟩ := ihunit hunit hinner
      obtain ⟨trees, leaves', hchildren, htail⟩ := ih _ (hok m) h
      rw [List.nil_append] at hm
      refine ⟨m :: trees, leaves ++ leaves', by simpa using hchildren, .passed rfl ?_⟩
      exact .made (hm ▸ hbears) htail
    | error f =>
      rw [hinner] at h
      obtain ⟨trees, leaves, hchildren, hbears⟩ := ih _ (herror f) h
      exact ⟨trees, leaves, hchildren, .passed rfl (.passed rfl hbears)⟩
  | parseOther shown next ih => exact ih _ (hkeeps _) h

/-! ## The tree accounts for the tokens -/

/-- **A tree accounts for the tokens from the cursor of a state to another**, by
its leaves and the course in which it grew. -/
structure State.Accounts (s : State) (leafOf : Token → Node → Prop) (stop : Nat)
    (course : Course) (tree : Node) (leaves : List Node) : Prop where
  /-- The tree is what grew in the course, and has these leaves. -/
  grown : course.Bears leafOf s.tokens [tree] leaves
  /-- They are the leaves that one sees, where these can be told from the nodes of
  units. -/
  seen : ∀ isLeaf : Node → Bool, (∀ t leaf, leafOf t leaf → isLeaf leaf = true) →
    (∀ m ∈ course.nodes, isLeaf m = false) → tree.leavesWhere isLeaf = leaves
  /-- Each leaf stands for the token that was kept for it. -/
  stand : List.Forall₂ (fun i leaf => ∃ t, s.tokens[i]? = some t ∧ leafOf t leaf)
    (Happening.kept course.lasting) leaves
  /-- The tokens are kept in order, and none twice. -/
  increasing : (Happening.kept course.lasting).Pairwise (· < ·)
  /-- They lie between the cursors. -/
  within : ∀ i ∈ Happening.kept course.lasting, s.cursor ≤ i ∧ i < stop
  /-- A token that is left out is trivia, or it was skipped as one of the kinds of
  a step. -/
  leftOut : ∀ i, s.cursor ≤ i → i < stop → i ∉ Happening.kept course.lasting →
    ∃ t, s.tokens[i]? = some t ∧ (t.kind ∈ s.skipKinds
      ∨ ∃ kinds start stop, .skipped kinds start stop ∈ course.lasting ∧ start ≤ i ∧ i < stop
        ∧ t.kind ∈ kinds)
  /-- What a unit took that failed is kept only if it is taken again later. -/
  again : ∀ before taken after, course.lasting = before ++ .failed taken :: after →
    ∀ i ∈ taken, i ∈ Happening.kept course.lasting → i ∈ Happening.kept after

/-- **No token is lost and none is used twice.** The tree that a keeping unit
makes accounts for the tokens over which the cursor is moved. -/
theorem State.parse_accounts_for_tokens {leafOf : Token → Node → Prop} {s : State}
    {name : String} {unit : Script} {tree : Node} (hkeeps : unit.Keeps leafOf [])
    (h : (s.parse name unit).result = .ok tree) :
    ∃ leaves, s.Accounts leafOf (s.parse name unit).state.cursor (s.courseOf name unit) tree
      leaves := by
  have hcovers : Covers s.tokens s.skipKinds s.cursor (s.courseOf name unit).lasting
      (s.parse name unit).state.cursor :=
    (Script.parsed name unit .done).course_covers s
  have hunit : (unit.run s.skipTrivia).result = .ok tree := by rw [← s.result_parse name unit, h]
  obtain ⟨trees, leaves, htrees, hbears⟩ := Script.bears_of_keeps hkeeps hunit
  rw [List.nil_append] at htrees
  have hgrown : (s.courseOf name unit).Bears leafOf s.tokens [tree] leaves := by
    rw [courseOf, Script.parsed, Script.course, hunit, ← List.append_nil leaves]
    exact .passed rfl (.made (htrees ▸ hbears) .done)
  refine ⟨leaves, hgrown, fun isLeaf hleaf hnode => ?_, hgrown.stand, hcovers.kept_increasing,
    fun i hi => hcovers.kept_within hi, fun i hi hlt => hcovers.skipped hi hlt, ?_⟩
  · have hall := hgrown.leavesWhereAll_eq hleaf hnode
    rwa [Node.leavesWhereAll, Node.leavesWhereAll, List.append_nil] at hall
  · intro before taken after hsteps i hi hkept
    rw [hsteps] at hcovers hkept
    exact hcovers.kept_after_failed hi hkept

/-- A leaf with all that there is to know of a token. -/
def Token.asLeaf (t : Token) : Node := .leaf t.kind t.label (some t.text)

/-- Two tokens with a token of the third kind after them. -/
def Script.pairUnit : Script :=
  .eaten fun a => .eaten fun b => .required [3] fun c =>
    .done (.mk 10 "pair" none [a.asLeaf, b.asLeaf, c.asLeaf])

/-- One token, and whatever commas come after it. -/
def Script.itemUnit : Script :=
  .eaten fun a => .skipWhile [2] (.done (.mk 11 "item" none [a.asLeaf]))

/-- A pair, or else two items. -/
def Script.retryingUnit : Script :=
  .parse "pair" pairUnit fun
    | .ok n => .done (.mk 12 "list" none [n])
    | .error _ => .parsed "item" itemUnit fun n => .parsed "item" itemUnit fun m =>
      .done (.mk 12 "list" none [n, m])

/-- Trivia, an item with a comma, trivia and an item. -/
def State.twoItems : State where
  tokens := [.synthetic " " 0, .synthetic "a" 1, .synthetic "," 2, .synthetic " " 0,
    .synthetic "b" 1]
  skipKinds := [0]

/-- The pair takes the second and the third token before it fails. Of these the
second is taken again and kept, the third is skipped. -/
theorem State.parse_accounts_for_tokens_retrying :
    Script.retryingUnit.Keeps (fun t leaf => leaf = t.asLeaf) []
      ∧ (twoItems.parse "list" Script.retryingUnit).result
        = .ok (.mk 12 "list" none [.mk 11 "item" none [.leaf 1 "a" (some "a")],
          .mk 11 "item" none [.leaf 1 "b" (some "b")]])
      ∧ (twoItems.courseOf "list" Script.retryingUnit).lasting
        = [.trivia 0 1, .trivia 1 1, .failed [1, 2], .trivia 1 1, .took 1, .skipped [2] 2 3,
          .trivia 3 4, .took 4, .skipped [2] 5 5]
      ∧ ∃ leaves, twoItems.Accounts (fun t leaf => leaf = t.asLeaf) 5
        (twoItems.courseOf "list" Script.retryingUnit)
        (.mk 12 "list" none [.mk 11 "item" none [.leaf 1 "a" (some "a")],
          .mk 11 "item" none [.leaf 1 "b" (some "b")]]) leaves := by
  have hkeeps : Script.retryingUnit.Keeps (fun t leaf => leaf = t.asLeaf) [] := by
    simp [Script.retryingUnit, Script.pairUnit, Script.itemUnit, Script.Keeps, Script.eaten,
      Script.required, Script.parsed, Script.orFail, Node.children]
  have hresult : (twoItems.parse "list" Script.retryingUnit).result
      = .ok (.mk 12 "list" none [.mk 11 "item" none [.leaf 1 "a" (some "a")],
        .mk 11 "item" none [.leaf 1 "b" (some "b")]]) := by
    decide +kernel
  have hcursor : (twoItems.parse "list" Script.retryingUnit).state.cursor = 5 := by decide +kernel
  refine ⟨hkeeps, hresult, by decide +kernel, ?_⟩
  rw [← hcursor]
  exact twoItems.parse_accounts_for_tokens hkeeps hresult

end ParseKit

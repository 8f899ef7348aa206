import ParseKit.Proofs.Parsing.Accounting
import Mathlib.Logic.Relation

/-!
# What holds at every point of a parse

Laws about runs say how a run begins and ends. A parser that works on state objects
can be looked at while it runs: one unit is at work on its object, the objects of the
units that wait for it are half done, and those of units that have ended are left
behind. This module says what holds of all of them at every point.

`Machine` is a parser at a point: the script that is at work, its object, the scripts
that wait, each with its own object, and the store. `Machine.step` is what it does
next, an operation at a time; skipping takes a token at a time. `Machine.reaches_runIn`
says that the machine is another reading of `Script.runIn`, and so of `Script.run`: it
ends where they end.

All that a step can do to the store is told by `Machine.Effect`: nothing, move the
cursor of the object at work over a token, make a copy of that object, or move the
cursor of the object that waits to where the unit has come. The last is the only one
that could move a cursor back. That it does not is due to an invariant of the whole
stack (`Machine.Sound`): the objects that wait are older than the ones that they wait
for, and no further.
-/

namespace ParseKit

namespace State

/-! ## Skipping, a token at a time -/

theorem rest_of_isKind {s : State} {kinds : Kinds} (h : s.isKind kinds = true) :
    ∃ t rest, s.rest = t :: rest ∧ kinds.contains t.kind = true := by
  unfold isKind at h
  split at h
  · rename_i t rest hrest
    exact ⟨t, rest, hrest, h⟩
  · cases h

/-- A token that may be skipped is skipped first. -/
theorem skipWhile_of_isKind {s : State} {kinds : Kinds} (h : s.isKind kinds = true) :
    s.skipWhile kinds = s.advance.skipWhile kinds := by
  obtain ⟨t, rest, hrest, hkind⟩ := rest_of_isKind h
  have hfirst : (s.rest.takeWhile fun t => kinds.contains t.kind)
      = t :: s.advance.rest.takeWhile fun t => kinds.contains t.kind := by
    rw [rest_advance hrest, hrest]
    exact List.takeWhile_cons_of_pos hkind
  rw [skipWhile, hfirst, List.length_cons, Nat.add_comm _ 1, ← Nat.add_assoc]
  rfl

/-- Where no token may be skipped, none is. -/
theorem skipWhile_of_not_isKind {s : State} {kinds : Kinds} (h : s.isKind kinds = false) :
    s.skipWhile kinds = s := by
  have hnone : (s.rest.takeWhile fun t => kinds.contains t.kind) = [] := by
    unfold isKind at h
    split at h
    · rename_i t rest hrest
      rw [hrest]
      exact List.takeWhile_cons_of_neg (Bool.eq_false_iff.mp h)
    · rename_i hrest
      rw [hrest, List.takeWhile_nil]
  rw [skipWhile, hnone]
  rfl

/-- **Skipping ends where no token may be skipped.** -/
theorem isKind_skipWhile (s : State) (kinds : Kinds) :
    (s.skipWhile kinds).isKind kinds = false := by
  cases h : (s.skipWhile kinds).isKind kinds with
  | false => rfl
  | true =>
    obtain ⟨t, rest, hrest, hkind⟩ := rest_of_isKind h
    rw [rest_skipWhile] at hrest
    have hfirst := List.head?_dropWhile_not (fun t => kinds.contains t.kind) s.rest
    rw [hrest] at hfirst
    exact absurd hkind (Bool.eq_false_iff.mp hfirst)

end State

/-! ## Stores that grow -/

namespace Store

/-- Moves the cursor of an object. -/
def moveAt (σ : Store) (i cursor : Nat) : Store := σ.set i ((σ.at i).moveTo cursor)

@[simp] theorem length_moveAt (σ : Store) (i cursor : Nat) :
    (σ.moveAt i cursor).length = σ.length :=
  List.length_set

theorem getElem?_at {σ : Store} {i : Nat} (h : i < σ.length) : σ[i]? = some (σ.at i) := by
  rw [Store.at, List.getD_eq_getElem?_getD, List.getElem?_eq_getElem h, Option.getD_some]

theorem at_mem {σ : Store} {i : Nat} (h : i < σ.length) : σ.at i ∈ σ :=
  List.mem_of_getElem? (getElem?_at h)

@[simp] theorem at_moveAt (σ : Store) {i : Nat} (cursor : Nat) (h : i < σ.length) :
    (σ.moveAt i cursor).at i = (σ.at i).moveTo cursor :=
  at_set σ _ h

theorem at_moveAt_ne (σ : Store) {i j : Nat} (cursor : Nat) (h : i ≠ j) :
    (σ.moveAt i cursor).at j = σ.at j := by
  rw [moveAt, Store.at, List.getD_eq_getElem?_getD, List.getElem?_set_ne h,
    ← List.getD_eq_getElem?_getD, ← Store.at]

/-- **A store grows into another**: each of its objects is still there, with a cursor
that is not further back and all else as it was. -/
def Grows (σ τ : Store) : Prop :=
  ∀ (i : Nat) (s : State), σ[i]? = some s →
    ∃ cursor, s.cursor ≤ cursor ∧ τ[i]? = some (s.moveTo cursor)

theorem Grows.refl (σ : Store) : σ.Grows σ := fun _ s h => ⟨s.cursor, Nat.le_refl _, h⟩

theorem Grows.trans {σ τ υ : Store} (h : σ.Grows τ) (h' : τ.Grows υ) : σ.Grows υ := by
  intro i s hs
  obtain ⟨c, hc, hτ⟩ := h i s hs
  obtain ⟨d, hd, hυ⟩ := h' i _ hτ
  exact ⟨d, hc.trans hd, hυ⟩

theorem grows_append (σ τ : Store) : σ.Grows (σ ++ τ) := fun i s h =>
  ⟨s.cursor, Nat.le_refl _, by
    rw [List.getElem?_append_left (List.getElem?_eq_some_iff.mp h).1]
    exact h⟩

/-- A store grows when a cursor is moved, unless it is moved back. -/
theorem grows_moveAt {σ : Store} {i cursor : Nat} (h : (σ.at i).cursor ≤ cursor) :
    σ.Grows (σ.moveAt i cursor) := by
  intro j s hs
  by_cases hij : i = j
  · subst hij
    rw [at_of_getElem? hs] at h
    refine ⟨cursor, h, ?_⟩
    rw [moveAt, at_of_getElem? hs, List.getElem?_set_self (List.getElem?_eq_some_iff.mp hs).1]
  · refine ⟨s.cursor, Nat.le_refl _, ?_⟩
    rw [moveAt, List.getElem?_set_ne hij]
    exact hs

/-- **Objects are nested**: each is newer than the next, and at least as far. -/
def Nested (σ : Store) (objects : List Nat) : Prop :=
  objects.Pairwise fun i j => j < i ∧ (σ.at j).cursor ≤ (σ.at i).cursor

/-- Objects are nested in every store that has them in the same states. -/
theorem Nested.congr {σ τ : Store} {objects : List Nat} (h : σ.Nested objects)
    (hsame : ∀ i ∈ objects, τ.at i = σ.at i) : τ.Nested objects := by
  refine List.Pairwise.imp_of_mem (fun {i j} hi hj hij => ?_) h
  rw [hsame i hi, hsame j hj]
  exact hij

/-- Nested objects stay so when the first goes on. -/
theorem Nested.moveAt {σ : Store} {i cursor : Nat} {rest : List Nat} (h : σ.Nested (i :: rest))
    (hi : i < σ.length) (hcursor : (σ.at i).cursor ≤ cursor) :
    (σ.moveAt i cursor).Nested (i :: rest) := by
  obtain ⟨hfirst, hrest⟩ := List.pairwise_cons.mp h
  have hsame : ∀ j ∈ rest, (σ.moveAt i cursor).at j = σ.at j := fun j hj =>
    at_moveAt_ne σ cursor (hfirst j hj).1.ne'
  refine List.pairwise_cons.mpr ⟨fun j hj => ⟨(hfirst j hj).1, ?_⟩, Nested.congr hrest hsame⟩
  rw [hsame j hj, at_moveAt σ cursor hi]
  exact (hfirst j hj).2.trans hcursor

/-- A copy of the first of some nested objects is nested in them. -/
theorem Nested.copy {σ : Store} {i : Nat} {rest : List Nat} (h : σ.Nested (i :: rest))
    (hi : i < σ.length) : Nested (σ ++ [σ.at i]) (σ.length :: i :: rest) := by
  obtain ⟨hfirst, -⟩ := List.pairwise_cons.mp h
  have hle : ∀ j ∈ i :: rest, j < σ.length ∧ (σ.at j).cursor ≤ (σ.at i).cursor :=
    List.forall_mem_cons.mpr ⟨⟨hi, Nat.le_refl _⟩, fun j hj =>
      ⟨(hfirst j hj).1.trans hi, (hfirst j hj).2⟩⟩
  have hsame : ∀ j ∈ i :: rest, Store.at (σ ++ [σ.at i]) j = σ.at j := fun j hj =>
    at_append_left σ _ (hle j hj).1
  refine List.pairwise_cons.mpr ⟨fun j hj => ⟨(hle j hj).1, ?_⟩, h.congr hsame⟩
  rw [hsame j hj, at_append_length]
  exact (hle j hj).2

end Store

/-! ## The machine -/

/-- **A script that waits** for a unit, with its object and how it goes on. -/
structure Waiting where
  /-- The object that it runs on. -/
  object : Nat
  /-- How it goes on with the node or the failure of the unit. -/
  next : Except ParseFailure Node → Script

/-- **A parser at a point of its run.** -/
structure Machine where
  /-- What the unit at work has still to do. -/
  script : Script
  /-- The object that it works on. -/
  object : Nat
  /-- The scripts that wait for it, the one that asked for it first. -/
  waiting : List Waiting
  /-- The objects. -/
  store : Store

namespace Machine

open Script (refusal)

/-- The parser before a script runs on a state. -/
def start (client : Script) (s : State) : Machine := ⟨client, 0, [], [s]⟩

/-- **What a parser does next.** Skipping takes one token at a time, also before a unit.
When there is nothing left to skip, the unit gets a copy, and the script that asks
waits; it goes on when the unit has a node, with the cursor of the unit's object
written to its own, or when the unit has failed. -/
def step : Machine → Option Machine
  | ⟨.done n, i, waiting, σ⟩ =>
    match waiting with
    | [] => none
    | w :: waiting =>
      some ⟨w.next (.ok n), w.object, waiting, σ.moveAt w.object (σ.at i).cursor⟩
  | ⟨.fail f, _, waiting, σ⟩ =>
    match waiting with
    | [] => none
    | w :: waiting => some ⟨w.next (.error f), w.object, waiting, σ⟩
  | ⟨.peek next, i, waiting, σ⟩ =>
    match (σ.at i).peek with
    | .ok t => some ⟨next (.ok t), i, waiting, σ⟩
    | .error e => some ⟨next (.error (refusal e)), i, waiting, σ⟩
  | ⟨.eat next, i, waiting, σ⟩ =>
    match (σ.at i).eat with
    | .ok (t, s) => some ⟨next (.ok t), i, waiting, σ.set i s⟩
    | .error e => some ⟨next (.error (refusal e)), i, waiting, σ⟩
  | ⟨.require kinds next, i, waiting, σ⟩ =>
    match (σ.at i).require kinds with
    | .ok (t, s) => some ⟨next (.ok t), i, waiting, σ.set i s⟩
    | .error e => some ⟨next (.error (refusal e)), i, waiting, σ⟩
  | ⟨.isKind kinds next, i, waiting, σ⟩ => some ⟨next ((σ.at i).isKind kinds), i, waiting, σ⟩
  | ⟨.skipWhile kinds next, i, waiting, σ⟩ =>
    if (σ.at i).isKind kinds then
      some ⟨.skipWhile kinds next, i, waiting, σ.set i (σ.at i).advance⟩
    else some ⟨next, i, waiting, σ⟩
  | ⟨.look next, i, waiting, σ⟩ =>
    some ⟨next (σ.at i).cursor (σ.at i).tokens.length, i, waiting, σ⟩
  | ⟨.parse name unit next, i, waiting, σ⟩ =>
    if (σ.at i).isKind (σ.at i).skipKinds then
      some ⟨.parse name unit next, i, waiting, σ.set i (σ.at i).advance⟩
    else some ⟨unit, σ.length, ⟨i, next⟩ :: waiting, σ ++ [σ.at i]⟩
  | ⟨.parseOther shown next, i, waiting, σ⟩ =>
    some ⟨next (.error (.notUnit shown)), i, waiting, σ⟩

/-- **A parser comes to a point** in some steps, or is there. -/
abbrev Reaches : Machine → Machine → Prop := Relation.ReflTransGen fun m m' => m.step = some m'

/-- Some steps, one after the other. -/
def steps : Nat → Machine → Option Machine
  | 0, m => some m
  | n + 1, m => m.step.bind (steps n)

theorem reaches_of_steps {n : Nat} {m m' : Machine} (h : m.steps n = some m') : m.Reaches m' := by
  induction n generalizing m with
  | zero =>
    cases h
    exact .refl
  | succ n ih =>
    obtain ⟨m₁, hstep, hrest⟩ := Option.bind_eq_some_iff.mp h
    exact (ih hrest).head hstep

/-- **A parser goes one way**: all points that it comes to lie before one at which it
has ended. -/
theorem Reaches.before_end {m m' last : Machine} (hlast : m.Reaches last)
    (hend : last.step = none) (h : m.Reaches m') : m'.Reaches last := by
  have hunique : Relator.RightUnique fun m m' : Machine => m.step = some m' :=
    fun {_ _ _} hb hc => Option.some.inj (hb.symm.trans hc)
  rcases Relation.ReflTransGen.total_of_right_unique hunique h hlast with hbefore | hafter
  · exact hbefore
  · rcases Relation.ReflTransGen.cases_head hafter with heq | ⟨m'', hstep, -⟩
    · exact heq ▸ .refl
    · cases hend.symm.trans hstep

/-! ## The machine ends where runs end -/

/-- **A loop that skips tokens one at a time** skips all of them. -/
theorem reaches_skipWhile {u : Script} {i : Nat} {waiting : List Waiting} {σ : Store}
    {kinds : Kinds} {s : State}
    (hloop : ∀ s' : State, s'.skipKinds = s.skipKinds → s'.isKind kinds = true →
      step ⟨u, i, waiting, σ.set i s'⟩ = some ⟨u, i, waiting, σ.set i s'.advance⟩) :
    Reaches ⟨u, i, waiting, σ.set i s⟩ ⟨u, i, waiting, σ.set i (s.skipWhile kinds)⟩ := by
  generalize hrest : s.rest = rest
  induction rest generalizing s with
  | nil => rw [State.skipWhile_of_not_isKind (by rw [State.isKind, hrest])]
  | cons t rest ih =>
    cases hkind : s.isKind kinds with
    | false => rw [State.skipWhile_of_not_isKind hkind]
    | true =>
      rw [State.skipWhile_of_isKind hkind]
      exact .head (hloop s rfl hkind) (ih (s := s.advance) hloop (State.rest_advance hrest))

/-- A unit gets its copy when the trivia is skipped. -/
theorem reaches_fork (name : String) (unit : Script) (next : Except ParseFailure Node → Script)
    {i : Nat} {σ : Store} (waiting : List Waiting) (h : i < σ.length) :
    Reaches ⟨.parse name unit next, i, waiting, σ⟩
      ⟨unit, (σ.set i (σ.at i).skipTrivia).length, ⟨i, next⟩ :: waiting,
        σ.set i (σ.at i).skipTrivia ++ [(σ.at i).skipTrivia]⟩ := by
  have hskip : Reaches ⟨.parse name unit next, i, waiting, σ.set i (σ.at i)⟩
      ⟨.parse name unit next, i, waiting, σ.set i (σ.at i).skipTrivia⟩ :=
    reaches_skipWhile fun s' hkinds hkind => by
      rw [step, Store.at_set σ s' h, hkinds, if_pos hkind, List.set_set]
  have hnone : (σ.at i).skipTrivia.isKind (σ.at i).skipTrivia.skipKinds = false :=
    State.isKind_skipWhile (σ.at i) (σ.at i).skipKinds
  rw [Store.set_at σ h] at hskip
  refine hskip.tail ?_
  rw [step, Store.at_set σ _ h, hnone, if_neg Bool.false_ne_true]

/-- **The machine runs a script on its object** as `Script.runIn` does, whoever waits. -/
theorem reaches_runIn (u : Script) {i : Nat} {σ : Store} (waiting : List Waiting)
    (h : i < σ.length) :
    Reaches ⟨u, i, waiting, σ⟩
      ⟨Script.orFail .done (u.runIn i σ).1, i, waiting, (u.runIn i σ).2⟩ := by
  induction u generalizing i σ waiting with
  | done n => exact .refl
  | fail f => exact .refl
  | peek next ih =>
    rw [Script.runIn]
    cases hpeek : (σ.at i).peek with
    | ok t => exact .head (by rw [step, hpeek]) (ih _ waiting h)
    | error e => exact .head (by rw [step, hpeek]) (ih _ waiting h)
  | eat next ih =>
    rw [Script.runIn]
    cases heat : (σ.at i).eat with
    | ok p => exact .head (by rw [step, heat]) (ih _ waiting (by rwa [List.length_set]))
    | error e => exact .head (by rw [step, heat]) (ih _ waiting h)
  | require kinds next ih =>
    rw [Script.runIn]
    cases hrequire : (σ.at i).require kinds with
    | ok p => exact .head (by rw [step, hrequire]) (ih _ waiting (by rwa [List.length_set]))
    | error e => exact .head (by rw [step, hrequire]) (ih _ waiting h)
  | isKind kinds next ih => exact .head rfl (ih _ waiting h)
  | skipWhile kinds next ih =>
    rw [Script.runIn]
    have hskip : Reaches ⟨.skipWhile kinds next, i, waiting, σ.set i (σ.at i)⟩
        ⟨.skipWhile kinds next, i, waiting, σ.set i ((σ.at i).skipWhile kinds)⟩ :=
      reaches_skipWhile fun s' _ hkind => by
        rw [step, Store.at_set σ s' h, if_pos hkind, List.set_set]
    rw [Store.set_at σ h] at hskip
    refine hskip.trans (.head ?_ (ih waiting (by rwa [List.length_set])))
    rw [step, Store.at_set σ _ h, State.isKind_skipWhile, if_neg Bool.false_ne_true]
  | look next ih => exact .head rfl (ih _ _ waiting h)
  | parse name unit next ihunit ih =>
    rw [Script.runIn]
    dsimp only
    refine (reaches_fork name unit next waiting h).trans ?_
    rw [Store.at_set σ _ h]
    generalize (σ.at i).skipTrivia = start
    -- the unit runs on its copy while the script waits
    have hunit := ihunit (⟨i, next⟩ :: waiting)
      (i := (σ.set i start).length) (σ := σ.set i start ++ [start]) (by simp)
    obtain ⟨forks, hcopy⟩ := Script.runIn_copy
      (Script.runIn_eq unit _ (σ.set i start ++ [start]) (by simp))
    rw [hcopy] at hunit ⊢
    refine hunit.trans ?_
    have hlength : i < (σ.set i start ++ (unit.run start).state :: forks).length := by
      simp only [List.length_append, List.length_set]
      exact Nat.lt_add_right _ h
    cases (unit.run start).result with
    | ok n =>
      refine .head rfl (ih _ waiting ?_)
      rw [Store.length_moveAt]
      exact hlength
    | error f => exact .head rfl (ih _ waiting hlength)
  | parseOther shown next ih => exact .head rfl (ih _ waiting h)

/-! ## What a step can do -/

/-- **All that a step can do.** -/
inductive Effect : Machine → Machine → Prop
  /-- It goes on and writes to no object. -/
  | goesOn {u : Script} {i : Nat} {waiting : List Waiting} {σ : Store} (v : Script) :
      Effect ⟨u, i, waiting, σ⟩ ⟨v, i, waiting, σ⟩
  /-- It goes on behind the token at the cursor. -/
  | advances {u : Script} {i : Nat} {waiting : List Waiting} {σ : Store} (v : Script)
      (left : (σ.at i).cursor < (σ.at i).tokens.length) :
      Effect ⟨u, i, waiting, σ⟩ ⟨v, i, waiting, σ.moveAt i ((σ.at i).cursor + 1)⟩
  /-- It makes a copy, and waits for the unit that works on it. -/
  | forks {u : Script} {i : Nat} {waiting : List Waiting} {σ : Store} (unit : Script)
      (next : Except ParseFailure Node → Script) :
      Effect ⟨u, i, waiting, σ⟩ ⟨unit, σ.length, ⟨i, next⟩ :: waiting, σ ++ [σ.at i]⟩
  /-- It ends, and the script that waits goes on where it had come. -/
  | aborts {u : Script} {i : Nat} {w : Waiting} {waiting : List Waiting} {σ : Store}
      (v : Script) : Effect ⟨u, i, w :: waiting, σ⟩ ⟨v, w.object, waiting, σ⟩
  /-- It ends, and the script that waits goes on from there. -/
  | commits {u : Script} {i : Nat} {w : Waiting} {waiting : List Waiting} {σ : Store}
      (v : Script) :
      Effect ⟨u, i, w :: waiting, σ⟩
        ⟨v, w.object, waiting, σ.moveAt w.object (σ.at i).cursor⟩

/-- **Every step has one of these effects.** -/
theorem effect_of_step {m m' : Machine} (h : m.step = some m') : Effect m m' := by
  obtain ⟨u, i, waiting, σ⟩ := m
  cases u with
  | done n =>
    cases waiting with
    | nil => cases h
    | cons w waiting =>
      cases h
      exact .commits _
  | fail f =>
    cases waiting with
    | nil => cases h
    | cons w waiting =>
      cases h
      exact .aborts _
  | peek next =>
    rw [step] at h
    split at h
    · cases h
      exact .goesOn _
    · cases h
      exact .goesOn _
  | eat next =>
    rw [step] at h
    split at h
    · rename_i t s heat
      obtain ⟨rfl, rest, hrest⟩ := State.eat_eq_ok heat
      cases h
      exact .advances _ (State.cursor_lt_of_rest hrest)
    · cases h
      exact .goesOn _
  | require kinds next =>
    rw [step] at h
    split at h
    · rename_i t s hrequire
      obtain ⟨rfl, -, rest, hrest⟩ := State.require_eq_ok hrequire
      cases h
      exact .advances _ (State.cursor_lt_of_rest hrest)
    · cases h
      exact .goesOn _
  | isKind kinds next =>
    cases h
    exact .goesOn _
  | skipWhile kinds next =>
    rw [step] at h
    split at h
    · rename_i hkind
      obtain ⟨t, rest, hrest, -⟩ := State.rest_of_isKind hkind
      cases h
      exact .advances _ (State.cursor_lt_of_rest hrest)
    · cases h
      exact .goesOn _
  | look next =>
    cases h
    exact .goesOn _
  | parse name unit next =>
    rw [step] at h
    split at h
    · rename_i hkind
      obtain ⟨t, rest, hrest, -⟩ := State.rest_of_isKind hkind
      cases h
      exact .advances _ (State.cursor_lt_of_rest hrest)
    · cases h
      exact .forks unit next
  | parseOther shown next =>
    cases h
    exact .goesOn _

/-! ## The invariant -/

/-- The object at work and those that wait. -/
def objects (m : Machine) : List Nat := m.object :: m.waiting.map Waiting.object

/-- **The invariant of a parser** that has begun with a state. -/
structure Sound (m : Machine) (base : State) : Prop where
  /-- All objects are that state with a cursor within its tokens. -/
  placed : ∀ s ∈ m.store, ∃ c ≤ base.tokens.length, s = base.moveTo c
  /-- The object at work is one of them. -/
  object_lt : m.object < m.store.length
  /-- The objects that wait are older, and no further. -/
  nested : m.store.Nested m.objects

theorem sound_start (client : Script) {base : State} (h : base.cursor ≤ base.tokens.length) :
    (start client base).Sound base where
  placed := List.forall_mem_singleton.mpr ⟨base.cursor, h, rfl⟩
  object_lt := Nat.zero_lt_one
  nested := List.pairwise_singleton _ 0

/-- An object that waits is in the store, and no further than the one at work. -/
theorem Sound.waiting_le {u : Script} {i : Nat} {w : Waiting} {waiting : List Waiting} {σ : Store}
    {base : State} (h : Sound ⟨u, i, w :: waiting, σ⟩ base) :
    w.object < σ.length ∧ (σ.at w.object).cursor ≤ (σ.at i).cursor := by
  obtain ⟨hlt, hle⟩ := (List.pairwise_cons.mp h.nested).1 w.object List.mem_cons_self
  exact ⟨hlt.trans h.object_lt, hle⟩

theorem Sound.nested_waiting {u : Script} {i : Nat} {w : Waiting} {waiting : List Waiting}
    {σ : Store} {base : State} (h : Sound ⟨u, i, w :: waiting, σ⟩ base) :
    σ.Nested (w.object :: waiting.map Waiting.object) :=
  (List.pairwise_cons.mp h.nested).2

theorem Sound.cursor_le {m : Machine} {base s : State} (h : m.Sound base) (hs : s ∈ m.store) :
    s.cursor ≤ base.tokens.length := by
  obtain ⟨c, hc, rfl⟩ := h.placed s hs
  exact hc

/-- The states of a store stay placed when a cursor is moved within the tokens. -/
theorem placed_moveAt {σ : Store} {base : State} {i c : Nat}
    (h : ∀ s ∈ σ, ∃ c ≤ base.tokens.length, s = base.moveTo c) (hi : i < σ.length)
    (hc : c ≤ base.tokens.length) :
    ∀ s ∈ σ.moveAt i c, ∃ c ≤ base.tokens.length, s = base.moveTo c := by
  intro s hs
  rcases List.mem_or_eq_of_mem_set hs with hs | rfl
  · exact h s hs
  · obtain ⟨d, -, hd⟩ := h _ (Store.at_mem hi)
    exact ⟨c, hc, by rw [hd]; rfl⟩

/-- **A step keeps the invariant**, and its store grows. -/
theorem Sound.step {m m' : Machine} {base : State} (h : m.Sound base) (hstep : m.step = some m') :
    m'.Sound base ∧ m.store.Grows m'.store := by
  cases effect_of_step hstep with
  | goesOn v => exact ⟨⟨h.placed, h.object_lt, h.nested⟩, .refl _⟩
  | @advances u i waiting σ v left =>
    have hle : (σ.at i).cursor ≤ (σ.at i).cursor + 1 := Nat.le_succ _
    have hplace : (σ.at i).cursor + 1 ≤ base.tokens.length := by
      obtain ⟨c, -, hc⟩ := h.placed _ (Store.at_mem h.object_lt)
      rw [hc] at left ⊢
      exact left
    refine ⟨⟨placed_moveAt h.placed h.object_lt hplace, ?_, ?_⟩, Store.grows_moveAt hle⟩
    · exact (Store.length_moveAt _ _ _).symm ▸ h.object_lt
    · exact h.nested.moveAt h.object_lt hle
  | @forks u i waiting σ unit next =>
    refine ⟨⟨fun s hs => ?_, ?_, h.nested.copy h.object_lt⟩, Store.grows_append _ _⟩
    · rcases List.mem_append.mp hs with hs | hs
      · exact h.placed s hs
      · rw [List.mem_singleton.mp hs]
        exact h.placed _ (Store.at_mem h.object_lt)
    · rw [List.length_append]
      exact Nat.lt_succ_self _
  | aborts v => exact ⟨⟨h.placed, h.waiting_le.1, h.nested_waiting⟩, .refl _⟩
  | @commits u i w waiting σ v =>
    obtain ⟨hlt, hle⟩ := h.waiting_le
    have hplace : (σ.at i).cursor ≤ base.tokens.length := h.cursor_le (Store.at_mem h.object_lt)
    refine ⟨⟨placed_moveAt h.placed hlt hplace, ?_, ?_⟩, Store.grows_moveAt hle⟩
    · exact (Store.length_moveAt _ _ _).symm ▸ hlt
    · exact h.nested_waiting.moveAt hlt hle

/-- **A run keeps the invariant**, and its store grows all the way. -/
theorem Sound.reaches {m m' : Machine} {base : State} (h : m.Sound base) (hrun : m.Reaches m') :
    m'.Sound base ∧ m.store.Grows m'.store := by
  induction hrun with
  | refl => exact ⟨h, .refl _⟩
  | tail _ hstep ih =>
    obtain ⟨hsound, hgrows⟩ := ih
    obtain ⟨hsound', hgrows'⟩ := hsound.step hstep
    exact ⟨hsound', hgrows.trans hgrows'⟩

end Machine

/-! ## Every point -/

/-- **A script takes no token from a state** with what it does first: it only looks at
it, or it asks for a token and is refused. What remains, and whether anything does, it
learns by looking at the cursor and the number of tokens. -/
def Script.TakesNothing (s : State) : Script → Prop
  | .peek _ => True
  | .isKind _ _ => True
  | .look _ => True
  | .parseOther _ _ => True
  | .eat _ => ∃ e, s.eat = .error e
  | .require kinds _ => ∃ e, s.require kinds = .error e
  | _ => False

namespace Machine

/-- Such a step writes to no object. -/
theorem step_of_takesNothing {m : Machine} (h : m.script.TakesNothing (m.store.at m.object)) :
    ∃ m', m.step = some m' ∧ m'.store = m.store := by
  obtain ⟨u, i, waiting, σ⟩ := m
  cases u with
  | peek next =>
    rw [step]
    cases (σ.at i).peek with
    | ok t => exact ⟨_, rfl, rfl⟩
    | error e => exact ⟨_, rfl, rfl⟩
  | isKind kinds next => exact ⟨_, rfl, rfl⟩
  | look next => exact ⟨_, rfl, rfl⟩
  | parseOther shown next => exact ⟨_, rfl, rfl⟩
  | eat next =>
    obtain ⟨e, heat⟩ : ∃ e, (σ.at i).eat = .error e := h
    rw [step, heat]
    exact ⟨_, rfl, rfl⟩
  | require kinds next =>
    obtain ⟨e, hrequire⟩ : ∃ e, (σ.at i).require kinds = .error e := h
    rw [step, hrequire]
    exact ⟨_, rfl, rfl⟩
  | done n => exact h.elim
  | fail f => exact h.elim
  | skipWhile kinds next => exact h.elim
  | parse name unit next => exact h.elim

/-- **A parser is in order at a point**, having begun with a state. -/
structure InOrder (m : Machine) (base : State) : Prop where
  /-- The unit at work has an object. -/
  works : m.object < m.store.length
  /-- Every object has the tokens, the kinds of trivia and the name of the start. -/
  unchanged : ∀ s ∈ m.store,
    s.tokens = base.tokens ∧ s.skipKinds = base.skipKinds ∧ s.filename = base.filename
  /-- The cursor of every object is within the tokens. -/
  within : ∀ s ∈ m.store, s.cursor ≤ s.tokens.length
  /-- What is before it and what remains make up the tokens. -/
  remaining : ∀ s ∈ m.store, s.cursor + s.remaining = s.tokens.length
  /-- Nothing is left exactly if it is at their end. -/
  atEnd : ∀ s ∈ m.store, s.isAtEnd = true ↔ s.cursor = s.tokens.length
  /-- At all later points each object is still there, and not further back. -/
  forward : ∀ m', m.Reaches m' → ∀ (i : Nat) (s : State), m.store[i]? = some s →
    ∃ s' : State, m'.store[i]? = some s' ∧ s.cursor ≤ s'.cursor
  /-- A step that looks only, or is refused a token, writes to no object. -/
  looking : m.script.TakesNothing (m.store.at m.object) →
    ∃ m', m.step = some m' ∧ m'.store = m.store

theorem Sound.inOrder {m : Machine} {base : State} (h : m.Sound base) : m.InOrder base where
  works := h.object_lt
  unchanged s hs := by
    obtain ⟨c, -, rfl⟩ := h.placed s hs
    exact ⟨rfl, rfl, rfl⟩
  within s hs := by
    obtain ⟨c, hc, rfl⟩ := h.placed s hs
    exact hc
  remaining s hs := by
    obtain ⟨c, hc, rfl⟩ := h.placed s hs
    exact Nat.add_sub_cancel' hc
  atEnd s hs := by
    obtain ⟨c, hc, rfl⟩ := h.placed s hs
    exact decide_eq_true_iff.trans ⟨Nat.le_antisymm hc, fun heq => heq.ge⟩
  forward m' hrun i s hs := by
    obtain ⟨c, hc, hs'⟩ := (h.reaches hrun).2 i s hs
    exact ⟨s.moveTo c, hs', hc⟩
  looking := step_of_takesNothing

/-- **Parsers are in order at every point.** Whatever a script does with a new state, in
what order, and with whatever success, and whatever the units do that it lets parse:
at every point that its parser comes to, the state and all copies made so far are in
order. These are the points on the way to where the run of the script ends. -/
theorem reached_inOrder (tokens : List Token) (skipKinds : Kinds) (filename : String)
    (client : Script) {m : Machine}
    (h : (start client ⟨tokens, skipKinds, filename, 0⟩).Reaches m) :
    m.InOrder ⟨tokens, skipKinds, filename, 0⟩
      ∧ ∃ last, m.Reaches last ∧ last.step = none
        ∧ last.script = .orFail .done (client.run ⟨tokens, skipKinds, filename, 0⟩).result
        ∧ last.store[0]? = some (client.run ⟨tokens, skipKinds, filename, 0⟩).state := by
  generalize hbase : (⟨tokens, skipKinds, filename, 0⟩ : State) = base at h ⊢
  have hcursor : base.cursor ≤ base.tokens.length := hbase ▸ Nat.zero_le _
  refine ⟨((sound_start client hcursor).reaches h).1.inOrder, ?_⟩
  have hrun := reaches_runIn client (i := 0) (σ := [base]) [] Nat.zero_lt_one
  obtain ⟨others, hends⟩ := Script.runIn_eq client 0 [base] Nat.zero_lt_one
  have hat : Store.at [base] 0 = base := rfl
  rw [hends, hat] at hrun
  have hend : step ⟨.orFail .done (client.run base).result, 0, [],
      List.set [base] 0 (client.run base).state ++ others⟩ = none := by
    cases (client.run base).result with
    | ok n => rfl
    | error f => rfl
  exact ⟨_, hrun.before_end hend h, hend, rfl, rfl⟩

end Machine

/-- A token that is not there, and then a list. -/
def Script.listClient : Script := .require [3] fun _ => .parsed "list" retryingUnit .done

/-- The list is at its first item, which has just been taken from a copy. The copy of
the pair that has failed is left behind where it had come, a token further. -/
theorem Machine.reached_inOrder_retrying :
    ∃ m, (start Script.listClient State.twoItems).Reaches m
      ∧ m.objects = [3, 1, 0] ∧ m.store.map State.cursor = [1, 1, 3, 2]
      ∧ m.InOrder State.twoItems := by
  have hpoint : ((start Script.listClient State.twoItems).steps 10).map
      (fun m => (m.objects, m.store.map State.cursor)) = some ([3, 1, 0], [1, 1, 3, 2]) := by
    decide +kernel
  obtain ⟨m, hsteps, hm⟩ := Option.map_eq_some_iff.mp hpoint
  obtain ⟨hobjects, hcursors⟩ := Prod.mk.inj hm
  have hreaches := reaches_of_steps hsteps
  exact ⟨m, hreaches, hobjects, hcursors, (reached_inOrder _ _ _ _ hreaches).1⟩

end ParseKit

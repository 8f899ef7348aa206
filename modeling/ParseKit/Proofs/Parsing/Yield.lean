import ParseKit.Parsing.Move
import ParseKit.Proofs.Parsing.Outcome

/-!
# What a script makes of a row of tokens

A parser is a state with a cursor; a grammar speaks of rows of tokens. This
module goes from the one to the other. `Script.Yields k u ts o` says what
the script `u` comes to wherever the tokens from the cursor on are `ts` and
the trivia has the kinds `k`: a node together with the tokens that are left,
or a refusal, which is an error of parsing and nothing else. Where in the
source the tokens stand does not matter, nor what is before them.

There is one rule for each way a script can begin, from what it yields
afterwards to what it yields as a whole, and the rules of loops follow from
them. With the rules, what a unit yields is found by going through its
definition, without running it on a state.
-/

namespace ParseKit

/-! ## Rows of tokens -/

/-- Whether a row begins with a token of one of some kinds. -/
def Kinds.begins (kinds : Kinds) : List Token → Bool
  | t :: _ => kinds.contains t.kind
  | [] => false

/-- The row after all tokens of some kinds that it begins with. -/
def Kinds.skip (kinds : Kinds) (ts : List Token) : List Token :=
  ts.dropWhile fun t => kinds.contains t.kind

namespace Kinds

variable {kinds : Kinds}

@[simp] theorem begins_cons (t : Token) (ts : List Token) :
    kinds.begins (t :: ts) = kinds.contains t.kind :=
  rfl

/-- A row begins with a token of the kinds, or it does not. -/
theorem begins_cases (kinds : Kinds) (ts : List Token) :
    kinds.begins ts = false ∨ ∃ t r, ts = t :: r ∧ t.kind ∈ kinds := by
  cases ts with
  | nil => exact Or.inl rfl
  | cons t r =>
    rw [begins_cons]
    cases hkind : kinds.contains t.kind with
    | true => exact Or.inr ⟨t, r, rfl, List.contains_iff_mem.mp hkind⟩
    | false => exact Or.inl rfl

/-- Where nothing is to be skipped, nothing is skipped. -/
theorem skip_of_begins {ts : List Token} (h : kinds.begins ts = false) : kinds.skip ts = ts := by
  cases ts with
  | nil => rfl
  | cons t r => exact List.dropWhile_cons_of_neg (by simpa using h)

theorem begins_skip (kinds : Kinds) (ts : List Token) : kinds.begins (kinds.skip ts) = false := by
  unfold skip
  induction ts with
  | nil => rfl
  | cons t r ih =>
    rw [List.dropWhile_cons]
    split
    · exact ih
    · rename_i hkind
      exact Bool.eq_false_iff.mpr hkind

/-- Tokens of the kinds are skipped, and then those after them. -/
theorem skip_append {gap : List Token} (h : ∀ t ∈ gap, t.kind ∈ kinds) (r : List Token) :
    kinds.skip (gap ++ r) = kinds.skip r :=
  List.dropWhile_append_of_pos fun t ht => List.contains_iff_mem.mpr (h t ht)

/-- Skipping makes no row longer. -/
theorem length_skip_le (kinds : Kinds) (ts : List Token) : (kinds.skip ts).length ≤ ts.length :=
  (List.dropWhile_suffix _).length_le

/-- A row is what is skipped of it and what is left. -/
theorem exists_skipped (kinds : Kinds) (ts : List Token) :
    ∃ gap, (∀ t ∈ gap, t.kind ∈ kinds) ∧ ts = gap ++ kinds.skip ts := by
  refine ⟨ts.takeWhile fun t => kinds.contains t.kind, fun t ht => ?_, ?_⟩
  · have hskip : kinds.contains t.kind = true :=
      List.mem_takeWhile_imp (p := fun t : Token => kinds.contains t.kind) ht
    exact List.contains_iff_mem.mp hskip
  · exact List.takeWhile_append_dropWhile.symm

end Kinds

/-! ## Yields -/

namespace Script

/-- **The outcome of a run is the one that is said**: a node and the tokens that
are left, or an error of parsing. -/
def Meets (p : Except ParseFailure Node × State) : Option (Node × List Token) → Prop
  | some (n, r) => p.1 = .ok n ∧ p.2.rest = r
  | none => ∃ e, p.1 = .error (refusal e)

/-- **What a script makes of a row of tokens**, where the trivia has the kinds
`k`. -/
def Yields (k : Kinds) (u : Script) (ts : List Token) (o : Option (Node × List Token)) : Prop :=
  ∀ s : State, s.skipKinds = k → s.rest = ts → Meets (u.run s).outcome o

namespace Yields

variable {k kinds : Kinds} {ts us : List Token} {o : Option (Node × List Token)} {n : Node}

theorem done : Yields k (.done n) ts (some (n, ts)) := fun _ _ hs => ⟨rfl, hs⟩

theorem isKind {next : Bool → Script} (h : Yields k (next (kinds.begins ts)) ts o) :
    Yields k (.isKind kinds next) ts o := by
  intro s hk hs
  have hbegins : s.isKind kinds = kinds.begins ts := by
    rw [← hs]
    rfl
  rw [outcome_isKind, hbegins]
  exact h s hk hs

theorem skipWhile {next : Script} (h : Yields k next (kinds.skip ts) o) :
    Yields k (.skipWhile kinds next) ts o := by
  intro s hk hs
  rw [outcome_skipWhile]
  exact h (s.skipWhile kinds) hk (by rw [State.rest_skipWhile, hs, Kinds.skip])

theorem eaten {next : Token → Script} {t : Token} (h : Yields k (next t) ts o) :
    Yields k (.eaten next) (t :: ts) o := by
  intro s hk hs
  have heat : s.eat = .ok (t, s.advance) := by
    rw [State.eat, State.peek, hs]
    rfl
  rw [outcome_eaten, heat]
  exact h s.advance hk (State.rest_advance hs)

theorem required {next : Token → Script} {t : Token} (hkind : t.kind ∈ kinds)
    (h : Yields k (next t) ts o) : Yields k (.required kinds next) (t :: ts) o := by
  intro s hk hs
  have hrequire : s.require kinds = .ok (t, s.advance) := by
    rw [State.require, hs]
    exact if_pos (List.contains_iff_mem.mpr hkind)
  rw [outcome_required, hrequire]
  exact h s.advance hk (State.rest_advance hs)

theorem required_none {next : Token → Script} (h : kinds.begins ts = false) :
    Yields k (.required kinds next) ts none := by
  intro s hk hs
  rw [outcome_required]
  cases hrequire : s.require kinds with
  | error e => exact ⟨e, rfl⟩
  | ok p =>
    obtain ⟨-, hkind, rest, hrest⟩ := State.require_eq_ok hrequire
    rw [← hs, hrest, Kinds.begins_cons, List.contains_iff_mem.mpr hkind] at h
    cases h

/-- A unit is asked after the trivia, and what it leaves is gone on with. -/
theorem parsed {name : String} {unit : Script} {next : Node → Script}
    (hunit : Yields k unit (k.skip ts) (some (n, us))) (h : Yields k (next n) us o) :
    Yields k (.parsed name unit next) ts o := by
  intro s hk hs
  have hrest : s.skipTrivia.rest = k.skip ts := by rw [State.rest_skipTrivia hk, hs, Kinds.skip]
  obtain ⟨hresult, hleft⟩ := hunit s.skipTrivia hk hrest
  -- the unit may have moved the cursor, but the trivia is still the same
  have hkeeps : (unit.run s.skipTrivia).state.skipKinds = k := by
    rw [run_state]
    exact hk
  rw [outcome_parsed, ← Prod.eta (unit.run s.skipTrivia).outcome, hresult]
  exact h _ hkeeps hleft

/-- The refusal of a unit is the refusal of the whole. -/
theorem parsed_none {name : String} {unit : Script} {next : Node → Script}
    (hunit : Yields k unit (k.skip ts) none) : Yields k (.parsed name unit next) ts none := by
  intro s hk hs
  have hrest : s.skipTrivia.rest = k.skip ts := by rw [State.rest_skipTrivia hk, hs, Kinds.skip]
  obtain ⟨e, hresult⟩ := hunit s.skipTrivia hk hrest
  rw [outcome_parsed, ← Prod.eta (unit.run s.skipTrivia).outcome, hresult]
  exact ⟨e, rfl⟩

/-- A script that only asks a unit yields what the unit does. -/
theorem parsed_done {name : String} {unit : Script} (h : Yields k unit (k.skip ts) o) :
    Yields k (.parsed name unit .done) ts o := by
  match o, h with
  | some (n, us), h => exact parsed h done
  | none, h => exact parsed_none h

/-! ## Loops -/

theorem bounded {move : Nat → Move} {next : Node → Script}
    (h : Yields k (move (ts.length + 1) n next) ts o) :
    Yields k (Move.bounded move n next) ts o := by
  intro s hk hs
  -- the script sees the cursor, but uses it only to count the tokens that are left
  have hleft : s.tokens.length - s.cursor = ts.length := by
    rw [← hs, State.rest, List.length_drop]
  rw [Move.bounded, outcome_look, hleft]
  exact h s hk hs

theorem loop_stop {body : Move} {rounds : Nat} {next : Node → Script}
    (hts : kinds.begins ts = false) (h : Yields k (next n) ts o) :
    Yields k (Move.loop kinds body (rounds + 1) n next) ts o :=
  isKind (by rwa [hts])

theorem loop_round {body : Move} {rounds : Nat} {next : Node → Script}
    (hts : kinds.begins ts = true)
    (h : Yields k (body n fun n => Move.loop kinds body rounds n next) ts o) :
    Yields k (Move.loop kinds body (rounds + 1) n next) ts o :=
  isKind (by rwa [hts])

theorem untilEnd_stop {body : Move} {rounds : Nat} {next : Node → Script}
    (h : Yields k (next n) [] o) : Yields k (Move.untilEnd body (rounds + 1) n next) [] o := by
  intro s hk hs
  rw [Move.untilEnd, outcome_look, if_pos (List.drop_eq_nil_iff.mp hs)]
  exact h s hk hs

theorem untilEnd_round {body : Move} {rounds : Nat} {next : Node → Script} (hts : ts ≠ [])
    (h : Yields k (body n fun n => Move.untilEnd body rounds n next) ts o) :
    Yields k (Move.untilEnd body (rounds + 1) n next) ts o := by
  intro s hk hs
  rw [Move.untilEnd, outcome_look, if_neg fun hle => hts (hs ▸ List.drop_eq_nil_iff.mpr hle)]
  exact h s hk hs

end Yields

end Script

end ParseKit

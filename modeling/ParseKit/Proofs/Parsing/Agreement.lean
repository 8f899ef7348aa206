import ParseKit.Parsing.Move
import ParseKit.Proofs.Parsing.Yield

/-!
# Two parses side by side

Two scripts run on two rows of tokens, which need not be equal. They **go
along** if they come to the same node and what they leave is related, or if
both are refused and for the same reason: the errors have the same token with
the same kind, and the same kinds would do. The name of the source may differ,
and so may the cursors, since the rows may be of different lengths.

There is a rule for each way in which two scripts can begin with the same
step. A step that looks at tokens goes along if the rows begin with the same
token, or if both are at their end. Loops are given different numbers of rounds
on the two sides, as these depend on how many tokens are left; so the rules of
loops are about one round, and an induction over the rounds is left to those
who know that a round takes a token.
-/

namespace ParseKit

/-- **Two errors are alike**: they say the same of the tokens, whatever the name of
the source is. -/
structure ParseError.Alike (e e' : ParseError) : Prop where
  /-- The same kinds would do. -/
  expected : e.expected = e'.expected
  /-- The same kind was found. -/
  found : e.found = e'.found
  /-- The same token was found. -/
  token : e.token = e'.token

theorem ParseError.alike_ofKinds (kinds : Kinds) (found : Option Int) (token : Option Token)
    (filename filename' : String) :
    (ofKinds kinds found token filename).Alike (ofKinds kinds found token filename') :=
  ⟨rfl, rfl, rfl⟩

namespace Script

/-- **Two outcomes agree**: the same node, with rows left that are related, or alike
errors of parsing. -/
inductive Agree (R : List Token → List Token → Prop) :
    Except ParseFailure Node × State → Except ParseFailure Node × State → Prop where
  /-- Both come to a node. -/
  | ok {n : Node} {s s' : State} (left : R s.rest s'.rest) : Agree R (.ok n, s) (.ok n, s')
  /-- Both are refused. -/
  | refused {e e' : ParseError} {s s' : State} (alike : e.Alike e') :
      Agree R (.error (refusal e), s) (.error (refusal e'), s')

/-- **Two scripts go along** on two rows of tokens, where the trivia has the kinds
`k`: wherever the rows stand, the outcomes agree. -/
def Along (k : Kinds) (R : List Token → List Token → Prop) (u : Script) (ts : List Token)
    (u' : Script) (ts' : List Token) : Prop :=
  ∀ s s' : State, s.skipKinds = k → s'.skipKinds = k → s.rest = ts → s'.rest = ts' →
    Agree R (u.run s).outcome (u'.run s').outcome

namespace Along

variable {k kinds : Kinds} {R Q : List Token → List Token → Prop} {ts ts' : List Token}
  {t : Token} {n : Node}

theorem done (h : R ts ts') : Along k R (.done n) ts (.done n) ts' := by
  rintro s s' - - rfl rfl
  exact .ok h

/-- Both see the same kinds at the cursor, and go on. -/
theorem isKind {next next' : Bool → Script} (hbegins : kinds.begins ts' = kinds.begins ts)
    (h : Along k R (next (kinds.begins ts)) ts (next' (kinds.begins ts)) ts') :
    Along k R (.isKind kinds next) ts (.isKind kinds next') ts' := by
  rintro s s' hk hk' rfl rfl
  have hs : s.isKind kinds = kinds.begins s.rest := rfl
  have hs' : s'.isKind kinds = kinds.begins s.rest := hbegins
  rw [outcome_isKind, outcome_isKind, hs, hs']
  exact h s s' hk hk' rfl rfl

theorem skipWhile {next next' : Script}
    (h : Along k R next (kinds.skip ts) next' (kinds.skip ts')) :
    Along k R (.skipWhile kinds next) ts (.skipWhile kinds next') ts' := by
  rintro s s' hk hk' rfl rfl
  rw [outcome_skipWhile, outcome_skipWhile]
  exact h _ _ hk hk' (s.rest_skipWhile kinds) (s'.rest_skipWhile kinds)

theorem eaten {next next' : Token → Script} (h : Along k R (next t) ts (next' t) ts') :
    Along k R (.eaten next) (t :: ts) (.eaten next') (t :: ts') := by
  intro s s' hk hk' hs hs'
  have heat : ∀ {s : State} {ts : List Token}, s.rest = t :: ts → s.eat = .ok (t, s.advance) := by
    intro s ts hs
    rw [State.eat, State.peek, hs]
    rfl
  rw [outcome_eaten, outcome_eaten, heat hs, heat hs']
  exact h _ _ hk hk' (State.rest_advance hs) (State.rest_advance hs')

/-- Both take the token, or refuse it. -/
theorem required {next next' : Token → Script}
    (h : t.kind ∈ kinds → Along k R (next t) ts (next' t) ts') :
    Along k R (.required kinds next) (t :: ts) (.required kinds next') (t :: ts') := by
  intro s s' hk hk' hs hs'
  rw [outcome_required, outcome_required, State.require, State.require, hs, hs']
  dsimp only
  cases hkind : kinds.contains t.kind with
  | true =>
    exact h (List.contains_iff_mem.mp hkind) _ _ hk hk' (State.rest_advance hs)
      (State.rest_advance hs')
  | false => exact .refused (ParseError.alike_ofKinds ..)

/-- At the end of both rows there is no token to take. -/
theorem required_nil {next next' : Token → Script} :
    Along k R (.required kinds next) [] (.required kinds next') [] := by
  intro s s' _ _ hs hs'
  rw [outcome_required, outcome_required, State.require, State.require, hs, hs']
  exact .refused (ParseError.alike_ofKinds ..)

/-- Units are asked after the trivia; what they leave is gone on with, and if they are
refused, so is the whole. -/
theorem parsed {name name' : String} {unit unit' : Script} {next next' : Node → Script}
    (hunit : Along k R unit (k.skip ts) unit' (k.skip ts'))
    (h : ∀ m r r', R r r' → Along k Q (next m) r (next' m) r') :
    Along k Q (.parsed name unit next) ts (.parsed name' unit' next') ts' := by
  rintro s s' hk hk' rfl rfl
  have hunits := hunit s.skipTrivia s'.skipTrivia hk hk' (State.rest_skipTrivia hk)
    (State.rest_skipTrivia hk')
  -- the units may have moved the cursors, but the trivia is still the same
  have hkeeps : (unit.run s.skipTrivia).outcome.2.skipKinds = k := by
    show (unit.run s.skipTrivia).state.skipKinds = k
    rw [run_state]
    exact hk
  have hkeeps' : (unit'.run s'.skipTrivia).outcome.2.skipKinds = k := by
    show (unit'.run s'.skipTrivia).state.skipKinds = k
    rw [run_state]
    exact hk'
  rw [outcome_parsed, outcome_parsed]
  generalize (unit.run s.skipTrivia).outcome = p at hunits hkeeps ⊢
  generalize (unit'.run s'.skipTrivia).outcome = p' at hunits hkeeps' ⊢
  cases hunits with
  | ok left => exact h _ _ _ left _ _ hkeeps hkeeps' rfl rfl
  | refused alike => exact .refused alike

/-- Scripts that only ask units go along if the units do. -/
theorem parsed_done {name name' : String} {unit unit' : Script}
    (h : Along k R unit (k.skip ts) unit' (k.skip ts')) :
    Along k R (.parsed name unit .done) ts (.parsed name' unit' .done) ts' :=
  parsed h fun _ _ _ hleft => done hleft

/-! ## Loops -/

/-- Each side has as many rounds as it has tokens, and one more. -/
theorem bounded {move move' : Nat → Move} {next next' : Node → Script}
    (h : Along k R (move (ts.length + 1) n next) ts (move' (ts'.length + 1) n next') ts') :
    Along k R (Move.bounded move n next) ts (Move.bounded move' n next') ts' := by
  rintro s s' hk hk' rfl rfl
  rw [Move.bounded, Move.bounded, outcome_look, outcome_look]
  rw [State.rest, List.length_drop, State.rest, List.length_drop] at h
  exact h s s' hk hk' rfl rfl

theorem loop {body body' : Move} {rounds rounds' : Nat} {next next' : Node → Script}
    (hbegins : kinds.begins ts' = kinds.begins ts)
    (hstop : kinds.begins ts = false → Along k R (next n) ts (next' n) ts')
    (hround : kinds.begins ts = true →
      Along k R (body n fun n => Move.loop kinds body rounds n next) ts
        (body' n fun n => Move.loop kinds body' rounds' n next') ts') :
    Along k R (Move.loop kinds body (rounds + 1) n next) ts
      (Move.loop kinds body' (rounds' + 1) n next') ts' := by
  refine isKind hbegins ?_
  cases h : kinds.begins ts with
  | false => exact hstop h
  | true => exact hround h

theorem untilEnd_stop {body body' : Move} {rounds rounds' : Nat} {next next' : Node → Script}
    (h : Along k R (next n) [] (next' n) []) :
    Along k R (Move.untilEnd body (rounds + 1) n next) []
      (Move.untilEnd body' (rounds' + 1) n next') [] := by
  intro s s' hk hk' hs hs'
  rw [Move.untilEnd, Move.untilEnd, outcome_look, outcome_look,
    if_pos (List.drop_eq_nil_iff.mp hs), if_pos (List.drop_eq_nil_iff.mp hs')]
  exact h s s' hk hk' hs hs'

theorem untilEnd_round {body body' : Move} {rounds rounds' : Nat} {next next' : Node → Script}
    {t t' : Token}
    (h : Along k R (body n fun n => Move.untilEnd body rounds n next) (t :: ts)
      (body' n fun n => Move.untilEnd body' rounds' n next') (t' :: ts')) :
    Along k R (Move.untilEnd body (rounds + 1) n next) (t :: ts)
      (Move.untilEnd body' (rounds' + 1) n next') (t' :: ts') := by
  intro s s' hk hk' hs hs'
  rw [Move.untilEnd, Move.untilEnd, outcome_look, outcome_look,
    if_neg (Nat.not_le.mpr (State.cursor_lt_of_rest hs)),
    if_neg (Nat.not_le.mpr (State.cursor_lt_of_rest hs'))]
  exact h s s' hk hk' hs hs'

end Along

end Script

end ParseKit

import ParseKit.Parsing.Script
import Mathlib.Data.List.DropRight

/-!
# What a script comes to

A script runs on a state and comes to a node or a failure, in a state where
only the cursor can be another. This module has the facts about running
that later ones rest on.

The first are about states alone: an operation that succeeds is said by
what `State.rest` begins with, and skipping tokens twice is skipping them
once. The second is the **frame** of a run, `Script.run_state`: whatever a
script does, and however deep the units are that it lets parse, the tokens,
the kinds of trivia and the name of the source are afterwards what they
were, and the cursor is still within the tokens. The third is the outcome of
a run without its events, with an equation for each step that a script can
begin with.
-/

namespace ParseKit

namespace State

/-! ## States -/

/-- The state before a token is a state at the token. -/
theorem eat_eq_ok {s s' : State} {t : Token} (h : s.eat = .ok (t, s')) :
    s' = s.advance ∧ ∃ rest, s.rest = t :: rest := by
  unfold eat peek at h
  split at h
  · rename_i t' rest hrest
    cases h
    exact ⟨rfl, rest, hrest⟩
  · cases h

theorem require_eq_ok {s s' : State} {kinds : Kinds} {t : Token}
    (h : s.require kinds = .ok (t, s')) :
    s' = s.advance ∧ t.kind ∈ kinds ∧ ∃ rest, s.rest = t :: rest := by
  unfold require at h
  split at h
  · rename_i t' rest hrest
    split at h
    · rename_i hkind
      cases h
      exact ⟨rfl, List.contains_iff_mem.mp hkind, rest, hrest⟩
    · cases h
  · cases h

/-- The tokens after those that are skipped. -/
theorem rest_skipWhile (s : State) (kinds : Kinds) :
    (s.skipWhile kinds).rest = s.rest.dropWhile fun t => kinds.contains t.kind := by
  show s.tokens.drop (s.cursor + _) = _
  rw [← List.drop_drop]
  show s.rest.drop (s.rest.takeWhile fun t => kinds.contains t.kind).length = _
  generalize s.rest = r
  calc r.drop (r.takeWhile fun t => kinds.contains t.kind).length
      = ((r.takeWhile fun t => kinds.contains t.kind)
          ++ r.dropWhile fun t => kinds.contains t.kind).drop
            (r.takeWhile fun t => kinds.contains t.kind).length := by
        rw [List.takeWhile_append_dropWhile]
    _ = r.dropWhile fun t => kinds.contains t.kind := List.drop_left

/-- The tokens after one that is taken. -/
theorem rest_advance {s : State} {t : Token} {rest : List Token} (h : s.rest = t :: rest) :
    s.advance.rest = rest := by
  show s.tokens.drop (s.cursor + 1) = rest
  rw [← List.drop_drop]
  show s.rest.drop 1 = rest
  rw [h]
  rfl

/-- A token that can be taken is one of the tokens. -/
theorem cursor_lt_of_rest {s : State} {t : Token} {rest : List Token} (h : s.rest = t :: rest) :
    s.cursor < s.tokens.length := by
  have hlength : (s.tokens.drop s.cursor).length = (t :: rest).length := congrArg List.length h
  rw [List.length_drop, List.length_cons] at hlength
  omega

/-- Skipping does not go beyond the tokens. -/
theorem cursor_skipWhile_le {s : State} (kinds : Kinds) (h : s.cursor ≤ s.tokens.length) :
    (s.skipWhile kinds).cursor ≤ s.tokens.length := by
  have hskipped : (s.rest.takeWhile fun t => kinds.contains t.kind).length ≤ s.rest.length :=
    (List.takeWhile_prefix _).length_le
  have hrest : s.rest.length = s.tokens.length - s.cursor := List.length_drop
  show s.cursor + (s.rest.takeWhile fun t => kinds.contains t.kind).length ≤ _
  omega

/-- The tokens after the trivia, by the kinds that it has. -/
theorem rest_skipTrivia {s : State} {kinds : Kinds} (h : s.skipKinds = kinds) :
    s.skipTrivia.rest = s.rest.dropWhile fun t => kinds.contains t.kind := by
  rw [skipTrivia, rest_skipWhile, h]

/-- **Skipping twice is skipping once.** -/
theorem skipWhile_skipWhile (s : State) (kinds : Kinds) :
    (s.skipWhile kinds).skipWhile kinds = s.skipWhile kinds := by
  have hnone : ((s.skipWhile kinds).rest.takeWhile fun t => kinds.contains t.kind) = [] := by
    rw [rest_skipWhile, List.takeWhile_eq_nil_iff]
    exact List.dropWhile_eq_self_iff.mp (List.dropWhile_idempotent _ _)
  conv_lhs => rw [skipWhile, hnone]
  rfl

end State

/-! ## Runs -/

@[simp] theorem Parsed.result_after (p : Parsed) (events : List ParseEvent) :
    (p.after events).result = p.result :=
  rfl

@[simp] theorem Parsed.state_after (p : Parsed) (events : List ParseEvent) :
    (p.after events).state = p.state :=
  rfl

/-- **What a run comes to, without what happened on the way.** -/
def Parsed.outcome (p : Parsed) : Except ParseFailure Node × State := (p.result, p.state)

namespace Script

/-- **The frame of a run**: only the cursor of the state can be another. -/
theorem run_state (u : Script) (s : State) : (u.run s).state = s.moveTo (u.run s).state.cursor := by
  induction u generalizing s with
  | done n => rfl
  | fail f => rfl
  | peek next ih =>
    unfold run
    split
    · exact ih _ s
    · exact ih _ s
  | eat next ih =>
    unfold run
    split
    · rename_i t s' heat
      rw [(State.eat_eq_ok heat).1]
      exact ih _ s.advance
    · exact ih _ s
  | require kinds next ih =>
    unfold run
    split
    · rename_i t s' hrequire
      rw [(State.require_eq_ok hrequire).1]
      exact ih _ s.advance
    · exact ih _ s
  | isKind kinds next ih => exact ih _ s
  | skipWhile kinds next ih => exact ih (s.skipWhile kinds)
  | look next ih => exact ih _ _ s
  | parse name unit next ihunit ih =>
    unfold run
    dsimp only
    split
    · exact ih _ (s.skipTrivia.moveTo _)
    · exact ih _ s.skipTrivia
  | parseOther shown next ih => exact ih _ s

/-- **A run does not go beyond the tokens.** -/
theorem run_cursor_le (u : Script) {s : State} (h : s.cursor ≤ s.tokens.length) :
    (u.run s).state.cursor ≤ s.tokens.length := by
  induction u generalizing s with
  | done n => exact h
  | fail f => exact h
  | peek next ih =>
    unfold run
    split
    · exact ih _ h
    · exact ih _ h
  | eat next ih =>
    unfold run
    split
    · rename_i t s' heat
      obtain ⟨rfl, rest, hrest⟩ := State.eat_eq_ok heat
      exact ih (s := s.advance) _ (State.cursor_lt_of_rest hrest)
    · exact ih _ h
  | require kinds next ih =>
    unfold run
    split
    · rename_i t s' hrequire
      obtain ⟨rfl, -, rest, hrest⟩ := State.require_eq_ok hrequire
      exact ih (s := s.advance) _ (State.cursor_lt_of_rest hrest)
    · exact ih _ h
  | isKind kinds next ih => exact ih _ h
  | skipWhile kinds next ih => exact ih (State.cursor_skipWhile_le kinds h)
  | look next ih => exact ih _ _ h
  | parse name unit next ihunit ih =>
    -- the unit starts after the trivia, and a failure leads back there
    have hstart := State.cursor_skipWhile_le s.skipKinds h
    unfold run
    dsimp only
    split
    · exact ih (s := s.skipTrivia.moveTo _) _ (ihunit (s := s.skipTrivia) hstart)
    · exact ih (s := s.skipTrivia) _ hstart
  | parseOther shown next ih => exact ih _ h

/-! ## Outcomes, by how a script begins -/

@[simp] theorem outcome_isKind (kinds : Kinds) (next : Bool → Script) (s : State) :
    ((isKind kinds next).run s).outcome = ((next (s.isKind kinds)).run s).outcome :=
  rfl

@[simp] theorem outcome_skipWhile (kinds : Kinds) (next : Script) (s : State) :
    ((skipWhile kinds next).run s).outcome = (next.run (s.skipWhile kinds)).outcome :=
  rfl

@[simp] theorem outcome_look (next : Nat → Nat → Script) (s : State) :
    ((look next).run s).outcome = ((next s.cursor s.tokens.length).run s).outcome :=
  rfl

theorem outcome_eaten (next : Token → Script) (s : State) :
    ((eaten next).run s).outcome = match s.eat with
      | .ok (t, s') => ((next t).run s').outcome
      | .error e => (.error (refusal e), s) := by
  rw [eaten, run]
  cases s.eat with
  | ok p => rfl
  | error e => rfl

theorem outcome_required (kinds : Kinds) (next : Token → Script) (s : State) :
    ((required kinds next).run s).outcome = match s.require kinds with
      | .ok (t, s') => ((next t).run s').outcome
      | .error e => (.error (refusal e), s) := by
  rw [required, run]
  cases s.require kinds with
  | ok p => rfl
  | error e => rfl

/-- **A unit that parses, by its outcome after the trivia**: its node and its
state are what is gone on with, and its failure is the failure of the whole,
in the state after the trivia. -/
theorem outcome_parsed (name : String) (unit : Script) (next : Node → Script) (s : State) :
    ((parsed name unit next).run s).outcome = match (unit.run s.skipTrivia).outcome with
      | (.ok n, s') => ((next n).run s').outcome
      | (.error f, _) => (.error f, s.skipTrivia) := by
  have hframe := run_state unit s.skipTrivia
  unfold parsed Parsed.outcome
  rw [run]
  dsimp only
  cases hresult : (unit.run s.skipTrivia).result with
  | ok n =>
    simp only [Parsed.result_after, Parsed.state_after, ← hframe]
    rfl
  | error f => rfl

end Script

end ParseKit

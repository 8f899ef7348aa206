import ParseKit.Proofs.Parsing.Yield

/-!
# Loops that come to an end

A loop goes on as long as a test says so. Nothing in it counts: if a round could leave the cursor
where it was, the same round would follow for ever. The loops of moves have a number of rounds
besides, after which they are stuck, so that a script is always finite. This module says when that
number plays no part.

`Move.Repeats` is the loop without the number, as a relation between where it starts and what it
comes to, so that a loop that goes on for ever comes to nothing. A round makes progress
(`Parsed.Progresses`) if it takes a token that is no trivia, or else fails with an error of parsing.
Then the tokens that are left are a measure, and `Move.IsLoop.repeats` finds for every start what
the loop comes to; and the loop with more rounds than there are tokens left comes to the same.

Whether a script makes progress is a matter of the row of tokens that it is asked on
(`Script.Advances`), so that it is found by the rules of `Script.Yields`.
-/

namespace ParseKit

open Script (refusal Yields)

/-! ## Progress -/

/-- **A token that is no trivia is taken** from one state to another. -/
structure State.Takes (s s' : State) : Prop where
  /-- The cursor is further on. -/
  further : s.cursor < s'.cursor
  /-- It is not beyond the tokens. -/
  within : s'.cursor ≤ s.tokens.length
  /-- One of the tokens in between is no trivia. -/
  token : ∃ i t, s.cursor ≤ i ∧ i < s'.cursor ∧ s.tokens[i]? = some t ∧ t.kind ∉ s.skipKinds

/-- **A node, or an error of parsing.** -/
def Script.Answers (result : Except ParseFailure Node) : Prop :=
  (∃ n, result = .ok n) ∨ ∃ e, result = .error (refusal e)

/-- **A run makes progress**: it makes a node and takes a token that is no trivia, or it fails with
an error of parsing. -/
def Parsed.Progresses (p : Parsed) (s : State) : Prop :=
  (∃ n, p.result = .ok n) ∧ s.Takes p.state ∨ ∃ e, p.result = .error (refusal e)

namespace Script

variable {k : Kinds} {ts : List Token} {u : Script}

/-- **A script advances on a row of tokens**: it takes some, and not only trivia, or it refuses. -/
def Advances (k : Kinds) (u : Script) (ts : List Token) : Prop :=
  Yields k u ts none ∨ ∃ n taken us, ts = taken ++ us ∧ (∃ t ∈ taken, t.kind ∉ k)
    ∧ Yields k u ts (some (n, us))

theorem Advances.progresses {s : State} (h : Advances s.skipKinds u s.rest) :
    (u.run s).Progresses s := by
  rcases h with h | ⟨n, taken, us, hts, ⟨t, ht, hkind⟩, h⟩
  · exact .inr (h s rfl rfl)
  · obtain ⟨hresult, hleft⟩ := h s rfl rfl
    obtain ⟨i, hi, rfl⟩ := List.getElem_of_mem ht
    have hrest : s.tokens.drop (u.run s).state.cursor = us := by
      rw [← hleft]
      show _ = (u.run s).state.rest
      rw [run_state]
      rfl
    -- how many tokens are taken, counted from the end
    have hbefore := congrArg List.length hts
    have hafter := congrArg List.length hrest
    rw [State.rest, List.length_drop, List.length_append] at hbefore
    rw [List.length_drop] at hafter
    have hwithin := run_cursor_le u (s := s) (by omega)
    have htoken : s.tokens[s.cursor + i]? = some taken[i] := by
      rw [← List.getElem?_drop]
      show s.rest[i]? = _
      rw [hts, List.getElem?_append_left hi, List.getElem?_eq_getElem hi]
    exact .inl ⟨⟨n, hresult⟩, by omega, hwithin, _, _, Nat.le_add_right _ i, by omega, htoken,
      hkind⟩

theorem Advances.eaten {next : Token → Script} (h : ∀ t r, Advances k (next t) r)
    (ts : List Token) : Advances k (.eaten next) ts := by
  cases ts with
  | nil =>
    refine .inl fun s _ hs => ?_
    have heat : s.eat = .error (.ofKinds [] none none s.filename) := by
      rw [State.eat, State.peek, hs]
      rfl
    rw [outcome_eaten, heat]
    exact ⟨_, rfl⟩
  | cons t r =>
    rcases h t r with h | ⟨n, taken, us, rfl, ⟨t', ht', hkind⟩, h⟩
    · exact .inl (.eaten h)
    · exact .inr ⟨n, t :: taken, us, rfl, ⟨t', List.mem_cons_of_mem t ht', hkind⟩, .eaten h⟩

/-- A unit that advances after the trivia does so from before it, and so does what only skips tokens
after the unit. -/
theorem Advances.parsed {name : String} {next : Node → Script} (hunit : Advances k u (k.skip ts))
    (hnext : ∀ n us, ∃ m gap r, us = gap ++ r ∧ Yields k (next n) us (some (m, r))) :
    Advances k (.parsed name u next) ts := by
  obtain ⟨gap, -, hts⟩ := k.exists_skipped ts
  rcases hunit with h | ⟨n, taken, us, hskip, ⟨t, ht, hkind⟩, h⟩
  · exact .inl (.parsed_none h)
  · obtain ⟨m, gap', r, rfl, hyields⟩ := hnext n us
    have htaken : ts = gap ++ taken ++ gap' ++ r := by
      rw [hskip] at hts
      simpa only [List.append_assoc] using hts
    have hmem : t ∈ gap ++ taken ++ gap' :=
      List.mem_append_left _ (List.mem_append_right _ ht)
    exact .inr ⟨m, _, r, htaken, ⟨t, hmem, hkind⟩, .parsed h hyields⟩

/-- What a script comes to when another goes on with its node. -/
def follow (next : Node → Script) :
    Except ParseFailure Node × State → Except ParseFailure Node × State
  | (.ok n, s) => ((next n).run s).outcome
  | (.error f, s) => (.error f, s)

theorem follow_done (o : Except ParseFailure Node × State) : follow .done o = o := by
  obtain ⟨_ | n, s⟩ := o <;> rfl

end Script

open Script (Answers follow follow_done)

/-! ## Loops -/

namespace Move

variable {goesOn : State → Bool} {body : Move} {move : Nat → Move}

/-- **A move is a step of its own**: what follows it goes on with its node, where it left the
state. -/
def Sequential (body : Move) : Prop :=
  ∀ n next s, ((body n next).run s).outcome = follow next ((body n .done).run s).outcome

theorem sequential_parsed (name : String) (unit : Script) (kinds : Kinds) :
    Sequential fun n next =>
      .parsed name unit fun child => .skipWhile kinds (next (n.addChild child)) := by
  intro n next s
  rw [Script.outcome_parsed, Script.outcome_parsed]
  obtain ⟨_ | child, s'⟩ := (unit.run s.skipTrivia).outcome <;> rfl

theorem Sequential.eaten (h : body.Sequential) :
    Sequential fun n next => .eaten fun _ => body n next := by
  intro n next s
  rw [Script.outcome_eaten, Script.outcome_eaten]
  cases s.eat with
  | error e => rfl
  | ok p => exact h n next p.2

/-- **What a loop comes to**: round after round as long as the test says so, until one fails. There
is no limit to the number of rounds. -/
inductive Repeats (goesOn : State → Bool) (body : Move) :
    Node → State → Except ParseFailure Node × State → Prop where
  /-- The test says no. -/
  | stop {n : Node} {s : State} (h : goesOn s = false) : Repeats goesOn body n s (.ok n, s)
  /-- A round fails. -/
  | fail {n : Node} {s s' : State} {f : ParseFailure} (h : goesOn s = true)
      (hround : ((body n .done).run s).outcome = (.error f, s')) :
      Repeats goesOn body n s (.error f, s')
  /-- A round makes a node, with which the loop goes on. -/
  | round {n m : Node} {s s' : State} {o : Except ParseFailure Node × State}
      (h : goesOn s = true) (hround : ((body n .done).run s).outcome = (.ok m, s'))
      (hrest : Repeats goesOn body m s' o) : Repeats goesOn body n s o

/-- **A loop comes to one thing only.** -/
theorem Repeats.unique {n : Node} {s : State} {o o' : Except ParseFailure Node × State}
    (h : Repeats goesOn body n s o) (h' : Repeats goesOn body n s o') : o = o' := by
  induction h with
  | stop hstop =>
    cases h' with
    | stop => rfl
    | fail h => cases hstop.symm.trans h
    | round h => cases hstop.symm.trans h
  | fail hgo hround =>
    cases h' with
    | stop h => cases hgo.symm.trans h
    | fail _ hround' => exact hround.symm.trans hround'
    | round _ hround' => cases hround.symm.trans hround'
  | round hgo hround _ ih =>
    cases h' with
    | stop h => cases hgo.symm.trans h
    | fail _ hround' => cases hround.symm.trans hround'
    | round _ hround' hrest =>
      cases hround.symm.trans hround'
      exact ih hrest

/-- **A loop with a number of rounds**, as long as there are rounds. -/
def IsLoop (goesOn : State → Bool) (body : Move) (move : Nat → Move) : Prop :=
  ∀ rounds n next s, ((move (rounds + 1) n next).run s).outcome
    = if goesOn s then ((body n fun m => move rounds m next).run s).outcome
      else ((next n).run s).outcome

theorem isLoop_loop (kinds : Kinds) (body : Move) :
    IsLoop (State.isKind · kinds) body (loop kinds body) := by
  intro rounds n next s
  rw [loop, Script.outcome_isKind]
  beta_reduce
  cases s.isKind kinds <;> rfl

theorem isLoop_untilEnd (body : Move) :
    IsLoop (fun s => !s.isAtEnd) body (untilEnd body) := by
  intro rounds n next s
  rw [untilEnd, Script.outcome_look]
  by_cases hend : s.tokens.length ≤ s.cursor <;> simp [State.isAtEnd, hend]

/-- **A loop whose rounds make progress comes to an end**: to a node, or to an error of parsing.
With more rounds than there are tokens left, the number of rounds makes no difference. -/
theorem IsLoop.repeats {k : Kinds} (hloop : IsLoop goesOn body move) (hbody : body.Sequential)
    (hround : ∀ n s, s.skipKinds = k → ((body n .done).run s).Progresses s) (n : Node) {s : State}
    (hs : s.skipKinds = k) :
    ∃ o, Repeats goesOn body n s o ∧ Answers o.1
      ∧ ∀ rounds next, s.remaining < rounds →
        ((move rounds n next).run s).outcome = follow next o := by
  induction hleft : s.remaining using Nat.strong_induction_on generalizing n s with
  | _ left ih =>
    subst hleft
    cases hgo : goesOn s with
    | false =>
      refine ⟨_, .stop hgo, .inl ⟨n, rfl⟩, fun rounds next hrounds => ?_⟩
      obtain ⟨rounds, rfl⟩ := Nat.exists_eq_add_one_of_ne_zero (Nat.ne_zero_of_lt hrounds)
      rw [hloop, hgo]
      rfl
    | true =>
      -- one round of the loop with a number, by what a round comes to on its own
      have hfirst : ∀ rounds next, ((move (rounds + 1) n next).run s).outcome
          = follow (fun m => move rounds m next) ((body n .done).run s).outcome := by
        intro rounds next
        rw [hloop, hgo, ← hbody]
        rfl
      rcases hround n s hs with ⟨⟨m, hm⟩, htakes⟩ | ⟨e, he⟩
      · have hstate := Script.run_state (body n .done) s
        have houtcome : ((body n .done).run s).outcome = (.ok m, ((body n .done).run s).state) :=
          Prod.ext hm rfl
        generalize ((body n .done).run s).state = s' at hstate houtcome htakes
        have hfewer : s'.remaining < s.remaining := by
          have htokens : s'.tokens = s.tokens := by rw [hstate]; rfl
          have hfurther := htakes.further
          have hwithin := htakes.within
          rw [State.remaining, State.remaining, htokens]
          omega
        obtain ⟨o, hrepeats, hanswers, hrounds⟩ :=
          ih s'.remaining hfewer m (s := s') (by rw [hstate]; exact hs) rfl
        refine ⟨o, .round hgo houtcome hrepeats, hanswers, fun rounds next hmore => ?_⟩
        obtain ⟨rounds, rfl⟩ := Nat.exists_eq_add_one_of_ne_zero (Nat.ne_zero_of_lt hmore)
        rw [hfirst, houtcome]
        exact hrounds rounds next (by omega)
      · have houtcome : ((body n .done).run s).outcome
            = (.error (refusal e), ((body n .done).run s).state) := Prod.ext he rfl
        refine ⟨_, .fail hgo houtcome, .inr ⟨e, rfl⟩, fun rounds next hmore => ?_⟩
        obtain ⟨rounds, rfl⟩ := Nat.exists_eq_add_one_of_ne_zero (Nat.ne_zero_of_lt hmore)
        rw [hfirst, houtcome]
        rfl

/-- **The loop that counts its rounds by the tokens left is the loop that does not count.** -/
theorem IsLoop.repeats_bounded {k : Kinds} (hloop : IsLoop goesOn body move)
    (hbody : body.Sequential)
    (hround : ∀ n s, s.skipKinds = k → ((body n .done).run s).Progresses s) (n : Node) {s : State}
    (hs : s.skipKinds = k) :
    Repeats goesOn body n s ((bounded move n .done).run s).outcome
      ∧ Answers ((bounded move n .done).run s).result := by
  obtain ⟨o, hrepeats, hanswers, hrounds⟩ := hloop.repeats hbody hround n hs
  have houtcome : ((bounded move n .done).run s).outcome = o := by
    rw [bounded, Script.outcome_look]
    exact (hrounds _ _ (Nat.lt_succ_self _)).trans (follow_done o)
  have hresult : ((bounded move n .done).run s).result = o.1 := congrArg Prod.fst houtcome
  rw [houtcome, hresult]
  exact ⟨hrepeats, hanswers⟩

end Move

end ParseKit

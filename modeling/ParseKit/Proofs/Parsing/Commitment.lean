import ParseKit.Proofs.Parsing.Outcome

/-!
# Units commit all or nothing

Letting a unit parse has one of two effects on the state that asks for it.
If the unit makes a node, the cursor is moved to where the unit has come;
if it fails, with whatever failure and however deep in the units that it
lets parse itself, the cursor stays where the trivia before the unit ends.
What was committed within a unit that fails is lost with it, so that the
same unit can be asked again, to the same end.

`Script.run` hands states on as values, and a unit cannot reach the state
that asks for it. A parser as programs have it works on state *objects*
that are written to: each unit gets a new one, a copy, and the cursor of
the object that asks is written only when the unit has made its node.
`Script.runIn` runs a script in that way, in a store of objects, and
`Script.runIn_eq` says that the two ways of running agree: the object that
a script runs on ends as the state ends, and of the others only new ones
are touched. With it, `State.parse_commits_or_aborts` says of the objects
themselves that a unit works on its copy alone.
-/

namespace ParseKit

/-! ## Where the trivia ends -/

namespace State

/-- **The trivia at the cursor ends at an index**: the first from the cursor
on whose token is no trivia, or the number of tokens if there is none. -/
structure TriviaEnds (s : State) (c : Nat) : Prop where
  /-- The index is not before the cursor. -/
  cursor_le : s.cursor ≤ c
  /-- All tokens before it are trivia. -/
  skipped : ∀ i t, s.cursor ≤ i → i < c → s.tokens[i]? = some t → t.kind ∈ s.skipKinds
  /-- The token at it is none. -/
  stops : ∀ t, s.tokens[c]? = some t → t.kind ∉ s.skipKinds
  /-- It is not beyond the tokens, unless the cursor is. -/
  le_length : c ≤ max s.cursor s.tokens.length

/-- The trivia ends at one index only. -/
theorem TriviaEnds.unique {s : State} {c d : Nat} (hc : s.TriviaEnds c) (hd : s.TriviaEnds d) :
    c = d := by
  -- of two such indices, the token at the first would be trivia for the second
  have hnot : ∀ {c d : Nat}, s.TriviaEnds c → s.TriviaEnds d → ¬ c < d := by
    intro c d hc hd hlt
    have hlength : c < s.tokens.length := by
      have := hc.cursor_le
      have := hd.le_length
      omega
    have htoken := List.getElem?_eq_getElem hlength
    exact hc.stops _ htoken (hd.skipped c _ hc.cursor_le hlt htoken)
  have := hnot hc hd
  have := hnot hd hc
  omega

/-- **Skipping the trivia moves the cursor to where it ends.** -/
theorem triviaEnds_skipTrivia (s : State) : s.TriviaEnds s.skipTrivia.cursor := by
  have hcursor : s.skipTrivia.cursor
      = s.cursor + s.rest.findIdx fun t => !s.skipKinds.contains t.kind := by
    show s.cursor + (s.rest.takeWhile _).length = _
    rw [List.takeWhile_eq_take_findIdx_not, List.length_take,
      Nat.min_eq_left List.findIdx_le_length]
  have hrest : ∀ j, s.tokens[s.cursor + j]? = s.rest[j]? := fun j => List.getElem?_drop.symm
  rw [hcursor]
  refine ⟨Nat.le_add_right _ _, fun i t hi hlt ht => ?_, fun t ht hmem => ?_, ?_⟩
  · obtain ⟨j, rfl⟩ := Nat.exists_eq_add_of_le hi
    rw [hrest] at ht
    obtain ⟨hj, rfl⟩ := List.getElem?_eq_some_iff.mp ht
    have hskip := List.not_of_lt_findIdx (Nat.lt_of_add_lt_add_left hlt)
    exact List.contains_iff_mem.mp (by simpa using hskip)
  · rw [hrest] at ht
    obtain ⟨hj, rfl⟩ := List.getElem?_eq_some_iff.mp ht
    have hstop := List.findIdx_getElem (w := hj)
    rw [List.contains_iff_mem.mpr hmem] at hstop
    exact Bool.false_ne_true hstop
  · have hle : s.rest.findIdx (fun t => !s.skipKinds.contains t.kind)
        ≤ s.tokens.length - s.cursor :=
      List.length_drop ▸ List.findIdx_le_length
    omega

theorem triviaEnds_iff (s : State) (c : Nat) : s.TriviaEnds c ↔ c = s.skipTrivia.cursor :=
  ⟨fun h => h.unique s.triviaEnds_skipTrivia, fun h => h ▸ s.triviaEnds_skipTrivia⟩

/-- After the trivia there is no trivia. -/
theorem skipTrivia_skipTrivia (s : State) : s.skipTrivia.skipTrivia = s.skipTrivia :=
  s.skipWhile_skipWhile s.skipKinds

/-! ## States as values -/

/-- **Letting a unit parse, by its outcome after the trivia.** -/
theorem outcome_parse (s : State) (name : String) (unit : Script) :
    (s.parse name unit).outcome = match (unit.run s.skipTrivia).outcome with
      | (.ok n, s') => (.ok n, s')
      | (.error f, _) => (.error f, s.skipTrivia) :=
  Script.outcome_parsed name unit .done s

/-- The node or the failure of a unit is that of the unit by itself. -/
theorem result_parse (s : State) (name : String) (unit : Script) :
    (s.parse name unit).result = (unit.run s.skipTrivia).result := by
  have h := congrArg Prod.fst (s.outcome_parse name unit)
  unfold Parsed.outcome at h
  cases hresult : (unit.run s.skipTrivia).result with
  | ok n => simpa [hresult] using h
  | error f => simpa [hresult] using h

/-- A unit that makes a node leaves its own state. -/
theorem state_parse_of_ok {s : State} {name : String} {unit : Script} {n : Node}
    (h : (s.parse name unit).result = .ok n) :
    (s.parse name unit).state = (unit.run s.skipTrivia).state := by
  have hstate := congrArg Prod.snd (s.outcome_parse name unit)
  rw [result_parse] at h
  unfold Parsed.outcome at hstate
  simpa [h] using hstate

/-- A unit that fails leaves the state after the trivia. -/
theorem state_parse_of_error {s : State} {name : String} {unit : Script} {f : ParseFailure}
    (h : (s.parse name unit).result = .error f) :
    (s.parse name unit).state = s.skipTrivia := by
  have hstate := congrArg Prod.snd (s.outcome_parse name unit)
  rw [result_parse] at h
  unfold Parsed.outcome at hstate
  simpa [h] using hstate

end State

/-! ## States as objects -/

/-- **State objects**, each known by its index. -/
abbrev Store := List State

/-- The state that an object holds. -/
def Store.at (σ : Store) (i : Nat) : State := σ.getD i default

namespace Store

@[simp] theorem at_set (σ : Store) (s : State) {i : Nat} (h : i < σ.length) :
    Store.at (σ.set i s) i = s := by
  simp [Store.at, h]

@[simp] theorem set_at (σ : Store) {i : Nat} (h : i < σ.length) : σ.set i (σ.at i) = σ := by
  simp [Store.at, h]

theorem at_append_left (σ τ : Store) {i : Nat} (h : i < σ.length) :
    Store.at (σ ++ τ) i = σ.at i := by
  rw [Store.at, List.getD_eq_getElem?_getD, List.getElem?_append_left h,
    ← List.getD_eq_getElem?_getD, ← Store.at]

@[simp] theorem at_append_length (σ : Store) (s : State) (τ : Store) :
    Store.at (σ ++ s :: τ) σ.length = s := by
  simp [Store.at]

@[simp] theorem set_append_length (σ : Store) (s s' : State) :
    List.set (σ ++ [s]) σ.length s' = σ ++ [s'] := by
  rw [List.set_append_right _ _ (Nat.le_refl _), Nat.sub_self]
  rfl

theorem at_of_getElem? {σ : Store} {i : Nat} {s : State} (h : σ[i]? = some s) : σ.at i = s := by
  rw [Store.at, List.getD_eq_getElem?_getD, h, Option.getD_some]

end Store

namespace Script

/-- **Runs a script on an object.** The object is written to as the script
goes. A unit that the script lets parse gets an object of its own, which is
a copy made once the trivia is skipped; when the unit has made a node, the
cursor of its object is written to the one that asked, and when it fails,
nothing is. -/
def runIn : Script → Nat → Store → Except ParseFailure Node × Store
  | .done n, _, σ => (.ok n, σ)
  | .fail f, _, σ => (.error f, σ)
  | .peek next, i, σ =>
    match (σ.at i).peek with
    | .ok t => runIn (next (.ok t)) i σ
    | .error e => runIn (next (.error (refusal e))) i σ
  | .eat next, i, σ =>
    match (σ.at i).eat with
    | .ok (t, s) => runIn (next (.ok t)) i (σ.set i s)
    | .error e => runIn (next (.error (refusal e))) i σ
  | .require kinds next, i, σ =>
    match (σ.at i).require kinds with
    | .ok (t, s) => runIn (next (.ok t)) i (σ.set i s)
    | .error e => runIn (next (.error (refusal e))) i σ
  | .isKind kinds next, i, σ => runIn (next ((σ.at i).isKind kinds)) i σ
  | .skipWhile kinds next, i, σ => runIn next i (σ.set i ((σ.at i).skipWhile kinds))
  | .look next, i, σ => runIn (next (σ.at i).cursor (σ.at i).tokens.length) i σ
  | .parse _ unit next, i, σ =>
    let skipped : Store := σ.set i (σ.at i).skipTrivia
    let copy := skipped.length
    let (result, after) := runIn unit copy (skipped ++ [skipped.at i])
    match result with
    | .ok n => runIn (next (.ok n)) i (after.set i ((after.at i).moveTo (after.at copy).cursor))
    | .error f => runIn (next (.error f)) i after
  | .parseOther shown next, i, σ => runIn (next (.error (.notUnit shown))) i σ

/-- **What running on an object does**, as far as those can see that were
there before: an outcome, and another state in that object. -/
def EndsIn (u : Script) (i : Nat) (σ : Store) (p : Parsed) : Prop :=
  ∃ others, u.runIn i σ = (p.result, σ.set i p.state ++ others)

/-- Running on an object that has just been written to, with new objects
after those that were there. -/
theorem endsIn_set {u : Script} {i : Nat} {σ : Store} {s : State} (τ : Store) (h : i < σ.length)
    (hrun : ∀ σ : Store, i < σ.length → u.EndsIn i σ (u.run (σ.at i))) :
    ∃ others, u.runIn i (σ.set i s ++ τ)
      = ((u.run s).result, σ.set i (u.run s).state ++ others) := by
  have hlength : i < (σ.set i s).length := by rwa [List.length_set]
  obtain ⟨others, hrun⟩ := hrun (σ.set i s ++ τ) (by
    rw [List.length_append]
    exact Nat.lt_add_right _ hlength)
  rw [Store.at_append_left _ τ hlength, Store.at_set σ s h, List.set_append_left _ _ hlength,
    List.set_set, List.append_assoc] at hrun
  exact ⟨τ ++ others, hrun⟩

/-- A unit runs on its copy: the object that asks is as it was when the copy
was made, and the copy, which is the first new object, is where the unit has
come. -/
theorem runIn_copy {unit : Script} {σ : Store} {s : State}
    (hunit : unit.EndsIn σ.length (σ ++ [s]) (unit.run (Store.at (σ ++ [s]) σ.length))) :
    ∃ others, unit.runIn σ.length (σ ++ [s])
      = ((unit.run s).result, σ ++ (unit.run s).state :: others) := by
  obtain ⟨others, hrun⟩ := hunit
  rw [Store.at_append_length, Store.set_append_length, List.append_assoc] at hrun
  exact ⟨others, hrun⟩

/-- **Running on an object is running on the state that it holds**: the
outcome is the same, the object ends as that state, and the other objects
that were there are as before. -/
theorem runIn_eq (u : Script) (i : Nat) (σ : Store) (h : i < σ.length) :
    u.EndsIn i σ (u.run (σ.at i)) := by
  induction u generalizing i σ with
  | done n => exact ⟨[], by rw [runIn, run, Store.set_at σ h, List.append_nil]⟩
  | fail f => exact ⟨[], by rw [runIn, run, Store.set_at σ h, List.append_nil]⟩
  | peek next ih =>
    unfold EndsIn
    rw [runIn, run]
    cases (σ.at i).peek with
    | ok t => exact ih _ i σ h
    | error e => exact ih _ i σ h
  | eat next ih =>
    unfold EndsIn
    rw [runIn, run]
    cases (σ.at i).eat with
    | ok p => simpa using endsIn_set [] h (ih _ i)
    | error e => exact ih _ i σ h
  | require kinds next ih =>
    unfold EndsIn
    rw [runIn, run]
    cases (σ.at i).require kinds with
    | ok p => simpa using endsIn_set [] h (ih _ i)
    | error e => exact ih _ i σ h
  | isKind kinds next ih => exact ih _ i σ h
  | skipWhile kinds next ih =>
    unfold EndsIn
    rw [runIn, run]
    simpa using endsIn_set [] h (ih i)
  | look next ih => exact ih _ _ i σ h
  | parse name unit next ihunit ih =>
    unfold EndsIn
    rw [runIn, run]
    dsimp only
    rw [Store.at_set σ _ h]
    generalize (σ.at i).skipTrivia = start
    obtain ⟨forks, hcopy⟩ := runIn_copy (ihunit _ (σ.set i start ++ [start]) (by simp))
    rw [hcopy]
    dsimp only
    have hlength : i < (σ.set i start).length := by rwa [List.length_set]
    cases (unit.run start).result with
    | ok n =>
      -- the cursor of the copy is written to the object that asks
      dsimp only
      rw [Store.at_append_left _ _ hlength, Store.at_set σ _ h, Store.at_append_length,
        List.set_append_left _ _ hlength, List.set_set]
      exact endsIn_set _ h (ih _ i)
    | error f => exact endsIn_set _ h (ih _ i)
  | parseOther shown next ih => exact ih _ i σ h

end Script

/-! ## The law -/

namespace State

/-- **A unit commits all or nothing** on a state whose trivia ends at `c₀`. -/
structure CommitsOrAborts (s : State) (c₀ : Nat) (name : String) (unit : Script) : Prop where
  /-- Where there is a node, the unit makes it by itself from `c₀` on, and the
  state is the one that the unit leaves then. -/
  commits : ∀ n, (s.parse name unit).result = .ok n →
    (unit.run (s.moveTo c₀)).result = .ok n
      ∧ (s.parse name unit).state = (unit.run (s.moveTo c₀)).state
  /-- Where the unit fails from `c₀` on, that is the failure, and the cursor is
  at `c₀`. -/
  aborts : ∀ f, (unit.run (s.moveTo c₀)).result = .error f →
    (s.parse name unit).outcome = (.error f, s.moveTo c₀)
  /-- After a failure, asking again leads to the same failure at the same
  cursor. -/
  again : ∀ f, (s.parse name unit).result = .error f →
    ((s.parse name unit).state.parse name unit).outcome = (.error f, s.moveTo c₀)
  /-- On an object, parsing does to it what it does to the state, and to no
  other that was there; the first new object is the copy, as the unit leaves
  it. -/
  isolated : ∀ (σ : Store) (i : Nat), σ[i]? = some s → ∃ others,
    (Script.parsed name unit .done).runIn i σ
      = ((s.parse name unit).result,
        σ.set i (s.parse name unit).state ++ (unit.run (s.moveTo c₀)).state :: others)
  /-- The unit by itself, on the object at `c₀` and without a copy, comes to the
  same as on its copy. -/
  direct : ∀ (σ : Store) (i : Nat), σ[i]? = some s → ∃ others,
    unit.runIn i (σ.set i (s.moveTo c₀))
      = ((unit.run (s.moveTo c₀)).result, σ.set i (unit.run (s.moveTo c₀)).state ++ others)

/-- On an object, a unit parses on its copy. -/
theorem runIn_parsed (s : State) (name : String) (unit : Script) {σ : Store} {i : Nat}
    (h : σ[i]? = some s) :
    ∃ others, (Script.parsed name unit .done).runIn i σ
      = ((s.parse name unit).result,
        σ.set i (s.parse name unit).state ++ (unit.run s.skipTrivia).state :: others) := by
  have hi : i < σ.length := (List.getElem?_eq_some_iff.mp h).1
  have hlength : i < (σ.set i s.skipTrivia).length := by rwa [List.length_set]
  have hunit := Script.runIn_eq unit (σ.set i s.skipTrivia).length
    (σ.set i s.skipTrivia ++ [s.skipTrivia]) (by simp)
  obtain ⟨others, hcopy⟩ := Script.runIn_copy hunit
  refine ⟨others, ?_⟩
  have hresult := s.result_parse name unit
  rw [Script.parsed, Script.runIn]
  dsimp only
  rw [Store.at_of_getElem? h, Store.at_set σ _ hi, hcopy, hresult]
  dsimp only
  cases hunit : (unit.run s.skipTrivia).result with
  | ok n =>
    rw [hunit] at hresult
    dsimp only
    rw [Store.at_append_left _ _ hlength, Store.at_set σ _ hi, Store.at_append_length,
      List.set_append_left _ _ hlength, List.set_set, ← Script.run_state,
      state_parse_of_ok hresult]
    rfl
  | error f =>
    rw [hunit] at hresult
    rw [state_parse_of_error hresult]
    rfl

/-- **Units commit all or nothing.** The trivia before a unit ends at one index
`c₀`; every unit, whatever it does and lets others do, commits or aborts
there; and what is no unit is refused with the state as it was. -/
theorem parse_commits_or_aborts (s : State) :
    ∃ c₀, (∀ c, s.TriviaEnds c ↔ c = c₀)
      ∧ (∀ name unit, s.CommitsOrAborts c₀ name unit)
      ∧ ∀ shown, (s.parseOther shown).outcome = (.error (.notUnit shown), s) := by
  refine ⟨s.skipTrivia.cursor, s.triviaEnds_iff, fun name unit => ?_, fun shown => rfl⟩
  have hstart : s.moveTo s.skipTrivia.cursor = s.skipTrivia := rfl
  refine ⟨fun n h => ?_, fun f h => ?_, fun f h => ?_, fun σ i h => ?_, fun σ i h => ?_⟩
  · rw [hstart, state_parse_of_ok h, ← result_parse s name unit]
    exact ⟨h, rfl⟩
  · rw [hstart] at h ⊢
    rw [← result_parse s name unit] at h
    exact Prod.ext h (state_parse_of_error h)
  · -- the state that is left has no trivia, so the unit runs as it did
    rw [hstart, state_parse_of_error h]
    have hagain : (s.skipTrivia.parse name unit).result = .error f := by
      rw [result_parse, skipTrivia_skipTrivia, ← result_parse s name unit, h]
    refine Prod.ext hagain ?_
    show (s.skipTrivia.parse name unit).state = s.skipTrivia
    rw [state_parse_of_error hagain, skipTrivia_skipTrivia]
  · exact s.runIn_parsed name unit h
  · simpa using Script.endsIn_set [] (List.getElem?_eq_some_iff.mp h).1
      (fun σ hσ => Script.runIn_eq unit i σ hσ)

end State

end ParseKit

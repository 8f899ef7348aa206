import ParseKit.Parsing.Move
import ParseKit.Proofs.Parsing.Accounting

/-!
# Where an error of a parse comes from

A state refuses to give a token in three ways: there is none to look at, none to
take, or the one at the cursor is of the wrong kind. Each refusal makes an error,
with the token and its kind, the kinds that would do, and the name of the source.
The error may have been made on the state of a unit far below the one that is asked
to parse, after other units have failed and been given up, and passed on through
all of them.

It still points at the tokens that everyone shares. `ParseError.PointsFrom` says how:
the error has the name of the source, the kinds that would do are in increasing
order, and there is an index at which the token of the error stands and its kind is
not one that would do, or which is the end of the tokens. `Script.refused_pointsFrom`
finds this index at or after the cursor at which a script starts, for every refusal
on the way, by an induction over the script: units start where the state is that
lets them parse, and a run never goes back. A state that lets a unit parse in vain
is left where the unit started, so that the index is not before its cursor
(`State.parse_error_provenance`).

A unit can also fail with an error that it has made up. One that never does **passes
errors on**, and then every error of parsing that it fails with was a refusal
(`Script.PassesOn.refused_mem`).
-/

namespace ParseKit

/-! ## Kinds in order -/

@[simp] theorem mem_insertKind {k a : Int} {ks : List Int} :
    a ∈ insertKind k ks ↔ a = k ∨ a ∈ ks := by
  induction ks with
  | nil => exact List.mem_singleton.trans (or_iff_left List.not_mem_nil).symm
  | cons b ks ih =>
    unfold insertKind
    split
    · exact List.mem_cons
    · split
      · rename_i hkb
        rw [beq_iff_eq.mp hkb, List.mem_cons]
        exact (or_iff_right_of_imp Or.inl).symm
      · rw [List.mem_cons, ih, List.mem_cons]
        exact or_left_comm

/-- Putting a kind into its place keeps the others in order. -/
theorem pairwise_insertKind (k : Int) {ks : List Int} (h : ks.Pairwise (· < ·)) :
    (insertKind k ks).Pairwise (· < ·) := by
  induction ks with
  | nil => exact List.pairwise_singleton _ k
  | cons b ks ih =>
    obtain ⟨hb, hks⟩ := List.pairwise_cons.mp h
    unfold insertKind
    split
    · rename_i hlt
      refine List.pairwise_cons.mpr ⟨List.forall_mem_cons.mpr ⟨hlt, fun a ha => ?_⟩, h⟩
      exact Int.lt_trans hlt (hb a ha)
    · split
      · exact h
      · rename_i hlt hne
        refine List.pairwise_cons.mpr ⟨fun a ha => ?_, ih hks⟩
        rcases mem_insertKind.mp ha with rfl | ha
        · have hne : a ≠ b := fun heq => hne (beq_iff_eq.mpr heq)
          omega
        · exact hb a ha

/-- **The kinds of a set in order are the kinds of the set.** -/
@[simp] theorem mem_sortedKinds {a : Int} {ks : Kinds} : a ∈ sortedKinds ks ↔ a ∈ ks := by
  induction ks with
  | nil => exact Iff.rfl
  | cons k ks ih =>
    show a ∈ insertKind k (sortedKinds ks) ↔ _
    rw [mem_insertKind, ih, List.mem_cons]

/-- **They are in increasing order**, each once. -/
theorem pairwise_sortedKinds (ks : Kinds) : (sortedKinds ks).Pairwise (· < ·) := by
  induction ks with
  | nil => exact List.Pairwise.nil
  | cons k ks ih => exact pairwise_insertKind k ih

/-! ## What an error points at -/

/-- **An error points at some tokens from an index on**: at one that would not do, or
at their end. -/
structure ParseError.PointsFrom (e : ParseError) (tokens : List Token) (filename : String)
    (start : Nat) : Prop where
  /-- The error has the name of the source. -/
  filename : e.filename = filename
  /-- The kinds that would do are in increasing order. -/
  increasing : e.expected.Pairwise (· < ·)
  /-- There is nothing at the index, or the token of the error, which would not do. -/
  place : ∃ i, start ≤ i
    ∧ (i = tokens.length ∧ e.found = none ∧ e.token = none
      ∨ ∃ t, tokens[i]? = some t ∧ e.token = some t ∧ e.found = some t.kind
        ∧ t.kind ∉ e.expected)

theorem ParseError.PointsFrom.mono {e : ParseError} {tokens : List Token} {filename : String}
    {start start' : Nat} (h : e.PointsFrom tokens filename start) (hle : start' ≤ start) :
    e.PointsFrom tokens filename start' := by
  obtain ⟨i, hi, hplace⟩ := h.place
  exact ⟨h.filename, h.increasing, i, hle.trans hi, hplace⟩

namespace State

variable {s : State} {e : ParseError}

/-- An error without a token points at the end of the tokens. -/
theorem pointsFrom_end (hs : s.cursor ≤ s.tokens.length) (hrest : s.rest = []) (kinds : Kinds) :
    (ParseError.ofKinds kinds none none s.filename).PointsFrom s.tokens s.filename s.cursor := by
  have hend : s.cursor = s.tokens.length :=
    Nat.le_antisymm hs (List.drop_eq_nil_iff.mp hrest)
  exact ⟨rfl, pairwise_sortedKinds kinds, s.cursor, Nat.le_refl _, Or.inl ⟨hend, rfl, rfl⟩⟩

theorem peek_pointsFrom (hs : s.cursor ≤ s.tokens.length) (h : s.peek = .error e) :
    e.PointsFrom s.tokens s.filename s.cursor := by
  unfold peek at h
  split at h
  · cases h
  · rename_i hrest
    cases h
    exact pointsFrom_end hs hrest []

theorem eat_pointsFrom (hs : s.cursor ≤ s.tokens.length) (h : s.eat = .error e) :
    e.PointsFrom s.tokens s.filename s.cursor := by
  unfold eat at h
  cases hpeek : s.peek with
  | ok t =>
    rw [hpeek] at h
    cases h
  | error e' =>
    rw [hpeek] at h
    cases h
    exact peek_pointsFrom hs hpeek

theorem require_pointsFrom {kinds : Kinds} (hs : s.cursor ≤ s.tokens.length)
    (h : s.require kinds = .error e) : e.PointsFrom s.tokens s.filename s.cursor := by
  unfold require at h
  split at h
  · rename_i t rest hrest
    split at h
    · cases h
    · rename_i hkind
      cases h
      have hnot : t.kind ∉ sortedKinds kinds := fun hmem =>
        hkind (List.contains_iff_mem.mpr (mem_sortedKinds.mp hmem))
      exact ⟨rfl, pairwise_sortedKinds kinds, s.cursor, Nat.le_refl _,
        Or.inr ⟨t, getElem?_of_rest hrest, rfl, rfl, hnot⟩⟩
  · rename_i hrest
    cases h
    exact pointsFrom_end hs hrest kinds

end State

/-! ## Refusals in a run -/

namespace Script

/-- **A run does not go back.** -/
theorem cursor_le_run (u : Script) (s : State) : s.cursor ≤ (u.run s).state.cursor :=
  (u.course_covers s).le

/-- **Every refusal in a run points at the tokens from where the run starts.** -/
theorem refused_pointsFrom (u : Script) {s : State} {e : ParseError}
    (hs : s.cursor ≤ s.tokens.length) (h : .refused e ∈ (u.run s).events) :
    e.PointsFrom s.tokens s.filename s.cursor := by
  induction u generalizing s with
  | done n => cases h
  | fail f => cases h
  | peek next ih =>
    unfold run at h
    split at h
    · exact ih _ hs h
    · rename_i e' hpeek
      rcases List.mem_cons.mp h with heq | h
      · cases heq
        exact State.peek_pointsFrom hs hpeek
      · exact ih _ hs h
  | eat next ih =>
    unfold run at h
    split at h
    · rename_i t s' heat
      obtain ⟨rfl, rest, hrest⟩ := State.eat_eq_ok heat
      have hnext := ih (s := s.advance) _ (State.cursor_lt_of_rest hrest) h
      exact hnext.mono (Nat.le_succ _)
    · rename_i e' heat
      rcases List.mem_cons.mp h with heq | h
      · cases heq
        exact State.eat_pointsFrom hs heat
      · exact ih _ hs h
  | require kinds next ih =>
    unfold run at h
    split at h
    · rename_i t s' hrequire
      obtain ⟨rfl, -, rest, hrest⟩ := State.require_eq_ok hrequire
      have hnext := ih (s := s.advance) _ (State.cursor_lt_of_rest hrest) h
      exact hnext.mono (Nat.le_succ _)
    · rename_i e' hrequire
      rcases List.mem_cons.mp h with heq | h
      · cases heq
        exact State.require_pointsFrom hs hrequire
      · exact ih _ hs h
  | isKind kinds next ih => exact ih _ hs h
  | skipWhile kinds next ih =>
    have hnext := ih (s := s.skipWhile kinds) (State.cursor_skipWhile_le kinds hs) h
    exact hnext.mono (s.leads_skipWhile kinds).1
  | look next ih => exact ih _ _ hs h
  | parse name unit next ihunit ih =>
    have hstart : s.skipTrivia.cursor ≤ s.tokens.length := State.cursor_skipWhile_le s.skipKinds hs
    have htrivia : s.cursor ≤ s.skipTrivia.cursor := (s.leads_skipWhile s.skipKinds).1
    unfold run at h
    dsimp only at h
    split at h
    · -- the refusals of the unit, its commitment, and the refusals after it
      rcases List.mem_append.mp h with h | h
      · rcases List.mem_append.mp h with h | h
        · exact (ihunit (s := s.skipTrivia) hstart h).mono htrivia
        · cases List.mem_singleton.mp h
      · have hstop : (unit.run s.skipTrivia).state.cursor ≤ s.tokens.length :=
          run_cursor_le unit (s := s.skipTrivia) hstart
        have hnext := ih (s := s.skipTrivia.moveTo _) _ hstop h
        exact hnext.mono (htrivia.trans (unit.cursor_le_run s.skipTrivia))
    · rcases List.mem_append.mp h with h | h
      · exact (ihunit (s := s.skipTrivia) hstart h).mono htrivia
      · exact (ih (s := s.skipTrivia) _ hstart h).mono htrivia
  | parseOther shown next ih => exact ih _ hs h

end Script

namespace State

/-- The refusals of a unit that a state lets parse. -/
theorem refused_of_parse {s : State} {name : String} {unit : Script} {e : ParseError}
    (h : .refused e ∈ (s.parse name unit).events) :
    .refused e ∈ (unit.run s.skipTrivia).events := by
  unfold parse Script.parsed Script.run at h
  dsimp only at h
  split at h
  · rcases List.mem_append.mp h with h | h
    · rcases List.mem_append.mp h with h | h
      · exact h
      · cases List.mem_singleton.mp h
    · cases h
  · rcases List.mem_append.mp h with h | h
    · exact h
    · cases h

/-- **An error of a parse points at the tokens that are left.** If a unit fails with an
error that some state has made in refusing a token, the error points at the
tokens from the cursor on at which the failure leaves the state, and has the name
of its source. The cursor of the state is not beyond the tokens, which is so of
every state that some operations have led to from the start of its tokens. -/
theorem parse_error_provenance {s : State} {name : String} {unit : Script} {e : ParseError}
    (hs : s.cursor ≤ s.tokens.length)
    (hresult : (s.parse name unit).result = .error (.error (.parse e)))
    (horigin : .refused e ∈ (s.parse name unit).events) :
    e.PointsFrom s.tokens s.filename (s.parse name unit).state.cursor := by
  rw [state_parse_of_error hresult]
  exact unit.refused_pointsFrom (cursor_skipWhile_le s.skipKinds hs) (refused_of_parse horigin)

end State

/-! ## Errors that are passed on -/

namespace Script

/-- **A script that makes no error of parsing of its own**: it fails where one of its steps
fails, or where it is stuck. -/
inductive PassesOn : Script → Prop where
  /-- It does not fail. -/
  | done (n : Node) : PassesOn (.done n)
  /-- It is stuck. -/
  | stuck : PassesOn (.fail .stuck)
  /-- It takes a token, and goes on if there is one. -/
  | eaten {next : Token → Script} (h : ∀ t, PassesOn (next t)) : PassesOn (.eaten next)
  /-- It takes a token of one of some kinds, and goes on if there is one. -/
  | required {kinds : Kinds} {next : Token → Script} (h : ∀ t, PassesOn (next t)) :
      PassesOn (.required kinds next)
  /-- It asks for the kind of a token. -/
  | isKind {kinds : Kinds} {next : Bool → Script} (h : ∀ b, PassesOn (next b)) :
      PassesOn (.isKind kinds next)
  /-- It skips tokens. -/
  | skipWhile {kinds : Kinds} {next : Script} (h : PassesOn next) :
      PassesOn (.skipWhile kinds next)
  /-- It reads the cursor. -/
  | look {next : Nat → Nat → Script} (h : ∀ cursor size, PassesOn (next cursor size)) :
      PassesOn (.look next)
  /-- It lets a unit parse that passes errors on, and goes on with its node. -/
  | parsed {name : String} {unit : Script} {next : Node → Script} (hunit : PassesOn unit)
      (h : ∀ n, PassesOn (next n)) : PassesOn (.parsed name unit next)

/-- **An error of parsing that is passed on was a refusal.** -/
theorem PassesOn.refused_mem {u : Script} (h : u.PassesOn) {s : State} {e : ParseError}
    (hresult : (u.run s).result = .error (refusal e)) : .refused e ∈ (u.run s).events := by
  induction h generalizing s with
  | done n => cases hresult
  | stuck => cases hresult
  | eaten _ ih =>
    unfold Script.eaten run at hresult ⊢
    split at hresult
    · exact ih _ hresult
    · cases hresult
      exact List.mem_cons_self
  | required _ ih =>
    unfold Script.required run at hresult ⊢
    split at hresult
    · exact ih _ hresult
    · cases hresult
      exact List.mem_cons_self
  | isKind _ ih => exact ih _ hresult
  | skipWhile _ ih => exact ih hresult
  | look _ ih => exact ih _ _ hresult
  | parsed _ _ ihunit ih =>
    unfold Script.parsed run at hresult ⊢
    dsimp only at hresult ⊢
    split at hresult
    · exact List.mem_append_right _ (ih _ hresult)
    · rename_i f hunit
      cases hresult
      exact List.mem_append_left _ (ihunit hunit)

end Script

/-- **A move that passes errors on**, if what follows it does. -/
def Move.PassesOn (move : Move) : Prop :=
  ∀ n next, (∀ m, (next m).PassesOn) → (move n next).PassesOn

namespace Move

theorem passesOn_loop {body : Move} (hbody : body.PassesOn) (kinds : Kinds) (rounds : Nat) :
    (loop kinds body rounds).PassesOn := by
  induction rounds with
  | zero => exact fun _ _ _ => .stuck
  | succ rounds ih =>
    intro n next hnext
    refine .isKind fun more => ?_
    cases more with
    | true => exact hbody n _ fun m => ih m next hnext
    | false => exact hnext n

theorem passesOn_untilEnd {body : Move} (hbody : body.PassesOn) (rounds : Nat) :
    (untilEnd body rounds).PassesOn := by
  induction rounds with
  | zero => exact fun _ _ _ => .stuck
  | succ rounds ih =>
    intro n next hnext
    refine .look fun cursor size => ?_
    split
    · exact hnext n
    · exact hbody n _ fun m => ih m next hnext

theorem passesOn_bounded {move : Nat → Move} (h : ∀ rounds, (move rounds).PassesOn) :
    (bounded move).PassesOn :=
  fun n next hnext => .look fun _ _ => h _ n next hnext

end Move

/-- A pair, or else an item with a token of the second or the third kind after it. -/
def Script.strictUnit : Script :=
  .parse "pair" pairUnit fun
    | .ok n => .done (.mk 12 "list" none [n])
    | .error _ => .parsed "item" itemUnit fun n => .required [3, 2, 3] fun t =>
      .done (.mk 12 "list" none [n, t.asLeaf])

/-- The error at a blank where other kinds would do. -/
def ParseError.atBlank (expected : List Int) : ParseError :=
  ⟨expected, some 0, some (.synthetic " " 0), unnamedSource⟩

/-- The pair fails at the trivia in the middle, and so does the token after the item,
with another error. The state is left at the first item, before both. -/
theorem State.parse_error_provenance_strict :
    (twoItems.parse "list" Script.strictUnit).result
        = .error (.error (.parse (.atBlank [2, 3])))
      ∧ (twoItems.parse "list" Script.strictUnit).events
        = [.refused (.atBlank [3]), .committed "item" 1 3, .refused (.atBlank [2, 3])]
      ∧ (ParseError.atBlank [2, 3]).PointsFrom twoItems.tokens twoItems.filename 1 := by
  have hresult : (twoItems.parse "list" Script.strictUnit).result
      = .error (.error (.parse (.atBlank [2, 3]))) := by
    decide +kernel
  have hevents : (twoItems.parse "list" Script.strictUnit).events
      = [.refused (.atBlank [3]), .committed "item" 1 3, .refused (.atBlank [2, 3])] := by
    decide +kernel
  have hcursor : (twoItems.parse "list" Script.strictUnit).state.cursor = 1 := by decide +kernel
  refine ⟨hresult, hevents, ?_⟩
  rw [← hcursor]
  exact twoItems.parse_error_provenance (by decide) hresult (by simp [hevents])

end ParseKit

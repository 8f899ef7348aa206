import ParseKit.Proofs.Parsing.Agreement
import ParseKit.Proofs.Pasm.Recognition

/-!
# White space and comments mean nothing to the parser

White spaces and comments can be put into a row of tokens and taken out of it
without a change in what the parser makes of it, be it a tree or an error. The
one place where they cannot is right after a percent sign or a number sign,
which must have the name or the number right behind it.

What counts of a row is its `essence`: all tokens but white spaces and comments,
and of these the ones right after a sign. It does not change when a row is
padded (`Pads.essence_eq`). Two rows of one essence are parsed side by side:
each unit starts with both rows at the same token that means something, or at
their ends (`Level`), and leaves rows of one essence. Which tokens are in the
gaps, and how many, is seen by neither side, since whoever looks at a token has
skipped the gap before it. In the loops each round takes a token from both rows,
so that neither side runs out of rounds before the other
(`furtherOperands_along`, `statements_along`).
-/

namespace ParseKit.Pasm

open Script (Along)

/-! ## The essence of a row -/

/-- The signs that must have a word right behind them. -/
def bindingSigns : Kinds := [Lexeme.percent.kind, Lexeme.hash.kind]

/-- **What counts of a row of tokens**: all but the white spaces and comments that
are not right after a sign. Whether the row itself is right after a sign is
`signed`. -/
def essence : (signed : Bool) → List Token → List Token
  | _, [] => []
  | signed, t :: ts =>
    if !signed && trivia.contains t.kind then essence false ts
    else t :: essence (bindingSigns.contains t.kind) ts

/-- **A row is padded**: a white space or comment is put in, not right after a
sign. -/
inductive Pads : List Token → List Token → Prop where
  /-- The token between what is before it and what is after it. -/
  | intro {before after : List Token} {t : Token} (ht : t.kind ∈ trivia)
      (hplace : ∀ s ∈ before.getLast?, s.kind ∉ bindingSigns) :
      Pads (before ++ after) (before ++ t :: after)

variable {ts ts' : List Token} {t : Token}

theorem essence_gap (h : t.kind ∈ trivia) (ts : List Token) :
    essence false (t :: ts) = essence false ts := by
  rw [essence, List.contains_iff_mem.mpr h]
  rfl

theorem essence_signed (t : Token) (ts : List Token) :
    essence true (t :: ts) = t :: essence (bindingSigns.contains t.kind) ts := by
  rw [essence]
  rfl

theorem essence_of_begins (h : trivia.begins (t :: ts) = false) :
    essence false (t :: ts) = t :: essence (bindingSigns.contains t.kind) ts := by
  rw [Kinds.begins_cons] at h
  rw [essence, h]
  rfl

/-- Skipping a gap leaves what counts. -/
theorem essence_skip (ts : List Token) : essence false (trivia.skip ts) = essence false ts := by
  obtain ⟨gap, hgap, hts⟩ := trivia.exists_skipped ts
  rw [hts, Kinds.skip_append hgap, Kinds.skip_of_begins (trivia.begins_skip ts)]
  clear hts
  induction gap with
  | nil => rfl
  | cons t gap ih =>
    obtain ⟨ht, hgap⟩ := List.forall_mem_cons.mp hgap
    rw [List.cons_append, essence_gap ht, ih hgap]

/-- What counts of a row does not change with a white space or comment at a place
that is not right after a sign. The place may be the front of the row, and then
the row itself must not be right after one. -/
theorem essence_insert (ht : t.kind ∈ trivia) (after : List Token) :
    ∀ {before : List Token} {signed : Bool}, (before = [] → signed = false) →
      (∀ s ∈ before.getLast?, s.kind ∉ bindingSigns) →
      essence signed (before ++ t :: after) = essence signed (before ++ after)
  | [], _, hsigned, _ => by rw [hsigned rfl, List.nil_append, List.nil_append, essence_gap ht]
  | b :: before, signed, _, hplace => by
    have hnext : before = [] → bindingSigns.contains b.kind = false := by
      rintro rfl
      exact Bool.eq_false_iff.mpr fun h => hplace b rfl (List.contains_iff_mem.mp h)
    have hlater : ∀ s ∈ before.getLast?, s.kind ∉ bindingSigns := by
      intro s hs
      refine hplace s ?_
      rw [List.getLast?_cons, Option.mem_def.mp hs]
      rfl
    rw [List.cons_append, List.cons_append, essence, essence]
    split
    · rw [essence_insert ht after (fun _ => rfl) hlater]
    · rw [essence_insert ht after hnext hlater]

theorem Pads.essence_eq (h : Pads ts ts') : essence false ts = essence false ts' := by
  obtain ⟨ht, hplace⟩ := h
  exact (essence_insert ht _ (fun _ => rfl) hplace).symm

/-! ## Two rows at the same token -/

/-- **Two rows are abreast**: they begin with the same token, and what counts after
it is the same; or both are at their end. -/
inductive Abreast : List Token → List Token → Prop where
  /-- Both rows are at their end. -/
  | nil : Abreast [] []
  /-- Both rows begin with the same token. -/
  | cons {t : Token} {ts ts' : List Token}
      (h : essence (bindingSigns.contains t.kind) ts = essence (bindingSigns.contains t.kind) ts') :
      Abreast (t :: ts) (t :: ts')

/-- Right after a sign, rows of one essence are abreast. -/
theorem abreast_of_signed (h : essence true ts = essence true ts') : Abreast ts ts' := by
  cases ts with
  | nil =>
    cases ts' with
    | nil => exact .nil
    | cons t' ts' => rw [essence_signed] at h; cases h
  | cons t ts =>
    cases ts' with
    | nil => rw [essence_signed] at h; cases h
    | cons t' ts' =>
      rw [essence_signed, essence_signed] at h
      obtain ⟨rfl, h⟩ := List.cons_eq_cons.mp h
      exact .cons h

/-- **Two rows are level**: they are abreast, and not in a gap. -/
structure Level (ts ts' : List Token) : Prop where
  /-- They are at the same token, or at their ends. -/
  abreast : Abreast ts ts'
  /-- They are not in a gap. -/
  trivia : trivia.begins ts = false

namespace Level

theorem begins (h : Level ts ts') (kinds : Kinds) : kinds.begins ts' = kinds.begins ts := by
  cases h.abreast <;> rfl

theorem skip_left (h : Level ts ts') : Kinds.skip Pasm.trivia ts = ts :=
  Kinds.skip_of_begins h.trivia

theorem skip_right (h : Level ts ts') : Kinds.skip Pasm.trivia ts' = ts' :=
  Kinds.skip_of_begins ((h.begins _).trans h.trivia)

theorem essence_eq (h : Level ts ts') : essence false ts = essence false ts' := by
  have htrivia' := (h.begins _).trans h.trivia
  obtain ⟨habreast, htrivia⟩ := h
  cases habreast with
  | nil => rfl
  | cons hrest => rw [essence_of_begins htrivia, essence_of_begins htrivia', hrest]

end Level

/-- **After their gaps, rows of one essence are level.** -/
theorem level_skip (h : essence false ts = essence false ts') :
    Level (trivia.skip ts) (trivia.skip ts') := by
  have hbegins := trivia.begins_skip ts
  have hbegins' := trivia.begins_skip ts'
  rw [← essence_skip ts, ← essence_skip ts'] at h
  refine ⟨?_, hbegins⟩
  generalize trivia.skip ts = us at h hbegins
  generalize trivia.skip ts' = us' at h hbegins'
  cases us with
  | nil =>
    cases us' with
    | nil => exact .nil
    | cons t' us' => rw [essence_of_begins hbegins'] at h; cases h
  | cons t us =>
    cases us' with
    | nil => rw [essence_of_begins hbegins] at h; cases h
    | cons t' us' =>
      rw [essence_of_begins hbegins, essence_of_begins hbegins'] at h
      obtain ⟨rfl, h⟩ := List.cons_eq_cons.mp h
      exact .cons h

/-- **What two units leave**: rows of one essence, with fewer tokens than there
were. -/
structure Remain (size size' : Nat) (r r' : List Token) : Prop where
  /-- The same counts in both. -/
  essence : essence false r = essence false r'
  /-- The first row is shorter. -/
  left : r.length < size
  /-- The second row is shorter. -/
  right : r'.length < size'

/-! ## Operands -/

variable {l : Lexeme} {size size' : Nat} {R : List Token → List Token → Prop} {n : Node}

/-- What counts after a token that is no sign. -/
theorem essence_after (hkind : t.kind ∈ [l.kind]) (hl : bindingSigns.contains l.kind = false)
    (h : essence (bindingSigns.contains t.kind) ts = essence (bindingSigns.contains t.kind) ts') :
    essence false ts = essence false ts' := by
  rwa [List.mem_singleton.mp hkind, hl] at h

/-- A sign with a word right behind it. -/
theorem signed_along {sign word : Lexeme} {c : Construct}
    (hsign : bindingSigns.contains sign.kind = true)
    (hword : bindingSigns.contains word.kind = false) (h : Abreast ts ts') :
    Along trivia (Remain ts.length ts'.length)
      (requiredLexeme sign fun _ => requiredLexeme word fun t => .done (c.leaf (some t.text))) ts
      (requiredLexeme sign fun _ => requiredLexeme word fun t => .done (c.leaf (some t.text)))
      ts' := by
  cases h with
  | nil => exact .required_nil
  | cons h =>
    refine .required fun hkind => ?_
    rw [List.mem_singleton.mp hkind, hsign] at h
    cases abreast_of_signed h with
    | nil => exact .required_nil
    | cons hrest =>
      refine .required fun hkind => .done ⟨essence_after hkind hword hrest, ?_, ?_⟩
      · exact Nat.lt_add_right 1 (Nat.lt_succ_self _)
      · exact Nat.lt_add_right 1 (Nat.lt_succ_self _)

theorem operand_along (h : Level ts ts') :
    Along trivia (Remain ts.length ts'.length) operandUnit ts operandUnit ts' := by
  refine .isKind (h.begins _) ?_
  cases Kinds.begins [Lexeme.percent.kind] ts with
  | true =>
    refine .parsed_done ?_
    rw [h.skip_left, h.skip_right]
    exact signed_along rfl rfl h.abreast
  | false =>
    refine .isKind (h.begins _) ?_
    cases Kinds.begins [Lexeme.hash.kind] ts with
    | true =>
      refine .parsed_done ?_
      rw [h.skip_left, h.skip_right]
      exact signed_along rfl rfl h.abreast
    | false =>
      cases h.abreast with
      | nil => exact .required_nil
      | cons hrest =>
        exact .required fun hkind =>
          .done ⟨essence_after hkind rfl hrest, Nat.lt_succ_self _, Nat.lt_succ_self _⟩

/-- After an operand and the gap behind it, the rows are level and shorter. -/
theorem addOperand_along {next next' : Node → Script} (h : essence false ts = essence false ts')
    (hnext : ∀ m r r', Level r r' → r.length < ts.length → r'.length < ts'.length →
      Along trivia R (next (n.addChild m)) r (next' (n.addChild m)) r') :
    Along trivia R (addOperand n next) ts (addOperand n next') ts' := by
  refine .parsed (operand_along (level_skip h)) fun m r r' hleft => .skipWhile ?_
  refine hnext m _ _ (level_skip hleft.essence) ?_ ?_
  · calc (trivia.skip r).length ≤ r.length := trivia.length_skip_le r
      _ < (trivia.skip ts).length := hleft.left
      _ ≤ ts.length := trivia.length_skip_le ts
  · calc (trivia.skip r').length ≤ r'.length := trivia.length_skip_le r'
      _ < (trivia.skip ts').length := hleft.right
      _ ≤ ts'.length := trivia.length_skip_le ts'

/-! ## Instructions -/

/-- **The loops of operands go along.** The one may have more rounds than the other;
both have enough. -/
theorem furtherOperands_along (h : Level ts ts') (hsize : ts.length < size)
    (hsize' : ts'.length < size') {rounds rounds' : Nat} (hrounds : ts.length < rounds)
    (hrounds' : ts'.length < rounds') :
    Along trivia (Remain size size')
      (Move.loop [Lexeme.comma.kind] addFurtherOperand rounds n .done) ts
      (Move.loop [Lexeme.comma.kind] addFurtherOperand rounds' n .done) ts' := by
  induction rounds generalizing rounds' n ts ts' with
  | zero => exact absurd hrounds (Nat.not_lt_zero _)
  | succ rounds ih =>
    obtain ⟨rounds', rfl⟩ := Nat.exists_eq_add_one_of_ne_zero (Nat.ne_zero_of_lt hrounds')
    refine .loop (h.begins _) (fun _ => .done ⟨h.essence_eq, hsize, hsize'⟩) fun hcomma => ?_
    obtain ⟨habreast, -⟩ := h
    cases habreast with
    | nil => cases hcomma
    | cons h =>
      rw [Kinds.begins_cons, List.contains_iff_mem] at hcomma
      refine .eaten (addOperand_along (essence_after hcomma rfl h) fun m r r' hlevel hr hr' => ?_)
      rw [List.length_cons] at hsize hsize' hrounds hrounds'
      exact ih hlevel (by omega) (by omega) (by omega) (by omega)

theorem instruction_along (h : Level ts ts') :
    Along trivia (Remain ts.length ts'.length) instructionUnit ts instructionUnit ts' := by
  cases h.abreast with
  | nil => exact .required_nil
  | cons hrest =>
    refine .required fun hkind =>
      addOperand_along (essence_after hkind rfl hrest) fun m r r' hlevel hr hr' => .bounded ?_
    exact furtherOperands_along hlevel (Nat.lt_add_right 1 hr) (Nat.lt_add_right 1 hr')
      (Nat.lt_succ_self _) (Nat.lt_succ_self _)

/-! ## Labels and statements -/

theorem label_along (h : Level ts ts') :
    Along trivia (Remain ts.length ts'.length) labelUnit ts labelUnit ts' := by
  cases h.abreast with
  | nil => exact .required_nil
  | @cons name ts ts' hrest =>
    refine .required fun hkind => .skipWhile ?_
    have hle := trivia.length_skip_le ts
    have hle' := trivia.length_skip_le ts'
    have hlevel := level_skip (essence_after hkind rfl hrest)
    generalize trivia.skip ts = us at hle hlevel
    generalize trivia.skip ts' = us' at hle' hlevel
    cases hlevel.abreast with
    | nil => exact .required_nil
    | cons hrest =>
      rw [List.length_cons] at hle hle'
      refine .required fun hkind => .done ⟨essence_after hkind rfl hrest, ?_, ?_⟩
      · rw [List.length_cons]; omega
      · rw [List.length_cons]; omega

theorem statement_along (h : Level ts ts') :
    Along trivia (Remain ts.length ts'.length) statementUnit ts statementUnit ts' := by
  refine .isKind (h.begins _) ?_
  cases Kinds.begins [Lexeme.instruction.kind] ts with
  | true =>
    refine .parsed_done ?_
    rw [h.skip_left, h.skip_right]
    exact instruction_along h
  | false =>
    refine .parsed_done ?_
    rw [h.skip_left, h.skip_right]
    exact label_along h

/-! ## Programs -/

/-- **The loops of statements go along**, to the ends of both rows. -/
theorem statements_along (h : Level ts ts') {rounds rounds' : Nat} (hrounds : ts.length < rounds)
    (hrounds' : ts'.length < rounds') :
    Along trivia Level (Move.untilEnd addStatement rounds n .done) ts
      (Move.untilEnd addStatement rounds' n .done) ts' := by
  induction rounds generalizing rounds' n ts ts' with
  | zero => exact absurd hrounds (Nat.not_lt_zero _)
  | succ rounds ih =>
    obtain ⟨rounds', rfl⟩ := Nat.exists_eq_add_one_of_ne_zero (Nat.ne_zero_of_lt hrounds')
    have hunit := statement_along h
    rw [← h.skip_left, ← h.skip_right] at hunit
    cases habreast : h.abreast with
    | nil => exact .untilEnd_stop (.done h)
    | cons =>
      refine .untilEnd_round (.parsed hunit fun m r r' hleft => .skipWhile ?_)
      have hle := trivia.length_skip_le r
      have hle' := trivia.length_skip_le r'
      obtain ⟨hessence, hr, hr'⟩ := hleft
      rw [h.skip_left] at hr
      rw [h.skip_right] at hr'
      exact ih (level_skip hessence) (by omega) (by omega)

theorem program_along (h : Level ts ts') :
    Along trivia Level programUnit ts programUnit ts' := by
  refine .skipWhile (.bounded ?_)
  rw [h.skip_left, h.skip_right]
  exact statements_along h (Nat.lt_succ_self _) (Nat.lt_succ_self _)

/-- **Rows of one essence are parsed alike.** -/
theorem parseTokens_agree (h : essence false ts = essence false ts')
    (filename filename' : String) :
    Script.Agree Level (parseTokens ts filename).outcome (parseTokens ts' filename').outcome :=
  Along.parsed_done (program_along (level_skip h))
    { tokens := ts, skipKinds := trivia, filename := filename }
    { tokens := ts', skipKinds := trivia, filename := filename' } rfl rfl rfl rfl

/-- Rows that come from each other by padding have one essence. -/
theorem essence_eq_of_pads (h : Relation.EqvGen Pads ts ts') :
    essence false ts = essence false ts' := by
  induction h with
  | rel _ _ h => exact h.essence_eq
  | refl _ => rfl
  | symm _ _ _ ih => exact ih.symm
  | trans _ _ _ _ _ ih ih' => exact ih.trans ih'

/-- **Gaps mean nothing.** Of two rows that come from each other by putting in and
taking out white spaces and comments, not right after a sign, the parser makes the
same: a tree for both, or an error for both, with the same kinds that would do, the
same kind found and the same token. -/
theorem parseTokens_ignores_gaps (h : Relation.EqvGen Pads ts ts')
    (filename filename' : String) :
    (∃ tree, (parseTokens ts filename).result = .ok tree
        ∧ (parseTokens ts' filename').result = .ok tree)
      ∨ ∃ e e', (parseTokens ts filename).result = .error (.error (.parse e))
        ∧ (parseTokens ts' filename').result = .error (.error (.parse e'))
        ∧ e.expected = e'.expected ∧ e.found = e'.found ∧ e.token = e'.token := by
  have hagree := parseTokens_agree (essence_eq_of_pads h) filename filename'
  unfold Parsed.outcome at hagree
  generalize (parseTokens ts filename).result = r at hagree ⊢
  generalize (parseTokens ts' filename').result = r' at hagree ⊢
  cases hagree with
  | ok left => exact Or.inl ⟨_, rfl, rfl⟩
  | refused alike =>
    exact Or.inr ⟨_, _, rfl, rfl, alike.expected, alike.found, alike.token⟩

/-- A token of a kind with a text. -/
def Lexeme.token (l : Lexeme) (text : String) : Token := .synthetic text l.kind

/-- An instruction with a register, after a gap. -/
def gapInFront : List Token :=
  [Lexeme.whitespace.token " ", Lexeme.instruction.token "imm", Lexeme.percent.token "%",
    Lexeme.ident.token "a"]

/-- The same instruction with gaps within it and behind it. -/
def gapsInside : List Token :=
  [Lexeme.instruction.token "imm", Lexeme.comment.token ";", Lexeme.percent.token "%",
    Lexeme.ident.token "a", Lexeme.whitespace.token "\n"]

/-- One gap is taken out and two are put in, and the tree is the same. -/
theorem parseTokens_ignores_gaps_register : Relation.EqvGen Pads gapInFront gapsInside
    ∧ ∃ tree, (parseTokens gapInFront "a").result = .ok tree
      ∧ (parseTokens gapsInside "b").result = .ok tree := by
  have hfront : Pads [Lexeme.instruction.token "imm", Lexeme.percent.token "%",
      Lexeme.ident.token "a"] gapInFront :=
    @Pads.intro [] _ _ (by decide) (by decide)
  have hwithin : Pads [Lexeme.instruction.token "imm", Lexeme.percent.token "%",
      Lexeme.ident.token "a"] [Lexeme.instruction.token "imm", Lexeme.comment.token ";",
      Lexeme.percent.token "%", Lexeme.ident.token "a"] :=
    @Pads.intro [_] _ _ (by decide) (by decide)
  have hbehind : Pads [Lexeme.instruction.token "imm", Lexeme.comment.token ";",
      Lexeme.percent.token "%", Lexeme.ident.token "a"] gapsInside :=
    @Pads.intro [_, _, _, _] [] _ (by decide) (by decide)
  have hpads : Relation.EqvGen Pads gapInFront gapsInside :=
    .trans _ _ _ (.symm _ _ (.rel _ _ hfront)) (.trans _ _ _ (.rel _ _ hwithin) (.rel _ _ hbehind))
  refine ⟨hpads, ?_⟩
  rcases parseTokens_ignores_gaps hpads "a" "b" with h | ⟨e, e', he, -⟩
  · exact h
  · have htree : (parseTokens gapInFront "a").result = .ok (programNode
        [.mk 2 "Instruction" (some "imm") [Construct.register.leaf (some "a")]]) := by
      decide +kernel
    cases he.symm.trans htree

/-! A gap right after a sign is an error. -/

example : (parseTokens [Lexeme.instruction.token "imm", Lexeme.percent.token "%",
    Lexeme.whitespace.token " ", Lexeme.ident.token "a"] "a").result
      = .error (.error (.parse ⟨[2], some 0, some (Lexeme.whitespace.token " "), "a"⟩)) := by
  decide +kernel

end ParseKit.Pasm

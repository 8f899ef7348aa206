import ParseKit.Proofs.Parsing.Yield
import ParseKit.Proofs.Pasm.Grammar

/-!
# The parser of pseudo-assembly recognises its grammar

For every unit of the parser there are two facts, which together say what it
yields on each row of tokens. The first, named `…_yields`, is completeness:
on a row that begins as the grammar says, the unit makes the tree of the
grammar and leaves the tokens after it. The second, named `…_cases`, is
soundness: a row on which the unit does not refuse begins as the grammar
says. The units of instructions and of labels differ in what they leave: an
instruction takes the gap after it, where a comma could have stood, and a
label does not.

The loops are where greed could go wrong. An instruction goes on as long as
there is a comma, and a program as long as there are tokens, so the tokens
after an instruction must be none that could belong to it; that is
`Closes`, and it holds of what is after a statement in every derivation,
since statements begin with a mnemonic or a name. Each round takes a token,
so the number of rounds that a loop has is always enough.

`parseTokens_recognises` puts the parts together: the rows that are accepted
are those of the grammar, with all their tokens and with the tree of the
derivation, and every other row is refused with an error of parsing.
-/

namespace ParseKit.Pasm

open Script (Yields)

variable {ts gap r : List Token} {t : Token} {l : Lexeme} {o : Option (Node × List Token)}

/-! ## Tokens -/

/-- A row begins with a token of a kind, or it does not. -/
theorem lexeme_cases (l : Lexeme) (ts : List Token) :
    Kinds.begins [l.kind] ts = false ∨ ∃ t r, ts = t :: r ∧ t.kind = l.kind := by
  rcases Kinds.begins_cases [l.kind] ts with h | ⟨t, r, hts, hkind⟩
  · exact Or.inl h
  · exact Or.inr ⟨t, r, hts, List.mem_singleton.mp hkind⟩

theorem begins_lexeme (h : t.kind = l.kind) (kinds : Kinds) (ts : List Token) :
    kinds.begins (t :: ts) = kinds.contains l.kind := by
  rw [Kinds.begins_cons, h]

/-- What begins with a token that means something has nothing to be skipped. -/
theorem skip_lexeme (h : t.kind = l.kind) (hl : trivia.contains l.kind = false)
    (ts : List Token) : trivia.skip (t :: ts) = t :: ts :=
  Kinds.skip_of_begins ((begins_lexeme h trivia ts).trans hl)

theorem requiredLexeme_yields {next : Token → Script} (h : t.kind = l.kind)
    (hnext : Yields trivia (next t) ts o) : Yields trivia (requiredLexeme l next) (t :: ts) o :=
  .required (List.mem_singleton.mpr h) hnext

/-- Two tokens one right after the other, or a refusal. -/
theorem signed_cases (sign word : Lexeme) (c : Construct) (ts : List Token) :
    Yields trivia (requiredLexeme sign fun _ => requiredLexeme word fun t =>
        .done (c.leaf (some t.text))) ts none
      ∨ ∃ t t' r, ts = [t, t'] ++ r ∧ t.kind = sign.kind ∧ t'.kind = word.kind := by
  rcases lexeme_cases sign ts with h | ⟨t, us, rfl, ht⟩
  · exact Or.inl (.required_none h)
  · rcases lexeme_cases word us with h | ⟨t', r, rfl, ht'⟩
    · exact Or.inl (requiredLexeme_yields ht (.required_none h))
    · exact Or.inr ⟨t, t', r, rfl, ht, ht'⟩

/-! ## Operands -/

theorem operand_register (h : t.kind = Lexeme.percent.kind)
    (hunit : Yields trivia registerUnit (t :: ts) o) : Yields trivia operandUnit (t :: ts) o := by
  refine .isKind ?_
  rw [begins_lexeme h]
  refine .parsed_done ?_
  rwa [skip_lexeme h rfl]

theorem operand_constant (h : t.kind = Lexeme.hash.kind)
    (hunit : Yields trivia constantUnit (t :: ts) o) : Yields trivia operandUnit (t :: ts) o := by
  refine .isKind ?_
  rw [begins_lexeme h]
  refine .isKind ?_
  rw [begins_lexeme h]
  refine .parsed_done ?_
  rwa [skip_lexeme h rfl]

theorem operand_yields {first : List Token} {n : Node} (h : IsOperand first n) (r : List Token) :
    Yields trivia operandUnit (first ++ r) (some (n, r)) := by
  cases h with
  | register hsign hname =>
    exact operand_register hsign (requiredLexeme_yields hsign (requiredLexeme_yields hname .done))
  | constant hsign hnumber =>
    exact operand_constant hsign
      (requiredLexeme_yields hsign (requiredLexeme_yields hnumber .done))
  | ident hname =>
    refine .isKind ?_
    rw [List.singleton_append, begins_lexeme hname]
    refine .isKind ?_
    rw [begins_lexeme hname]
    exact requiredLexeme_yields hname .done

theorem operand_cases (ts : List Token) :
    Yields trivia operandUnit ts none ∨ ∃ first n r, ts = first ++ r ∧ IsOperand first n := by
  rcases lexeme_cases .percent ts with hpercent | ⟨sign, us, rfl, hsign⟩
  · rcases lexeme_cases .hash ts with hhash | ⟨sign, us, rfl, hsign⟩
    · rcases lexeme_cases .ident ts with hident | ⟨name, r, rfl, hname⟩
      · refine Or.inl (.isKind ?_)
        rw [hpercent]
        refine .isKind ?_
        rw [hhash]
        exact .required_none hident
      · exact Or.inr ⟨[name], _, r, rfl, .ident hname⟩
    · rcases signed_cases .hash .number .constant (sign :: us) with h | ⟨_, _, r, hts, ht, ht'⟩
      · exact Or.inl (operand_constant hsign h)
      · exact Or.inr ⟨_, _, r, hts, .constant ht ht'⟩
  · rcases signed_cases .percent .ident .register (sign :: us) with h | ⟨_, _, r, hts, ht, ht'⟩
    · exact Or.inl (operand_register hsign h)
    · exact Or.inr ⟨_, _, r, hts, .register ht ht'⟩

/-- No operand begins with a gap. -/
theorem IsOperand.skip_append {first : List Token} {n : Node} (h : IsOperand first n)
    (r : List Token) : trivia.skip (first ++ r) = first ++ r := by
  cases h with
  | register hsign hname => exact skip_lexeme hsign rfl _
  | constant hsign hnumber => exact skip_lexeme hsign rfl _
  | ident hname => exact skip_lexeme hname rfl _

theorem addOperand_yields {first : List Token} {n m : Node} {next : Node → Script}
    (hgap : IsGap gap) (hfirst : IsOperand first m)
    (h : Yields trivia (next (n.addChild m)) (trivia.skip r) o) :
    Yields trivia (addOperand n next) (gap ++ first ++ r) o := by
  refine .parsed ?_ (.skipWhile h)
  rw [List.append_assoc, Kinds.skip_append hgap, hfirst.skip_append]
  exact operand_yields hfirst r

theorem addOperand_cases (n : Node) (next : Node → Script) (ts : List Token) :
    Yields trivia (addOperand n next) ts none
      ∨ ∃ gap first m r, ts = gap ++ first ++ r ∧ IsGap gap ∧ IsOperand first m := by
  obtain ⟨gap, hgap, hts⟩ := trivia.exists_skipped ts
  rcases operand_cases (trivia.skip ts) with h | ⟨first, m, r, hskip, hfirst⟩
  · exact Or.inl (.parsed_none h)
  · refine Or.inr ⟨gap, first, m, r, ?_, hgap, hfirst⟩
    rw [List.append_assoc, ← hskip]
    exact hts

/-! ## Instructions -/

/-- **The tokens cannot belong to an instruction before them.** -/
structure Closes (r : List Token) : Prop where
  /-- They do not begin with a gap. -/
  trivia : trivia.begins r = false
  /-- They do not begin with a comma. -/
  comma : Kinds.begins [Lexeme.comma.kind] r = false

/-- **The loop of operands takes all of them.** -/
theorem furtherOperands_yields {ns : List Node} (h : AreOperands ts ns) (hgap : IsGap gap)
    (hr : Closes r) (n : Node) {rounds : Nat}
    (hrounds : (trivia.skip (ts ++ (gap ++ r))).length < rounds) :
    Yields trivia (Move.loop [Lexeme.comma.kind] addFurtherOperand rounds n .done)
      (trivia.skip (ts ++ (gap ++ r))) (some (ns.foldl Node.addChild n, r)) := by
  induction h generalizing n rounds with
  | nil =>
    obtain ⟨rounds, rfl⟩ := Nat.exists_eq_add_one_of_ne_zero (Nat.ne_zero_of_lt hrounds)
    rw [List.nil_append, Kinds.skip_append hgap, Kinds.skip_of_begins hr.trivia]
    exact .loop_stop hr.comma .done
  | @cons before gap' first rest comma m ns hbefore hcomma hgap' hfirst _ ih =>
    obtain ⟨rounds, rfl⟩ := Nat.exists_eq_add_one_of_ne_zero (Nat.ne_zero_of_lt hrounds)
    have hskip : trivia.skip (before ++ comma :: (gap' ++ first ++ rest) ++ (gap ++ r))
        = comma :: (gap' ++ first ++ (rest ++ (gap ++ r))) := by
      rw [List.append_assoc, Kinds.skip_append hbefore, List.cons_append, skip_lexeme hcomma rfl,
        List.append_assoc (gap' ++ first)]
    rw [hskip] at hrounds ⊢
    refine .loop_round (begins_lexeme hcomma _ _) (.eaten (addOperand_yields hgap' hfirst ?_))
    refine ih _ ?_
    -- the round has taken the comma at least
    have hle := trivia.length_skip_le (rest ++ (gap ++ r))
    simp only [List.length_cons, List.length_append] at hrounds hle ⊢
    omega

theorem furtherOperands_cases (n : Node) {rounds : Nat}
    (hrounds : (trivia.skip ts).length < rounds) :
    Yields trivia (Move.loop [Lexeme.comma.kind] addFurtherOperand rounds n .done)
        (trivia.skip ts) none
      ∨ ∃ tail gap r ns, ts = tail ++ (gap ++ r) ∧ AreOperands tail ns ∧ IsGap gap ∧ Closes r := by
  induction rounds generalizing n ts with
  | zero => exact absurd hrounds (Nat.not_lt_zero _)
  | succ rounds ih =>
    obtain ⟨gap, hgap, hts⟩ := trivia.exists_skipped ts
    rcases lexeme_cases .comma (trivia.skip ts) with hstop | ⟨comma, us, hskip, hcomma⟩
    · -- the loop stops here, and what it stops at is nothing that it could go on with
      exact Or.inr ⟨[], gap, trivia.skip ts, [], hts, .nil, hgap, trivia.begins_skip ts, hstop⟩
    · rw [hskip] at hts hrounds ⊢
      have hround := begins_lexeme hcomma [Lexeme.comma.kind] us
      rcases addOperand_cases n (fun n => Move.loop [Lexeme.comma.kind] addFurtherOperand rounds n
        .done) us with h | ⟨gap', first, m, r, rfl, hgap', hfirst⟩
      · exact Or.inl (.loop_round hround (.eaten h))
      · have hle := trivia.length_skip_le r
        have hleft : (trivia.skip r).length < rounds := by
          simp only [List.length_cons, List.length_append] at hrounds
          omega
        rcases ih (n.addChild m) hleft with h | ⟨tail, gap'', r', ns, rfl, htail, hgap'', hr'⟩
        · exact Or.inl (.loop_round hround (.eaten (addOperand_yields hgap' hfirst h)))
        · refine Or.inr ⟨_, gap'', r', m :: ns, ?_, .cons hgap hcomma hgap' hfirst htail, hgap'',
            hr'⟩
          rw [hts]
          simp only [List.append_assoc, List.cons_append]

/-- Children are added in order. -/
theorem foldl_addChild (kind : Int) (label : String) (value : Option String) (ns ms : List Node) :
    ms.foldl Node.addChild (.mk kind label value ns) = .mk kind label value (ns ++ ms) := by
  induction ms generalizing ns with
  | nil => rw [List.foldl_nil, List.append_nil]
  | cons m ms ih =>
    rw [List.foldl_cons, Node.addChild, ih, List.append_assoc, List.singleton_append]

theorem instruction_yields {mnemonic : Token} {before first rest : List Token} {n : Node}
    {ns : List Node} (hmnemonic : mnemonic.kind = Lexeme.instruction.kind) (hbefore : IsGap before)
    (hfirst : IsOperand first n) (hrest : AreOperands rest ns) (hgap : IsGap gap) (hr : Closes r) :
    Yields trivia instructionUnit (mnemonic :: (before ++ first ++ (rest ++ (gap ++ r))))
      (some (instructionNode mnemonic (n :: ns), r)) := by
  refine requiredLexeme_yields hmnemonic (addOperand_yields hbefore hfirst (.bounded ?_))
  have h := furtherOperands_yields hrest hgap hr
    ((Construct.instruction.leaf (some mnemonic.text)).addChild n) (Nat.lt_succ_self _)
  rwa [Construct.leaf, Node.leaf, Node.addChild, foldl_addChild] at h

/-- An instruction takes the gap after it too. -/
theorem instruction_cases (ts : List Token) :
    Yields trivia instructionUnit ts none
      ∨ ∃ first gap r n, ts = first ++ gap ++ r ∧ IsStatement first n ∧ IsGap gap
        ∧ Yields trivia instructionUnit ts (some (n, r)) := by
  rcases lexeme_cases .instruction ts with h | ⟨mnemonic, us, rfl, hmnemonic⟩
  · exact Or.inl (.required_none h)
  · rcases addOperand_cases (Construct.instruction.leaf (some mnemonic.text)) (fun n =>
      Move.bounded (Move.loop [Lexeme.comma.kind] addFurtherOperand) n .done) us with
      h | ⟨before, first, n, r, rfl, hbefore, hfirst⟩
    · exact Or.inl (requiredLexeme_yields hmnemonic h)
    · rcases furtherOperands_cases ((Construct.instruction.leaf (some mnemonic.text)).addChild n)
        (Nat.lt_succ_self (trivia.skip r).length) with
        h | ⟨rest, gap, r, ns, rfl, hrest, hgap, hr⟩
      · exact Or.inl
          (requiredLexeme_yields hmnemonic (addOperand_yields hbefore hfirst (.bounded h)))
      · refine Or.inr ⟨mnemonic :: (before ++ first ++ rest), gap, r, _, ?_,
          .instruction hmnemonic hbefore hfirst hrest, hgap,
          instruction_yields hmnemonic hbefore hfirst hrest hgap hr⟩
        simp only [List.append_assoc, List.cons_append]

/-! ## Labels -/

theorem label_yields {name colon : Token} (hname : name.kind = Lexeme.ident.kind)
    (hgap : IsGap gap) (hcolon : colon.kind = Lexeme.colon.kind) (r : List Token) :
    Yields trivia labelUnit (name :: (gap ++ colon :: r))
      (some (Construct.label.leaf (some name.text), r)) := by
  refine requiredLexeme_yields hname (.skipWhile ?_)
  rw [Kinds.skip_append hgap, skip_lexeme hcolon rfl]
  exact requiredLexeme_yields hcolon .done

theorem label_cases (ts : List Token) :
    Yields trivia labelUnit ts none
      ∨ ∃ first n r, ts = first ++ r ∧ IsStatement first n
        ∧ Yields trivia labelUnit ts (some (n, r)) := by
  rcases lexeme_cases .ident ts with h | ⟨name, us, rfl, hname⟩
  · exact Or.inl (.required_none h)
  · obtain ⟨gap, hgap, hus⟩ := trivia.exists_skipped us
    rcases lexeme_cases .colon (trivia.skip us) with h | ⟨colon, r, hskip, hcolon⟩
    · exact Or.inl (requiredLexeme_yields hname (.skipWhile (.required_none h)))
    · rw [hskip] at hus
      subst hus
      refine Or.inr ⟨name :: (gap ++ [colon]), _, r, ?_, .label hname hgap hcolon,
        label_yields hname hgap hcolon r⟩
      rw [List.cons_append, List.append_assoc, List.singleton_append]

/-! ## Statements -/

theorem statement_instruction (h : t.kind = Lexeme.instruction.kind)
    (hunit : Yields trivia instructionUnit (t :: ts) o) :
    Yields trivia statementUnit (t :: ts) o := by
  refine .isKind ?_
  rw [begins_lexeme h]
  refine .parsed_done ?_
  rwa [skip_lexeme h rfl]

theorem statement_label (h : Kinds.begins [Lexeme.instruction.kind] ts = false)
    (hts : trivia.begins ts = false) (hunit : Yields trivia labelUnit ts o) :
    Yields trivia statementUnit ts o := by
  refine .isKind ?_
  rw [h]
  refine .parsed_done ?_
  rwa [Kinds.skip_of_begins hts]

/-- On a statement, the unit of statements leaves what is after the statement,
with or without the gap. -/
theorem statement_yields {first : List Token} {n : Node} (h : IsStatement first n)
    (hgap : IsGap gap) (hr : Closes r) :
    ∃ us, Yields trivia statementUnit (first ++ gap ++ r) (some (n, us)) ∧ trivia.skip us = r := by
  cases h with
  | @instruction mnemonic before first rest n ns hmnemonic hbefore hfirst hrest =>
    have hunit := statement_instruction hmnemonic
      (instruction_yields hmnemonic hbefore hfirst hrest hgap hr)
    refine ⟨r, ?_, Kinds.skip_of_begins hr.trivia⟩
    simpa only [List.append_assoc, List.cons_append] using hunit
  | @label name colon inner hname hinner hcolon =>
    have hunit := statement_label (begins_lexeme hname _ _) (begins_lexeme hname _ _)
      (label_yields hname hinner hcolon (gap ++ r))
    refine ⟨gap ++ r, ?_, ?_⟩
    · simpa only [List.append_assoc, List.cons_append, List.nil_append] using hunit
    · rw [Kinds.skip_append hgap, Kinds.skip_of_begins hr.trivia]

theorem statement_cases (hts : trivia.begins ts = false) :
    Yields trivia statementUnit ts none
      ∨ ∃ first gap r n, ts = first ++ gap ++ r ∧ IsStatement first n ∧ IsGap gap
        ∧ Yields trivia statementUnit ts (some (n, r)) := by
  rcases lexeme_cases .instruction ts with hno | ⟨mnemonic, us, rfl, hmnemonic⟩
  · rcases label_cases ts with h | ⟨first, n, r, hfirst, hn, h⟩
    · exact Or.inl (statement_label hno hts h)
    · -- a label leaves the gap after it
      refine Or.inr ⟨first, [], r, n, ?_, hn, isGap_nil, statement_label hno hts h⟩
      rwa [List.append_nil]
  · rcases instruction_cases (mnemonic :: us) with h | ⟨first, gap, r, n, hfirst, hn, hgap, h⟩
    · exact Or.inl (statement_instruction hmnemonic h)
    · exact Or.inr ⟨first, gap, r, n, hfirst, hn, hgap, statement_instruction hmnemonic h⟩

/-- A statement has a first token, and no instruction goes on with it. -/
theorem IsStatement.closes {first : List Token} {n : Node} (h : IsStatement first n)
    (r : List Token) : Closes (first ++ r) := by
  cases h with
  | instruction hmnemonic => exact ⟨begins_lexeme hmnemonic _ _, begins_lexeme hmnemonic _ _⟩
  | label hname => exact ⟨begins_lexeme hname _ _, begins_lexeme hname _ _⟩

theorem IsStatement.length_pos {first : List Token} {n : Node} (h : IsStatement first n) :
    0 < first.length := by
  cases h with
  | instruction => exact Nat.succ_pos _
  | label => exact Nat.succ_pos _

/-! ## Programs -/

/-- Statements, or nothing, cannot belong to an instruction before them. -/
theorem AreStatements.closes {ns : List Node} (h : AreStatements ts ns) : Closes ts := by
  cases h with
  | nil => exact ⟨rfl, rfl⟩
  | @cons first gap rest n ns hfirst hgap hrest =>
    rw [List.append_assoc]
    exact hfirst.closes (gap ++ rest)

theorem addStatement_yields {us : List Token} {n m : Node} {next : Node → Script}
    (hts : trivia.begins ts = false) (hunit : Yields trivia statementUnit ts (some (m, us)))
    (h : Yields trivia (next (n.addChild m)) (trivia.skip us) o) :
    Yields trivia (addStatement n next) ts o := by
  refine .parsed ?_ (.skipWhile h)
  rwa [Kinds.skip_of_begins hts]

/-- **The loop of statements takes all of them.** -/
theorem statements_yields {ns : List Node} (h : AreStatements ts ns) (n : Node) {rounds : Nat}
    (hrounds : ts.length < rounds) :
    Yields trivia (Move.untilEnd addStatement rounds n .done) ts
      (some (ns.foldl Node.addChild n, [])) := by
  induction h generalizing n rounds with
  | nil =>
    obtain ⟨rounds, rfl⟩ := Nat.exists_eq_add_one_of_ne_zero (Nat.ne_zero_of_lt hrounds)
    exact .untilEnd_stop .done
  | @cons first gap rest m ns hfirst hgap hrest ih =>
    obtain ⟨rounds, rfl⟩ := Nat.exists_eq_add_one_of_ne_zero (Nat.ne_zero_of_lt hrounds)
    obtain ⟨us, hunit, hus⟩ := statement_yields hfirst hgap hrest.closes
    have hlength : rest.length < (first ++ gap ++ rest).length := by
      have hpos := hfirst.length_pos
      simp only [List.length_append]
      omega
    -- the unit is asked at the statement itself, without a gap before it
    have hcloses : Closes (first ++ gap ++ rest) := (AreStatements.cons hfirst hgap hrest).closes
    refine .untilEnd_round (List.ne_nil_of_length_pos (Nat.zero_lt_of_lt hlength))
      (addStatement_yields hcloses.trivia hunit ?_)
    rw [hus]
    exact ih _ (by omega)

theorem statements_cases (n : Node) {rounds : Nat} (hts : trivia.begins ts = false)
    (hrounds : ts.length < rounds) :
    Yields trivia (Move.untilEnd addStatement rounds n .done) ts none
      ∨ ∃ ns, AreStatements ts ns := by
  induction rounds generalizing n ts with
  | zero => exact absurd hrounds (Nat.not_lt_zero _)
  | succ rounds ih =>
    by_cases hnil : ts = []
    · exact Or.inr ⟨[], hnil ▸ .nil⟩
    · rcases statement_cases hts with h | ⟨first, gap, us, m, hfirst, hm, hgap, h⟩
      · refine Or.inl (.untilEnd_round hnil (.parsed_none ?_))
        rwa [Kinds.skip_of_begins hts]
      · have hleft : (trivia.skip us).length < rounds := by
          have hpos := hm.length_pos
          have hle := trivia.length_skip_le us
          have hlength := congrArg List.length hfirst
          simp only [List.length_append] at hlength
          omega
        rcases ih (n.addChild m) (trivia.begins_skip us) hleft with hrest | ⟨ns, hns⟩
        · exact Or.inl (.untilEnd_round hnil (addStatement_yields hts h hrest))
        · -- what the unit left of the gap and what is skipped after it are one gap
          obtain ⟨gap', hgap', hus⟩ := trivia.exists_skipped us
          have hgaps : IsGap (gap ++ gap') := List.forall_mem_append.mpr ⟨hgap, hgap'⟩
          refine Or.inr ⟨m :: ns, ?_⟩
          rw [hfirst, hus, List.append_assoc, ← List.append_assoc gap, ← List.append_assoc]
          exact .cons hm hgaps hns

theorem program_yields {tree : Node} (h : IsProgram ts tree) :
    Yields trivia programUnit (trivia.skip ts) (some (tree, [])) := by
  obtain ⟨hgap, hrest⟩ := h
  have hskip := Kinds.skip_of_begins hrest.closes.trivia
  rw [Kinds.skip_append hgap, hskip]
  refine .skipWhile (.bounded ?_)
  rw [hskip]
  have h := statements_yields hrest (Construct.program.leaf none) (Nat.lt_succ_self _)
  rwa [Construct.leaf, Node.leaf, foldl_addChild] at h

theorem program_cases (ts : List Token) :
    Yields trivia programUnit (trivia.skip ts) none ∨ ∃ tree, IsProgram ts tree := by
  obtain ⟨gap, hgap, hts⟩ := trivia.exists_skipped ts
  have hskip := Kinds.skip_of_begins (trivia.begins_skip ts)
  rcases statements_cases (Construct.program.leaf none) (trivia.begins_skip ts)
    (Nat.lt_succ_self _) with h | ⟨ns, hns⟩
  · refine Or.inl (.skipWhile (.bounded ?_))
    rwa [hskip]
  · exact Or.inr ⟨programNode ns, hts ▸ .intro hgap hns⟩

/-! ## Parsing -/

/-- **A parse recognises programs** in a row of tokens. -/
structure Recognises (tokens : List Token) (p : Parsed) : Prop where
  /-- There is a tree just when the kinds of the tokens are those of a program. -/
  accepts : (∃ tree, p.result = .ok tree) ↔ kindsOf tokens ∈ programs
  /-- The tree is that of a derivation of the tokens, and there is no other. -/
  tree : ∀ tree, p.result = .ok tree ↔ IsProgram tokens tree
  /-- With a tree, all tokens are taken. -/
  consumes : ∀ tree, p.result = .ok tree → p.state.cursor = tokens.length
  /-- Without one, there is an error of parsing. -/
  refuses : kindsOf tokens ∉ programs → ∃ e, p.result = .error (.error (.parse e))

theorem parseTokens_meets {tokens : List Token} (filename : String)
    (h : Yields trivia programUnit (trivia.skip tokens) o) :
    Script.Meets (parseTokens tokens filename).outcome o :=
  Script.Yields.parsed_done h { tokens := tokens, skipKinds := trivia, filename := filename }
    rfl rfl

/-- **The parser recognises the grammar.** Every parse ends, with a tree or with
an error of parsing: no loop runs out of rounds. -/
theorem parseTokens_recognises (tokens : List Token) (filename : String) :
    Recognises tokens (parseTokens tokens filename) := by
  have hcomplete : ∀ tree, IsProgram tokens tree →
      Script.Meets (parseTokens tokens filename).outcome (some (tree, [])) :=
    fun tree h => parseTokens_meets filename (program_yields h)
  -- a row that is no program is refused, so a tree comes from a program, and from its tree
  have hsound : ∀ tree, (parseTokens tokens filename).result = .ok tree →
      IsProgram tokens tree := by
    intro tree hresult
    rcases program_cases tokens with h | ⟨tree', h⟩
    · obtain ⟨e, he⟩ := parseTokens_meets filename h
      cases hresult.symm.trans he
    · cases hresult.symm.trans (hcomplete tree' h).1
      exact h
  refine ⟨?_, fun tree => ⟨hsound tree, fun h => (hcomplete tree h).1⟩, ?_, ?_⟩
  · rw [kindsOf_mem_programs]
    exact ⟨fun ⟨tree, h⟩ => ⟨tree, hsound tree h⟩, fun ⟨tree, h⟩ => ⟨tree, (hcomplete tree h).1⟩⟩
  · intro tree hresult
    have hrest : (parseTokens tokens filename).state.rest = [] :=
      (hcomplete tree (hsound tree hresult)).2
    have hframe : (parseTokens tokens filename).state.tokens = tokens :=
      congrArg State.tokens (Script.run_state _ _)
    have hle : (parseTokens tokens filename).state.cursor ≤ tokens.length :=
      Script.run_cursor_le _ (Nat.zero_le _)
    rw [State.rest, hframe, List.drop_eq_nil_iff] at hrest
    omega
  · intro hno
    rcases program_cases tokens with h | h
    · exact parseTokens_meets filename h
    · exact absurd (kindsOf_mem_programs.mpr h) hno

end ParseKit.Pasm

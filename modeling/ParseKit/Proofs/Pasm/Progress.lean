import ParseKit.Proofs.Parsing.Looping
import ParseKit.Proofs.Pasm.Recognition

/-!
# Every part of a program makes progress

The parser of pseudo-assembly has two loops, one over the statements of a program and one over the
operands of an instruction. Neither counts anything. They end because each of their rounds takes a
token that is no trivia, and it does so because the unit that it asks does: a statement begins with
a mnemonic or a name, and an operand with a sign or a name.

What a unit takes is known from the grammar, by the lemmas that find the beginning of a row that is
not refused. So a part of a program advances on every row of tokens (`part_advances`), and the
rounds of the loops do (`round_advances`). `parts_progress` is what this comes to on
a state with any tokens and at any cursor, where the loops are those without a number of rounds.
-/

namespace ParseKit.Pasm

open Script (Advances Yields)

variable {ts : List Token}

/-! ## Rows -/

theorem IsOperand.exists_word {first : List Token} {n : Node} (h : IsOperand first n) :
    ∃ t ∈ first, t.kind ∉ trivia := by
  cases h with
  | register hsign | constant hsign | ident hsign =>
    exact ⟨_, List.mem_cons_self, by rw [hsign]; decide⟩

theorem IsStatement.exists_word {first : List Token} {n : Node} (h : IsStatement first n) :
    ∃ t ∈ first, t.kind ∉ trivia := by
  cases h with
  | instruction hword | label hword => exact ⟨_, List.mem_cons_self, by rw [hword]; decide⟩

/-- A sign and a word are taken together. -/
theorem signed_advances (sign word : Lexeme) (hsign : sign.kind ∉ trivia) (c : Construct)
    (ts : List Token) :
    Advances trivia (requiredLexeme sign fun _ => requiredLexeme word fun t =>
      .done (c.leaf (some t.text))) ts := by
  rcases signed_cases sign word c ts with h | ⟨t, t', r, rfl, ht, ht'⟩
  · exact .inl h
  · exact .inr ⟨_, [t, t'], r, rfl, ⟨t, List.mem_cons_self, ht ▸ hsign⟩,
      requiredLexeme_yields ht (requiredLexeme_yields ht' .done)⟩

theorem operand_advances (ts : List Token) : Advances trivia operandUnit ts := by
  rcases operand_cases ts with h | ⟨first, n, r, rfl, hfirst⟩
  · exact .inl h
  · exact .inr ⟨n, first, r, rfl, hfirst.exists_word, operand_yields hfirst r⟩

theorem instruction_advances (ts : List Token) : Advances trivia instructionUnit ts := by
  rcases instruction_cases ts with h | ⟨first, gap, r, n, hts, hfirst, -, h⟩
  · exact .inl h
  · obtain ⟨t, ht, hkind⟩ := hfirst.exists_word
    exact .inr ⟨n, first ++ gap, r, hts, ⟨t, List.mem_append_left gap ht, hkind⟩, h⟩

theorem label_advances (ts : List Token) : Advances trivia labelUnit ts := by
  rcases label_cases ts with h | ⟨first, n, r, hts, hfirst, h⟩
  · exact .inl h
  · exact .inr ⟨n, first, r, hts, hfirst.exists_word, h⟩

theorem statement_advances (hts : trivia.begins ts = false) :
    Advances trivia statementUnit ts := by
  rcases statement_cases hts with h | ⟨first, gap, r, n, hfirst, hn, -, h⟩
  · exact .inl h
  · obtain ⟨t, ht, hkind⟩ := hn.exists_word
    exact .inr ⟨n, first ++ gap, r, hfirst, ⟨t, List.mem_append_left gap ht, hkind⟩, h⟩

/-! ## Parts of a program -/

/-- **The units below a program**, with their names. -/
def parts : List (String × Script) :=
  [("Statement", statementUnit), ("Instruction", instructionUnit), ("LabelDecl", labelUnit),
    ("Operand", operandUnit), ("Register", registerUnit), ("Constant", constantUnit)]

/-- **A part of a program takes a token that is no trivia**, where there is no trivia before it. -/
theorem part_advances {part : String × Script} (h : part ∈ parts)
    (hts : trivia.begins ts = false) : Advances trivia part.2 ts := by
  simp only [parts, List.mem_cons, List.not_mem_nil, or_false] at h
  rcases h with rfl | rfl | rfl | rfl | rfl | rfl
  · exact statement_advances hts
  · exact instruction_advances ts
  · exact label_advances ts
  · exact operand_advances ts
  · exact signed_advances .percent .ident (by decide) .register ts
  · exact signed_advances .hash .number (by decide) .constant ts

/-! ## Loops -/

/-- **A loop of the parser**: the test, a round, and the move that it is. -/
structure Loop where
  /-- Whether there is another round. -/
  goesOn : State → Bool
  /-- A round. -/
  body : Move
  /-- The loop, with a number of rounds. -/
  rounds : Nat → Move

/-- The loop over the statements of a program. -/
def statementLoop : Loop := ⟨fun s => !s.isAtEnd, addStatement, Move.untilEnd addStatement⟩

/-- The loop over the operands of an instruction after the first. -/
def operandLoop : Loop :=
  ⟨fun s => s.isKind [Lexeme.comma.kind], addFurtherOperand,
    Move.loop [Lexeme.comma.kind] addFurtherOperand⟩

/-- **The loops are these two.** -/
def loops : List Loop := [statementLoop, operandLoop]

/-- A unit whose node becomes a child, with what means nothing after it. -/
theorem addChild_advances {name : String} {unit : Script}
    (h : Advances trivia unit (trivia.skip ts)) (n : Node) :
    Advances trivia (.parsed name unit fun child => .skipWhile trivia (.done (n.addChild child)))
      ts :=
  h.parsed fun _ us =>
    let ⟨gap, _, hus⟩ := trivia.exists_skipped us
    ⟨_, gap, trivia.skip us, hus, .skipWhile .done⟩

variable {l : Loop}

/-- **A round takes a token that is no trivia.** -/
theorem round_advances (h : l ∈ loops) (n : Node) (ts : List Token) :
    Advances trivia (l.body n .done) ts := by
  simp only [loops, List.mem_cons, List.not_mem_nil, or_false] at h
  rcases h with rfl | rfl
  · exact addChild_advances (statement_advances (trivia.begins_skip ts)) n
  · exact Advances.eaten (fun _ r => addChild_advances (operand_advances _) n) ts

theorem addOperand_sequential : Move.Sequential addOperand := Move.sequential_parsed _ _ _

theorem body_sequential (h : l ∈ loops) : l.body.Sequential := by
  simp only [loops, List.mem_cons, List.not_mem_nil, or_false] at h
  rcases h with rfl | rfl
  · exact Move.sequential_parsed _ _ _
  · exact addOperand_sequential.eaten

theorem isLoop_rounds (h : l ∈ loops) : Move.IsLoop l.goesOn l.body l.rounds := by
  simp only [loops, List.mem_cons, List.not_mem_nil, or_false] at h
  rcases h with rfl | rfl
  · exact Move.isLoop_untilEnd _
  · exact Move.isLoop_loop _ _

/-- Where an instruction has its first operand. -/
def instructionStart : Script :=
  requiredLexeme .instruction fun mnemonic =>
    addOperand (Construct.instruction.leaf (some mnemonic.text)) .done

/-- **An instruction is the loop over its further operands**, from where it has the first. -/
theorem instruction_follow (s : State) : (instructionUnit.run s).outcome
    = Script.follow (fun n => Move.bounded operandLoop.rounds n .done)
        (instructionStart.run s).outcome := by
  unfold instructionUnit instructionStart requiredLexeme
  rw [Script.outcome_required, Script.outcome_required]
  cases s.require [Lexeme.instruction.kind] with
  | error e => rfl
  | ok found =>
    obtain ⟨mnemonic, s'⟩ := found
    exact addOperand_sequential (Construct.instruction.leaf (some mnemonic.text)) _ s'

/-! ## Progress -/

/-- **Progress from a state**: of the parts of a program, and of the loops. -/
structure Progress (s : State) : Prop where
  /-- A part that is parsed takes a token that is no trivia, or it fails with an error of
  parsing. -/
  part : ∀ part ∈ parts, (s.parse part.1 part.2).Progresses s
  /-- So does a round of a loop. -/
  round : ∀ l ∈ loops, ∀ n, ((l.body n .done).run s).Progresses s
  /-- A loop comes to one end, which the number of its rounds plays no part in. -/
  ends : ∀ l ∈ loops, ∀ n o, Move.Repeats l.goesOn l.body n s o
    ↔ o = ((Move.bounded l.rounds n .done).run s).outcome
  /-- The end is a node or an error of parsing. -/
  answers : ∀ l ∈ loops, ∀ n, Script.Answers ((Move.bounded l.rounds n .done).run s).result
  /-- A program is what the loop over its statements comes to after the trivia. -/
  program : ∀ o, Move.Repeats statementLoop.goesOn statementLoop.body (Construct.program.leaf none)
    (s.skipWhile trivia) o ↔ o = (programUnit.run s).outcome
  /-- An instruction is what the loop over its operands comes to after the first. -/
  instruction : ∀ n s', (instructionStart.run s).outcome = (.ok n, s') →
    ∀ o, Move.Repeats operandLoop.goesOn operandLoop.body n s' o
      ↔ o = (instructionUnit.run s).outcome

theorem round_progresses (h : l ∈ loops) (n : Node) {s : State} (hs : s.skipKinds = trivia) :
    ((l.body n .done).run s).Progresses s :=
  Advances.progresses (hs ▸ round_advances h n s.rest)

/-- A loop ends with what it comes to when its rounds are counted by the tokens left. -/
theorem loop_repeats (h : l ∈ loops) (n : Node) {s : State} (hs : s.skipKinds = trivia) :
    Move.Repeats l.goesOn l.body n s ((Move.bounded l.rounds n .done).run s).outcome
      ∧ Script.Answers ((Move.bounded l.rounds n .done).run s).result :=
  (isLoop_rounds h).repeats_bounded (body_sequential h) (fun n _ hs => round_progresses h n hs)
    n hs

theorem loop_repeats_iff (h : l ∈ loops) (n : Node) {s : State} (hs : s.skipKinds = trivia)
    (o : Except ParseFailure Node × State) :
    Move.Repeats l.goesOn l.body n s o
      ↔ o = ((Move.bounded l.rounds n .done).run s).outcome := by
  obtain ⟨hrepeats, -⟩ := loop_repeats h n hs
  constructor
  · exact fun ho => ho.unique hrepeats
  · rintro rfl
    exact hrepeats

/-- **Every part of a program makes progress**, and the loops end, on all tokens and at every
cursor. -/
theorem parts_progress (tokens : List Token) (filename : String) (cursor : Nat) :
    Progress { tokens, skipKinds := trivia, filename, cursor } where
  part := by
    intro part hpart
    have hunit := part_advances hpart (trivia.begins_skip (tokens.drop cursor))
    exact Advances.progresses (hunit.parsed fun n us => ⟨n, [], us, rfl, .done⟩)
  round := fun l hl n => round_progresses hl n rfl
  ends := fun l hl n o => loop_repeats_iff hl n rfl o
  answers := fun l hl n => (loop_repeats hl n rfl).2
  program := fun o =>
    loop_repeats_iff (l := statementLoop) List.mem_cons_self (Construct.program.leaf none) rfl o
  instruction := by
    intro n s' hstart o
    have hmem : operandLoop ∈ loops := List.mem_cons_of_mem _ List.mem_cons_self
    have hskip : s'.skipKinds = trivia := by
      have hstate := congrArg Prod.snd hstart
      rw [← show _ = s' from hstate]
      show (instructionStart.run _).state.skipKinds = trivia
      rw [Script.run_state]
      rfl
    rw [instruction_follow, hstart]
    exact loop_repeats_iff hmem n hskip o

end ParseKit.Pasm

import ParseKit.Proofs.Pasm.NormalForm

/-!
# Parsing what was printed

The text of a program is cut into the words of the program. Each word comes
with a condition on the character after it: a name and a mnemonic end where a
word ends, and a number ends before what is neither a digit nor a point. In
the text of a program what comes after an operand is a comma or the end of a
line, and both do. White space needs more care, since what ends one line and
what begins the next is one word; so the words of a program are told with the
white space before it (`Program.words`).

Tokens that spell these words are a program with the same tree
(`areStatements_of_spells`), which is how `parse_text` gets the program back. The
only thing it asks of a constant is to be a numeral in plain digits; names and
mnemonics are words of their kinds because they were when the program was
made.
-/

namespace ParseKit.Pasm

open Regex

/-! ## Words and the characters after them -/

/-- **No word goes on here**, whether name, mnemonic or number. -/
structure Stops (cs : List Char) : Prop where
  /-- No word character comes next. -/
  word : beginsWord .unicode cs = false
  /-- Neither a digit nor a point comes next. -/
  numeral : EndsNumeral cs

theorem stops_comma (cs : List Char) : Stops (',' :: cs) := ⟨rfl, rfl, rfl⟩

theorem stops_newline (cs : List Char) : Stops ('\n' :: cs) := ⟨rfl, rfl, rfl⟩

/-- The constants are numerals in plain digits. -/
def ArePlain (vs : List String) : Prop := ∀ v ∈ vs, IsNumeral Numeral.isDigit v.toList

/-- The word of a white space, if there is any. -/
def spaceWords (gap : List Char) : List Word :=
  if gap = [] then [] else [⟨.whitespace, gap⟩]

/-- The words of an operand. -/
def Operand.words : Operand → List Word
  | register n => [⟨.percent, ['%']⟩, ⟨.ident, n.text.toList⟩]
  | constant v => [⟨.hash, ['#']⟩, ⟨.number, v.toList⟩]
  | name n => [⟨.ident, n.text.toList⟩]

/-- The words of further operands, each after a comma. -/
def furtherWords (os : List Operand) : List Word :=
  os.flatMap fun o => ⟨.comma, [',']⟩ :: ⟨.whitespace, [' ']⟩ :: o.words

/-- The text of further operands, each after a comma. -/
def furtherText (os : List Operand) : List Char :=
  os.flatMap fun o => ',' :: ' ' :: o.text.toList

/-- The white space that an instruction begins with. -/
def indent : List Char := [' ', ' ', ' ', ' ']

/-- **The words of a program** after a white space. -/
def Program.words : List Char → Program → List Word
  | gap, [] => spaceWords gap
  | gap, .label n :: p =>
    spaceWords gap ++ ⟨.ident, n.text.toList⟩ :: ⟨.colon, [':']⟩ :: words ['\n'] p
  | gap, .instruction m first more :: p =>
    spaceWords (gap ++ indent) ++ ⟨.instruction, m.text.toList⟩ :: ⟨.whitespace, [' ']⟩ ::
      (first.words ++ (furtherWords more ++ words ['\n'] p))

/-! ## The text of a program is cut into its words -/

variable {rest : List Char} {ws : List Word}

theorem cut_name (n : Name) (hrest : beginsWord .unicode rest = false) (h : Cut rest ws) :
    Cut (n.text.toList ++ rest) (⟨.ident, n.text.toList⟩ :: ws) :=
  .cons (w := ⟨.ident, n.text.toList⟩)
    (lexemeAt_name n.isName (mt mem_mnemonicWords.mp n.free) hrest) h

theorem cut_mnemonic (m : Mnemonic) (hrest : beginsWord .unicode rest = false) (h : Cut rest ws) :
    Cut (m.text.toList ++ rest) (⟨.instruction, m.text.toList⟩ :: ws) :=
  .cons (w := ⟨.instruction, m.text.toList⟩)
    (lexemeAt_mnemonic (mem_mnemonicWords.mpr m.mem) hrest) h

theorem cut_spaces {gap : List Char} (hgap : ∀ c ∈ gap, spaceUnit.admits c = true)
    (hrest : spaceUnit.run rest = 0) (h : Cut rest ws) :
    Cut (gap ++ rest) (spaceWords gap ++ ws) := by
  unfold spaceWords
  split
  case isTrue hnil => rwa [hnil]
  case isFalse hne =>
    exact .cons (w := ⟨.whitespace, gap⟩) (lexemeAt_spaces hne hgap hrest) h

theorem cut_operand (o : Operand) (ho : ArePlain o.constants) (hrest : Stops rest)
    (h : Cut rest ws) : Cut (o.text.toList ++ rest) (o.words ++ ws) := by
  cases o with
  | register n =>
    rw [Operand.text, String.toList_append, List.append_assoc]
    exact .cons (w := ⟨.percent, ['%']⟩) (lexemeAt_percent _) (cut_name n hrest.word h)
  | constant v =>
    have hplain := ho v List.mem_cons_self
    rw [Operand.text, String.toList_append, List.append_assoc]
    exact .cons (w := ⟨.hash, ['#']⟩) (lexemeAt_hash _)
      (.cons (w := ⟨.number, v.toList⟩) (lexemeAt_numeral hplain hrest.numeral) h)
  | name n => exact cut_name n hrest.word h

/-- A word begins with no space. -/
theorem run_spaceUnit_word {w : List Char} (hw : w ≠ [])
    (hchars : ∀ c ∈ w, Text.isWord c.toNat = true) (rest : List Char) :
    spaceUnit.run (w ++ rest) = 0 := by
  obtain ⟨c, w, rfl⟩ := List.exists_cons_of_ne_nil hw
  have hspace := Text.isSpace_of_isWord (hchars c List.mem_cons_self)
  rw [List.cons_append, UnitTest.run_cons, if_neg]
  rw [admits_spaceUnit, hspace]
  exact Bool.false_ne_true

theorem run_spaceUnit_name (n : Name) (rest : List Char) :
    spaceUnit.run (n.text.toList ++ rest) = 0 :=
  run_spaceUnit_word n.isName.ne_nil n.isName.isWord rest

theorem run_spaceUnit_operand (o : Operand) (rest : List Char) :
    spaceUnit.run (o.text.toList ++ rest) = 0 := by
  cases o with
  | register n =>
    rw [Operand.text, String.toList_append, List.append_assoc]
    rfl
  | constant v =>
    rw [Operand.text, String.toList_append, List.append_assoc]
    rfl
  | name n => exact run_spaceUnit_name n rest

/-- The blank before an operand is a word. -/
theorem cut_blank (o : Operand) (h : Cut (o.text.toList ++ rest) ws) :
    Cut (' ' :: (o.text.toList ++ rest)) (⟨.whitespace, [' ']⟩ :: ws) :=
  .cons (w := ⟨.whitespace, [' ']⟩) (lexemeAt_spaces (by decide)
    (List.forall_mem_singleton.mpr rfl) (run_spaceUnit_operand o rest)) h

theorem cut_further (os : List Operand) (hos : ArePlain (os.flatMap Operand.constants))
    (hrest : Stops rest) (h : Cut rest ws) :
    Cut (furtherText os ++ rest) (furtherWords os ++ ws) ∧ Stops (furtherText os ++ rest) := by
  induction os with
  | nil => exact ⟨h, hrest⟩
  | cons o os ih =>
    rw [ArePlain, List.flatMap_cons, List.forall_mem_append] at hos
    obtain ⟨hcut, hstops⟩ := ih hos.2
    have hoperand := cut_blank o (cut_operand o hos.1 hstops hcut)
    have hcomma := Cut.cons (w := ⟨.comma, [',']⟩) (lexemeAt_comma _) hoperand
    simp only [furtherText, furtherWords, List.flatMap_cons, List.cons_append, List.append_assoc]
    exact ⟨hcomma, stops_comma _⟩

theorem toList_intercalate (o : Operand) (os : List Operand) :
    (", ".intercalate ((o :: os).map Operand.text)).toList = o.text.toList ++ furtherText os := by
  induction os generalizing o with
  | nil => simp [furtherText, String.intercalate_singleton]
  | cons o' os ih =>
    rw [List.map_cons, List.map_cons, String.intercalate_cons_cons, String.toList_append,
      String.toList_append, ← List.map_cons, ih o']
    simp [furtherText]

theorem toList_line_instruction (m : Mnemonic) (first : Operand) (more : List Operand) :
    (Statement.line (.instruction m first more)).toList = indent
      ++ (m.text.toList ++ ' ' :: (first.text.toList ++ (furtherText more ++ ['\n']))) := by
  rw [Statement.line, instructionLine]
  simp only [String.toList_append, toList_intercalate]
  simp [indent]

/-- **The text of a program is cut into its words.** -/
theorem cut_program (p : Program) (hp : ArePlain p.constants) :
    ∀ gap : List Char, (∀ c ∈ gap, spaceUnit.admits c = true) →
      Cut (gap ++ p.text.toList) (p.words gap) := by
  -- the end of each line is white space before the next statement, so the white
  -- space before the program changes along the way
  induction p with
  | nil =>
    intro gap hgap
    simpa [Program.words, Program.text] using cut_spaces hgap rfl Cut.nil
  | cons s p ih =>
    intro gap hgap
    rw [ArePlain, Program.constants, List.flatMap_cons, List.forall_mem_append] at hp
    have hnext := ih hp.2 ['\n'] (List.forall_mem_singleton.mpr rfl)
    rw [Program.text_cons, String.toList_append]
    cases s with
    | label n =>
      have hcolon := Cut.cons (w := ⟨.colon, [':']⟩) (lexemeAt_colon _) hnext
      have hcut := cut_spaces hgap (run_spaceUnit_name n _) (cut_name n rfl hcolon)
      simpa [Statement.line, labelLine, Program.words] using hcut
    | instruction m first more =>
      rw [Statement.constants, List.flatMap_cons, List.forall_mem_append] at hp
      obtain ⟨hfurther, hstops⟩ := cut_further more hp.1.2 (stops_newline _) hnext
      have hfirst := cut_blank first (cut_operand first hp.1.1 hstops hfurther)
      have hmnemonic := cut_mnemonic m rfl hfirst
      have hindent : ∀ c ∈ gap ++ indent, spaceUnit.admits c = true :=
        List.forall_mem_append.mpr ⟨hgap, List.all_eq_true.mp rfl⟩
      obtain ⟨hne, hchars⟩ := mnemonicWords_spelled _ (mem_mnemonicWords.mpr m.mem)
      have hcut := cut_spaces hindent (run_spaceUnit_word hne hchars _) hmnemonic
      simpa [toList_line_instruction, Program.words] using hcut

/-! ## Tokens that spell the words of a program are the program -/

theorem exists_append_of_spells {ts : List Token} {a b : List Word}
    (h : List.Forall₂ Spells ts (a ++ b)) :
    ∃ s t, ts = s ++ t ∧ List.Forall₂ Spells s a ∧ List.Forall₂ Spells t b :=
  ⟨_, _, (List.take_append_drop a.length ts).symm, List.forall₂_take_append ts a b h,
    List.forall₂_drop_append ts a b h⟩

theorem Spells.text_eq {t : Token} {l : Lexeme} {s : String} (h : Spells t ⟨l, s.toList⟩) :
    t.text = s :=
  String.toList_inj.mp h.text

theorem isGap_of_spells {ts : List Token} {gap : List Char}
    (h : List.Forall₂ Spells ts (spaceWords gap)) : IsGap ts := by
  have htrivia : Lexeme.whitespace.kind ∈ trivia := by decide
  unfold spaceWords at h
  split at h
  · cases h
    exact isGap_nil
  · cases h with
    | cons hspace hnil =>
      cases hnil
      exact List.forall_mem_singleton.mpr (hspace.kind ▸ htrivia)

theorem isOperand_of_spells {ts : List Token} {o : Operand}
    (h : List.Forall₂ Spells ts o.words) : IsOperand ts o.node := by
  cases o with
  | register n =>
    cases h with
    | cons hsign h =>
      cases h with
      | cons hname h =>
        cases h
        rw [Operand.node, ← hname.text_eq]
        exact .register hsign.kind hname.kind
  | constant v =>
    cases h with
    | cons hsign h =>
      cases h with
      | cons hnumber h =>
        cases h
        rw [Operand.node, ← hnumber.text_eq]
        exact .constant hsign.kind hnumber.kind
  | name n =>
    cases h with
    | cons hname h =>
      cases h
      rw [Operand.node, ← hname.text_eq]
      exact .ident hname.kind

theorem isGap_space {t : Token} (h : Spells t ⟨.whitespace, [' ']⟩) : IsGap [t] :=
  isGap_of_spells (show List.Forall₂ Spells [t] (spaceWords [' ']) from .cons h .nil)

theorem areOperands_of_spells {ts : List Token} {os : List Operand}
    (h : List.Forall₂ Spells ts (furtherWords os)) : AreOperands ts (os.map Operand.node) := by
  induction os generalizing ts with
  | nil =>
    cases h
    exact .nil
  | cons o os ih =>
    rw [furtherWords, List.flatMap_cons] at h
    cases h with
    | cons hcomma h =>
      cases h with
      | cons hspace h =>
        obtain ⟨first, rest, rfl, hfirst, hrest⟩ := exists_append_of_spells h
        exact .cons isGap_nil hcomma.kind (isGap_space hspace) (isOperand_of_spells hfirst)
          (ih hrest)

/-- The words of a program are those of its statements after a gap. -/
theorem areStatements_of_spells {p : Program} :
    ∀ {gap : List Char} {ts : List Token}, List.Forall₂ Spells ts (p.words gap) →
      ∃ before rest, ts = before ++ rest ∧ IsGap before
        ∧ AreStatements rest (p.map Statement.node) := by
  induction p with
  | nil =>
    intro gap ts h
    exact ⟨ts, [], (List.append_nil ts).symm, isGap_of_spells h, .nil⟩
  | cons s p ih =>
    intro gap ts h
    cases s with
    | label n =>
      obtain ⟨before, ts, rfl, hbefore, h⟩ := exists_append_of_spells h
      cases h with
      | cons hname h =>
        cases h with
        | @cons colon _ _ _ hcolon h =>
          obtain ⟨between, rest, rfl, hbetween, hrest⟩ := ih h
          refine ⟨before, _, rfl, isGap_of_spells hbefore, ?_⟩
          rw [List.map_cons, Statement.node, ← hname.text_eq]
          exact .cons (.label hname.kind isGap_nil hcolon.kind) hbetween hrest
    | instruction m first more =>
      obtain ⟨before, ts, rfl, hbefore, h⟩ := exists_append_of_spells h
      cases h with
      | cons hmnemonic h =>
        cases h with
        | @cons space _ _ _ hspace h =>
          obtain ⟨operand, ts, rfl, hoperand, h⟩ := exists_append_of_spells h
          obtain ⟨further, ts, rfl, hfurther, h⟩ := exists_append_of_spells h
          obtain ⟨between, rest, rfl, hbetween, hrest⟩ := ih h
          refine ⟨before, _, rfl, isGap_of_spells hbefore, ?_⟩
          have hinstruction := IsStatement.instruction hmnemonic.kind (isGap_space hspace)
            (isOperand_of_spells hoperand) (areOperands_of_spells hfurther)
          rw [instructionNode, hmnemonic.text_eq] at hinstruction
          have hall := AreStatements.cons hinstruction hbetween hrest
          simpa [Statement.node] using hall

/-- **The text of a program is parsed as the program**, if its constants are
numerals in plain digits. -/
theorem parse_text {p : Program} (hp : ArePlain p.constants) (filename : String) :
    parse p.text filename = .ok p.node := by
  have hcut := cut_program p hp [] (List.forall_mem_nil _)
  rw [List.nil_append] at hcut
  obtain ⟨ts, hts, hspells⟩ := exists_tokenize_of_cut hcut filename
  obtain ⟨gap, rest, rfl, hgap, hrest⟩ := areStatements_of_spells hspells
  exact parse_eq_ok_iff.mpr ⟨_, hts, .intro hgap hrest⟩

theorem arePlain_mapConstants {f : String → String} {p : Program}
    (h : ∀ v ∈ p.constants, IsNumeral Numeral.isDigit (f v).toList) :
    ArePlain (p.mapConstants f).constants := by
  rw [ArePlain, Program.constants_mapConstants]
  exact List.forall_mem_map.mpr h

/-- **Parsing what was printed gives the tree back**, with each constant replaced
by the number that it stands for, as it is printed: the text that the printer
writes for the tree of any source is accepted again, if each constant is
printed as a numeral in plain digits. -/
theorem parse_render_eq_mapValues {source filename : String} {tree : Node}
    (hparse : parse source filename = .ok tree)
    (hplain : ∀ v ∈ tree.valuesOf Construct.constant.kind,
      IsNumeral Numeral.isDigit (constantText v).toList) (filename' : String) :
    ∃ text, render tree = .ok text
      ∧ parse text filename' = .ok (tree.mapValues Construct.constant.kind constantText) := by
  obtain ⟨p, rfl, hnumerals⟩ := exists_program hparse
  rw [Program.valuesOf_node] at hplain
  refine ⟨(p.mapConstants constantText).text, render_program p hnumerals, ?_⟩
  rw [Program.mapValues_node]
  exact parse_text (arePlain_mapConstants hplain) filename'

/-- A constant with zeros around it, in digits of two scripts, comes back as it
is printed; the name before it is a mnemonic with one more character. -/
theorem parse_render_eq_mapValues_scripts :
    ∃ text, render (programNode [Construct.label.leaf (some "imm_"),
        .mk 2 "Instruction" (some "imm") [Construct.constant.leaf (some "٠07.50")]]) = .ok text
      ∧ parse text "b" = .ok (programNode [Construct.label.leaf (some "imm_"),
        .mk 2 "Instruction" (some "imm") [Construct.constant.leaf (some "7.5")]]) := by
  have hparse : parse "imm_ :imm#٠07.50;" "a" = .ok (programNode
      [Construct.label.leaf (some "imm_"),
        .mk 2 "Instruction" (some "imm") [Construct.constant.leaf (some "٠07.50")]]) := by
    decide +kernel
  have hprinted : constantText "٠07.50" = "7.5" := by decide +kernel
  obtain ⟨text, hrender, htree⟩ := parse_render_eq_mapValues hparse (fun v hv => by
    obtain rfl : v = "٠07.50" := by
      simpa [programNode, Construct.leaf, Node.leaf, Node.valuesOf_mk, Construct.kind] using hv
    rw [hprinted]
    show IsNumeral _ (['7'] ++ '.' :: ['5'])
    exact .pointed (by decide) (List.all_eq_true.mp rfl) (by decide) (List.all_eq_true.mp rfl)) "b"
  refine ⟨text, hrender, htree.trans ?_⟩
  simp [programNode, Construct.leaf, Node.leaf, Node.mapValues_mk, Construct.kind, hprinted]

end ParseKit.Pasm

import ParseKit.Proofs.Decimal.ReadBack
import ParseKit.Proofs.Pasm.RoundTrip

/-!
# When the normal form is stable

The text that the printer writes is a normal form if it is accepted again and
printed as it is. What decides about it are the constants. A constant that is
printed as a numeral in plain digits is printed the same again, since the text
of a number is read back as that number (`constantText_cases`); a program with
only such constants has a stable text.

The printer has two more ways to write a number, and neither is a constant of
the language: a small number is written with an exponent, `1e-05`, and a number
beyond the range of double precision as `inf`. In a text without comments a
sign such as `-` is in no word, and after each number sign comes a digit
(`digit_after_hash`). So a text with such a constant is not accepted, and the
normal form is stable exactly where all constants are printed as numerals
(`render_stable_iff_plain`). The shortest way to leave this range is
`render_unstable_small`.
-/

namespace ParseKit.Pasm

open Regex

/-! ## Constants as they are printed -/

/-- **A constant is printed as a numeral, which is printed as it is**, or as
infinity, or in scientific notation. -/
theorem constantText_cases {v : String} (h : IsNumeral Numeral.isAnyDigit v.toList) :
    (IsNumeral Numeral.isDigit (constantText v).toList
        ∧ constantText (constantText v) = constantText v)
      ∨ constantText v = "inf" ∨ Decimal.Scientific (constantText v).toList := by
  obtain ⟨digits, exponent, hread⟩ := Numeral.exists_readBinary64? h
  have htext : constantText v = (Binary64.ofDecimal false digits exponent).plainText := by
    rw [constantText, hread]
    rfl
  rw [htext]
  refine (Binary64.plainText_cases (Binary64.isRounded_ofDecimal false digits exponent)).imp_left ?_
  rintro ⟨hplain, hback⟩
  refine ⟨hplain, ?_⟩
  rw [constantText, hback]
  rfl

/-- **A numeral in plain digits that is printed is printed as it is.** -/
theorem constantText_idem {v : String} (h : IsNumeral Numeral.isAnyDigit v.toList)
    (hplain : IsNumeral Numeral.isDigit (constantText v).toList) :
    constantText (constantText v) = constantText v := by
  rcases constantText_cases h with ⟨-, hidem⟩ | hinf | hscientific
  · exact hidem
  · rw [hinf] at hplain
    exact absurd (hplain.forall_mem 'i' (by decide)) (by decide)
  · rcases hscientific.signed with hplus | hminus
    · exact absurd (hplain.forall_mem _ hplus) (by decide)
    · exact absurd (hplain.forall_mem _ hminus) (by decide)

/-- **The characters of a constant as it is printed**: word characters, a point
and the signs of an exponent. -/
theorem mem_constantText {v : String} (h : IsNumeral Numeral.isAnyDigit v.toList) {c : Char}
    (hc : c ∈ (constantText v).toList) :
    Text.isWord c.toNat = true ∨ c ∈ ['.', '+', '-'] := by
  have hword : Numeral.isDigit c = true → Text.isWord c.toNat = true := fun hdigit => by
    rw [Numeral.isDigit_iff] at hdigit
    exact isWord_of_namePart (admits_namePart_iff.mpr (by omega))
  rcases constantText_cases h with ⟨hplain, -⟩ | hinf | hscientific
  · exact (hplain.forall_mem c hc).imp hword fun hpoint => by simp [hpoint]
  · have hletters : ∀ c ∈ "inf".toList, Text.isWord c.toNat = true := List.all_eq_true.mp rfl
    rw [hinf] at hc
    exact .inl (hletters c hc)
  · rcases hscientific.chars c hc with hdigit | hsign
    · exact .inl (hword hdigit)
    · by_cases he : c = 'e'
      · rw [he]
        exact .inl rfl
      · exact .inr (by simpa [he] using hsign)

/-! ## The constants in the text of a program -/

/-- What stands between the words of a program, and before them. -/
def separators : List Char := [' ', '\n', ':', ',', '%', '#']

theorem mem_operand {o : Operand} {c : Char} (hc : c ∈ o.text.toList) :
    Text.isWord c.toNat = true ∨ c ∈ separators ∨ ∃ v ∈ o.constants, c ∈ v.toList := by
  cases o with
  | register n =>
    have hsign : ∀ c ∈ "%".toList, c ∈ separators := by simp [separators]
    rw [Operand.text, String.toList_append, List.mem_append] at hc
    exact hc.symm.imp (n.isName.isWord c) fun hc => .inl (hsign c hc)
  | constant v =>
    have hsign : ∀ c ∈ "#".toList, c ∈ separators := by simp [separators]
    rw [Operand.text, String.toList_append, List.mem_append] at hc
    exact .inr (hc.imp (hsign c) fun hc => ⟨v, List.mem_cons_self, hc⟩)
  | name n => exact .inl (n.isName.isWord c hc)

theorem mem_line {s : Statement} {c : Char} (hc : c ∈ s.line.toList) :
    Text.isWord c.toNat = true ∨ c ∈ separators ∨ ∃ v ∈ s.constants, c ∈ v.toList := by
  cases s with
  | label n =>
    have hend : ∀ c ∈ ":\n".toList, c ∈ separators := by simp [separators]
    rw [Statement.line, labelLine, String.toList_append, List.mem_append] at hc
    exact hc.imp (n.isName.isWord c) fun hc => .inl (hend c hc)
  | instruction m first more =>
    have hoperand : ∀ o ∈ first :: more, c ∈ o.text.toList → Text.isWord c.toNat = true
        ∨ c ∈ separators ∨ ∃ v ∈ (Statement.instruction m first more).constants, c ∈ v.toList := by
      intro o ho hc
      refine (mem_operand hc).imp_right (Or.imp_right ?_)
      rintro ⟨v, hv, hc⟩
      exact ⟨v, List.mem_flatMap.mpr ⟨o, ho, hv⟩, hc⟩
    have hbetween : ∀ c ∈ [' ', ',', '\n'], c ∈ separators := by simp [separators]
    rw [toList_line_instruction] at hc
    have hcases : c ∈ [' ', ',', '\n'] ∨ c ∈ m.text.toList
        ∨ ∃ o ∈ first :: more, c ∈ o.text.toList := by
      simp only [indent, furtherText, List.mem_append, List.mem_cons, List.mem_flatMap,
        List.not_mem_nil, or_false, exists_eq_or_imp] at hc ⊢
      grind
    rcases hcases with hc | hc | ⟨o, ho, hc⟩
    · exact .inr (.inl (hbetween c hc))
    · exact .inl ((mnemonicWords_spelled _ (mem_mnemonicWords.mpr m.mem)).2 c hc)
    · exact hoperand o ho hc

/-- **The characters of the text of a program.** -/
theorem mem_text {p : Program} {c : Char} (hc : c ∈ p.text.toList) :
    Text.isWord c.toNat = true ∨ c ∈ separators ∨ ∃ v ∈ p.constants, c ∈ v.toList := by
  rw [Program.text, String.toList_join, List.mem_flatMap] at hc
  obtain ⟨line, hline, hc⟩ := hc
  obtain ⟨s, hs, rfl⟩ := List.mem_map.mp hline
  refine (mem_line hc).imp_right (Or.imp_right ?_)
  rintro ⟨v, hv, hc⟩
  exact ⟨v, List.mem_flatMap.mpr ⟨s, hs, hv⟩, hc⟩

/-- The characters of a program that is printed. -/
theorem mem_printed {p : Program} (hp : AreNumerals p.constants) {c : Char}
    (hc : c ∈ (p.mapConstants constantText).text.toList) :
    Text.isWord c.toNat = true ∨ c ∈ separators ∨ c ∈ ['.', '+', '-'] := by
  rcases mem_text hc with hword | hsign | ⟨v, hv, hc⟩
  · exact .inl hword
  · exact .inr (.inl hsign)
  · rw [Program.constants_mapConstants] at hv
    obtain ⟨u, hu, rfl⟩ := List.mem_map.mp hv
    exact (mem_constantText (hp u hu) hc).imp_right .inr

theorem text_constant {o : Operand} {v : String} (hv : v ∈ o.constants) :
    o.text.toList = '#' :: v.toList := by
  cases o with
  | constant u =>
    obtain rfl := List.mem_singleton.mp hv
    simp [Operand.text]
  | register n => cases hv
  | name n => cases hv

theorem infix_furtherText {o : Operand} {os : List Operand} (ho : o ∈ os) :
    o.text.toList <:+: furtherText os := by
  obtain ⟨before, after, rfl⟩ := List.append_of_mem ho
  refine ⟨furtherText before ++ [',', ' '], furtherText after, ?_⟩
  simp [furtherText]

/-- **Each constant stands in the text of a program**, after its sign. -/
theorem infix_text {p : Program} {v : String} (hv : v ∈ p.constants) :
    '#' :: v.toList <:+: p.text.toList := by
  induction p with
  | nil => cases hv
  | cons s p ih =>
    rw [Program.text_cons, String.toList_append]
    rw [Program.constants, List.flatMap_cons, List.mem_append] at hv
    rcases hv with hv | hv
    · refine List.IsInfix.trans ?_ (List.prefix_append _ _).isInfix
      cases s with
      | label n => cases hv
      | instruction m first more =>
        obtain ⟨o, ho, hvo⟩ := List.mem_flatMap.mp hv
        have hoperands : o.text.toList <:+: first.text.toList ++ furtherText more := by
          rcases List.mem_cons.mp ho with rfl | ho
          · exact (List.prefix_append _ _).isInfix
          · exact (infix_furtherText ho).trans (List.suffix_append _ _).isInfix
        rw [← text_constant hvo, toList_line_instruction]
        exact hoperands.trans ⟨indent ++ m.text.toList ++ [' '], ['\n'], by simp⟩
    · exact (ih hv).trans (List.suffix_append _ _).isInfix

/-! ## The characters of words -/

/-- **A mark** is in no white space, word or number. -/
def isMark (c : Char) : Bool :=
  !Text.isSpace c.toNat && !Text.isWord c.toNat && !Numeral.isAnyDigit c && c != '.'

/-- The character of a kind of tokens that is always the same one. -/
def Lexeme.mark? : Lexeme → Option Char
  | .colon => some ':'
  | .comma => some ','
  | .percent => some '%'
  | .hash => some '#'
  | _ => none

theorem eq_singleton_of_signReach {w rest : List Char} {c : Char}
    (h : signReach c (w ++ rest) = some w.length) : w = [c] := by
  obtain ⟨hlength, more, hcs⟩ := signReach_eq_some h
  obtain ⟨d, rfl⟩ := List.length_eq_one_iff.mp hlength
  obtain ⟨rfl, -⟩ := List.cons_eq_cons.mp hcs
  rfl

/-- **A mark is in no word but the one of its own kind**, comments apart. -/
theorem word_of_mark {w rest : List Char} {l : Lexeme} {c : Char}
    (h : lexemeAt (w ++ rest) = some (l, w.length)) (hl : l ≠ .comment) (hc : isMark c = true)
    (hmem : c ∈ w) : l.mark? = some c ∧ w = [c] := by
  simp only [isMark, Bool.and_eq_true, Bool.not_eq_true', bne_iff_ne, ne_eq] at hc
  obtain ⟨⟨⟨hspace, hword⟩, hdigit⟩, hpoint⟩ := hc
  have hsign : ∀ d, signReach d (w ++ rest) = some w.length → d = c ∧ w = [c] := by
    intro d hd
    obtain rfl := eq_singleton_of_signReach hd
    obtain rfl := List.mem_singleton.mp hmem
    exact ⟨rfl, rfl⟩
  have hnotWord : ¬ ∀ c ∈ w, Text.isWord c.toNat = true := fun hall =>
    Bool.false_ne_true (hword.symm.trans (hall c hmem))
  cases l with
  | whitespace =>
    have hrun := (UnitTest.someRun_eq_some (reach_of_lexemeAt h)).1
    have hadmits := ((spaceUnit.run_append_eq_iff w rest).mp hrun.symm).1 c hmem
    rw [admits_spaceUnit, hspace] at hadmits
    exact absurd hadmits Bool.false_ne_true
  | comment => exact absurd rfl hl
  | colon => exact (hsign _ (reach_of_lexemeAt h)).imp_left (congrArg some)
  | comma => exact (hsign _ (reach_of_lexemeAt h)).imp_left (congrArg some)
  | percent => exact (hsign _ (reach_of_lexemeAt h)).imp_left (congrArg some)
  | hash => exact (hsign _ (reach_of_lexemeAt h)).imp_left (congrArg some)
  | instruction =>
    exact absurd (mnemonicWords_spelled w (mem_mnemonicWords_of_lexemeAt h)).2 hnotWord
  | ident => exact absurd (isName_of_lexemeAt h).1.isWord hnotWord
  | number =>
    rcases (isNumeral_of_lexemeAt h).forall_mem c hmem with hc | hc
    · exact absurd (hdigit.symm.trans hc) Bool.false_ne_true
    · exact absurd hc hpoint

/-- A comment begins with a semicolon. -/
theorem semicolon_mem_comment {w rest : List Char}
    (h : lexemeAt (w ++ rest) = some (.comment, w.length)) : ';' ∈ w := by
  obtain ⟨c, more, hcs, hc, hlength⟩ := headedRun_eq_some (reach_of_lexemeAt h)
  have hadmits : semicolon.admits c = (';' == c) := admits_one ';' c
  rw [hadmits, beq_iff_eq] at hc
  cases w with
  | nil => cases hlength
  | cons d w =>
    rw [hc, ← (List.cons_eq_cons.mp hcs).1]
    exact List.mem_cons_self

/-- **In a text without comments a mark is the mark of a word.** -/
theorem Cut.mark_of_mem {cs : List Char} {ws : List Word} (h : Cut cs ws) (hno : ';' ∉ cs)
    {c : Char} (hc : isMark c = true) (hmem : c ∈ cs) : ∃ l : Lexeme, l.mark? = some c := by
  induction h with
  | nil => cases hmem
  | @cons w rest ws taken tail ih =>
    rw [List.mem_append, not_or] at hno
    rcases List.mem_append.mp hmem with hmem | hmem
    · have hl : w.lexeme ≠ .comment := fun hcomment =>
        hno.1 (semicolon_mem_comment (hcomment ▸ taken))
      exact ⟨_, (word_of_mark taken hl hc hmem).1⟩
    · exact ih hno.2 hmem

/-- A number sign in a text is not in a word without one. -/
theorem exists_eq_append_hash {w rest a b : List Char} (hw : '#' ∉ w)
    (h : w ++ rest = a ++ '#' :: b) : ∃ a', rest = a' ++ '#' :: b := by
  rcases List.append_eq_append_iff.mp h with ⟨a', -, hrest⟩ | ⟨c', rfl, hb⟩
  · exact ⟨a', hrest⟩
  · cases c' with
    | nil => exact ⟨[], hb.symm⟩
    | cons d c' =>
      obtain ⟨rfl, -⟩ := List.cons_eq_cons.mp hb
      exact absurd (List.mem_append_right a List.mem_cons_self) hw

theorem hash_not_mem {w rest : List Char} {l : Lexeme}
    (h : lexemeAt (w ++ rest) = some (l, w.length)) (hno : ';' ∉ w) (hl : l ≠ .hash) :
    '#' ∉ w := by
  intro hmem
  have hcomment : l ≠ .comment := fun hcomment => hno (semicolon_mem_comment (hcomment ▸ h))
  have hmark := (word_of_mark h hcomment (by decide +kernel) hmem).1
  cases l <;> simp [Lexeme.mark?] at hmark hl

theorem Cut.exists_rest {cs : List Char} {w : Word} {ws : List Word} (h : Cut cs (w :: ws)) :
    ∃ rest, cs = w.chars ++ rest ∧ lexemeAt (w.chars ++ rest) = some (w.lexeme, w.chars.length)
      ∧ Cut rest ws := by
  cases h with
  | cons taken tail => exact ⟨_, rfl, taken, tail⟩

/-- **After each number sign comes a digit**, in a text without comments whose
tokens have numbers and their signs in pairs. -/
theorem digit_after_hash {ts : List Token} (hpaired : Paired ts) :
    ∀ {cs : List Char} {ws : List Word}, Cut cs ws → List.Forall₂ Spells ts ws → ';' ∉ cs →
      ∀ a b, cs = a ++ '#' :: b → ∃ d ∈ b.head?, Numeral.isAnyDigit d = true := by
  induction hpaired with
  | nil =>
    intro cs ws hcut hspells _ a b hcs
    cases hspells
    cases hcut
    simp at hcs
  | one hhash _ _ ih =>
    intro cs ws hcut hspells hno a b hcs
    cases hspells with
    | cons hw hspells =>
      obtain ⟨rest, rfl, taken, tail⟩ := hcut.exists_rest
      rw [List.mem_append, not_or] at hno
      have hmark := hash_not_mem taken hno.1 fun hl => hhash (hw.kind.trans (congrArg _ hl))
      obtain ⟨a', hrest⟩ := exists_eq_append_hash hmark hcs
      exact ih tail hspells hno.2 a' b hrest
  | pair hsign hnumber _ ih =>
    intro cs ws hcut hspells hno a b hcs
    cases hspells with
    | cons hw hspells =>
      cases hspells with
      | cons hw' hspells =>
        obtain ⟨more, rfl, taken, tail⟩ := hcut.exists_rest
        obtain ⟨rest, rfl, taken', tail⟩ := tail.exists_rest
        rw [List.mem_append, List.mem_append, not_or, not_or] at hno
        rw [Lexeme.kind_inj (hw.kind.symm.trans hsign)] at taken
        rw [Lexeme.kind_inj (hw'.kind.symm.trans hnumber)] at taken'
        rw [eq_singleton_of_signReach (reach_of_lexemeAt taken)] at hcs
        cases a with
        | nil =>
          -- the sign is this one, and the number is what comes after it
          obtain ⟨-, rfl⟩ := List.cons_eq_cons.mp hcs
          obtain ⟨d, ds, hd, hdigit⟩ := (isNumeral_of_lexemeAt taken').exists_head
          rw [hd]
          exact ⟨d, rfl, hdigit⟩
        | cons c a =>
          have hmark := hash_not_mem taken' hno.2.1 (by decide)
          obtain ⟨a', hrest⟩ := exists_eq_append_hash hmark (List.cons_eq_cons.mp hcs).2
          exact ih tail hspells hno.2.2 a' b hrest

/-! ## Stability -/

/-- **A text that is accepted has numerals in plain digits as its constants**, if
it is the text of a program whose constants are printed ones. -/
theorem plain_of_parse {p : Program} (hp : AreNumerals p.constants) {filename : String}
    {tree : Node} (h : parse (p.mapConstants constantText).text filename = .ok tree) :
    ∀ v ∈ p.constants, IsNumeral Numeral.isDigit (constantText v).toList := by
  obtain ⟨ts, hts, hprogram⟩ := parse_eq_ok_iff.mp h
  obtain ⟨ws, hcut, hspells⟩ := tokenize_cut hts
  have hno : ';' ∉ (p.mapConstants constantText).text.toList := fun hmem =>
    absurd (mem_printed hp hmem) (by decide)
  intro v hv
  have hmem : constantText v ∈ (p.mapConstants constantText).constants := by
    rw [Program.constants_mapConstants]
    exact List.mem_map_of_mem hv
  obtain ⟨a, b, htext⟩ := infix_text hmem
  rcases constantText_cases (hp v hv) with ⟨hplain, -⟩ | hinf | hscientific
  · exact hplain
  · -- an infinity has no digit after its sign
    rw [hinf] at htext
    obtain ⟨d, hd, hdigit⟩ := digit_after_hash (Paired.program hprogram) hcut hspells hno a
      ("inf".toList ++ b) (by rw [← htext, List.append_assoc, List.cons_append])
    cases hd
    exact absurd hdigit (by decide +kernel)
  · -- the sign of an exponent is in no word
    have hsigns : ∀ c, c = '+' ∨ c = '-' → c ∉ (p.mapConstants constantText).text.toList := by
      intro c hc hmem
      have hmark : isMark c = true := by rcases hc with rfl | rfl <;> decide +kernel
      obtain ⟨l, hl⟩ := hcut.mark_of_mem hno hmark hmem
      rcases hc with rfl | rfl <;> cases l <;> simp [Lexeme.mark?] at hl
    have hin : ∀ c ∈ (constantText v).toList, c ∈ (p.mapConstants constantText).text.toList :=
      fun c hc => by rw [← htext]; simp [hc]
    rcases hscientific.signed with hplus | hminus
    · exact absurd (hin _ hplus) (hsigns _ (.inl rfl))
    · exact absurd (hin _ hminus) (hsigns _ (.inr rfl))

/-- **The normal form is stable exactly where constants are printed as numerals in
plain digits.** -/
theorem render_stable_iff_plain {source filename : String} {tree : Node}
    (hparse : parse source filename = .ok tree) (filename' : String) :
    ∃ text, render tree = .ok text
      ∧ ((∃ tree', parse text filename' = .ok tree' ∧ render tree' = .ok text)
        ↔ ∀ v ∈ tree.valuesOf Construct.constant.kind,
          IsNumeral Numeral.isDigit (constantText v).toList) := by
  obtain ⟨p, rfl, hnumerals⟩ := exists_program hparse
  refine ⟨_, render_program p hnumerals, ?_⟩
  rw [Program.valuesOf_node]
  constructor
  · rintro ⟨tree', hparse', -⟩
    exact plain_of_parse hnumerals hparse'
  · intro hplain
    have hconstants := arePlain_mapConstants hplain
    refine ⟨_, parse_text hconstants filename', ?_⟩
    rw [render_program _ fun v hv => (hconstants v hv).mono fun _ => Numeral.isAnyDigit_of_isDigit,
      Program.mapConstants_eq_self]
    rw [Program.constants_mapConstants]
    exact List.forall_mem_map.mpr fun v hv => constantText_idem (hnumerals v hv) (hplain v hv)

/-- A decimal in digits of two scripts has a stable normal form. -/
theorem render_stable_iff_plain_scripts :
    ∃ text, render (programNode
        [.mk 2 "Instruction" (some "imm") [Construct.constant.leaf (some "٠07.50")]]) = .ok text
      ∧ ∃ tree', parse text "b" = .ok tree' ∧ render tree' = .ok text := by
  have hparse : parse "imm#٠07.50;" "a" = .ok (programNode
      [.mk 2 "Instruction" (some "imm") [Construct.constant.leaf (some "٠07.50")]]) := by
    decide +kernel
  have hprinted : constantText "٠07.50" = "7.5" := by decide +kernel
  obtain ⟨text, hrender, hiff⟩ := render_stable_iff_plain hparse "b"
  refine ⟨text, hrender, hiff.mpr fun v hv => ?_⟩
  obtain rfl : v = "٠07.50" := by
    simpa [programNode, Construct.leaf, Node.leaf, Node.valuesOf_mk, Construct.kind] using hv
  rw [hprinted]
  show IsNumeral _ (['7'] ++ '.' :: ['5'])
  exact .pointed (by decide) (List.all_eq_true.mp rfl) (by decide) (List.all_eq_true.mp rfl)

/-- An instruction with a small constant. -/
def smallConstant : Program := [.instruction ⟨"imm", by decide⟩ (.constant "0.00001") []]

/-- **A small constant is printed with an exponent**, and the text is not accepted
again. -/
theorem render_unstable_small :
    ∃ tree, parse "imm #0.00001" "a" = .ok tree ∧ render tree = .ok "    imm #1e-05\n"
      ∧ ∀ tree', parse "    imm #1e-05\n" "b" ≠ .ok tree' := by
  have hprinted : constantText "0.00001" = "1e-05" := by decide +kernel
  have hnumerals : AreNumerals smallConstant.constants := by
    refine List.forall_mem_singleton.mpr ?_
    show IsNumeral _ (['0'] ++ '.' :: ['0', '0', '0', '0', '1'])
    exact .pointed (by decide) (List.all_eq_true.mp rfl) (by decide) (List.all_eq_true.mp rfl)
  have htext : (smallConstant.mapConstants constantText).text = "    imm #1e-05\n" := by
    show "" ++ ("    " ++ "imm" ++ " " ++ ("#" ++ constantText "0.00001") ++ "\n") = _
    rw [hprinted]
    decide
  refine ⟨smallConstant.node, by decide +kernel, ?_, fun tree' h => ?_⟩
  · rw [render_program _ hnumerals, htext]
  · rw [← htext] at h
    have hplain := plain_of_parse hnumerals h "0.00001" List.mem_cons_self
    rw [hprinted] at hplain
    exact absurd (hplain.forall_mem 'e' (by decide)) (by decide)

end ParseKit.Pasm

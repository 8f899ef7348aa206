import ParseKit.Pasm.Syntax
import ParseKit.Proofs.Decimal.Reading
import ParseKit.Proofs.Lexing.FirstMatch
import ParseKit.Proofs.Regex.Runs

/-!
# How the words of pseudo-assembly are spelled

Each pattern of pseudo-assembly takes some of the characters that come next,
and which these are depends on nothing before them: also a mnemonic, which
must end at a word boundary, only asks what comes after it, since it ends in
a letter itself. `Lexeme.reach` says for each kind of token how many
characters it takes, and `lexemeAt` which kind is the first to take any.

A text is **cut into words** if each word is what is taken where it begins;
`tokenize_cut` and `exists_tokenize_of_cut` say that reading a text is
cutting it into words, for those kinds of tokens. From there on, what tokens
there can be is a matter of spelling. A name may be spelled like a mnemonic,
but only where a word character follows that cannot be part of a name, and
such a character can only begin a number (`Cut.number_of_reserved`).
-/

namespace ParseKit

namespace Pasm

open Regex

/-! ## What each pattern takes -/

namespace Lexeme

/-- The kinds of tokens in the order in which they are tried. -/
def order : List Lexeme :=
  [whitespace, comment, colon, comma, percent, hash, instruction, ident, number]

/-- The pattern of a kind of tokens. -/
def pattern : Lexeme → Pattern
  | whitespace => regexPattern "whitespace" .whitespace "\\s+" whitespaceRegex
  | comment => regexPattern "comment" .comment ";[^\\n]*" commentRegex
  | colon => signPattern "colon" .colon ":"
  | comma => signPattern "comma" .comma ","
  | percent => signPattern "percent" .percent "%"
  | hash => signPattern "hash" .hash "#"
  | instruction => regexPattern "instruction" .instruction
      ("(?:" ++ "|".intercalate mnemonics ++ ")\\b") instructionRegex
  | ident => regexPattern "ident" .ident "[a-zA-Z_][a-zA-Z0-9_]*" identRegex
  | number => regexPattern "number" .number "\\d+(\\.\\d+)?" numberRegex

theorem patterns_eq : patterns = order.map pattern := rfl

theorem kind_pattern (l : Lexeme) : l.pattern.kind = l.kind := by
  cases l <;> rfl

end Lexeme

/-- The mnemonics, letter by letter. -/
def mnemonicWords : List (List Char) := mnemonics.map String.toList

/-- One character of which a sign consists. -/
def signReach (c : Char) (cs : List Char) : Option Nat := if [c].isPrefixOf cs then some 1 else none

/-- The character that begins a comment. -/
def semicolon : UnitTest := .one 59 false .exact

/-- **How many characters a kind of token takes** at the front of a text. -/
def Lexeme.reach : Lexeme → List Char → Option Nat
  | whitespace, cs => spaceUnit.someRun cs
  | comment, cs => headedRun semicolon notLineFeed cs
  | colon, cs => signReach ':' cs
  | comma, cs => signReach ',' cs
  | percent, cs => signReach '%' cs
  | hash, cs => signReach '#' cs
  | instruction, cs => (freeWord .unicode mnemonicWords cs).map List.length
  | ident, cs => headedRun nameStart namePart cs
  | number, cs => digitUnit.pointedRun '.' cs

theorem mnemonicWords_spelled : ∀ w ∈ mnemonicWords, w ≠ []
    ∧ ∀ c ∈ w, Category.word.holds .unicode c.toNat = true := by
  have hall : (mnemonicWords.all fun w =>
      w != [] && w.all fun c => Category.word.holds .unicode c.toNat) = true := by
    decide
  simpa using hall

theorem instructionRegex_eq : instructionRegex
    = .seq (anyOf (mnemonicWords.map ofChars)) (.anchor (.boundary .unicode)) := by
  rw [instructionRegex, mnemonicWords, List.map_map]
  rfl

theorem matchEnd_instructionRegex {text : List Char} {p : Nat} (hp : p ≤ text.length) :
    instructionRegex.matchEnd (.ofChars text.toArray) p
      = .ok ((Lexeme.instruction.reach (text.drop p)).map (p + ·)) := by
  have hwidth : ∀ w ∈ mnemonicWords, instructionRegex.width.least ≤ w.length := by decide
  rw [instructionRegex_eq] at hwidth ⊢
  exact matchEnd_words (by decide) mnemonicWords_spelled hwidth hp

theorem signReach_eq_some {c : Char} {cs : List Char} {n : Nat} (h : signReach c cs = some n) :
    n = 1 ∧ ∃ rest, cs = c :: rest := by
  unfold signReach at h
  split at h
  · rename_i hsign
    cases h
    obtain ⟨rest, rfl⟩ := List.isPrefixOf_iff_prefix.mp hsign
    exact ⟨rfl, rest, rfl⟩
  · cases h

/-- What is taken is something. -/
theorem Lexeme.reach_pos {l : Lexeme} {cs : List Char} {n : Nat} (h : l.reach cs = some n) :
    0 < n := by
  have hsign : ∀ c, signReach c cs = some n → 0 < n := fun c h => by
    rw [(signReach_eq_some h).1]
    exact Nat.one_pos
  have hheaded : ∀ v u, headedRun v u cs = some n → 0 < n := fun v u h => by
    obtain ⟨c, rest, -, -, rfl⟩ := headedRun_eq_some h
    exact Nat.succ_pos _
  cases l with
  | whitespace => exact (UnitTest.someRun_eq_some h).2
  | comment => exact hheaded _ _ h
  | colon => exact hsign _ h
  | comma => exact hsign _ h
  | percent => exact hsign _ h
  | hash => exact hsign _ h
  | instruction =>
    obtain ⟨w, hw, rfl⟩ := Option.map_eq_some_iff.mp h
    exact List.length_pos_iff.mpr (mnemonicWords_spelled w (freeWord_eq_some hw).1).1
  | ident => exact hheaded _ _ h
  | number =>
    obtain ⟨hrun, rfl⟩ := UnitTest.pointedRun_eq_some h
    exact Nat.add_pos_left (Nat.pos_of_ne_zero hrun) _

theorem Lexeme.reach_nil (l : Lexeme) : l.reach [] = none := by
  cases l <;> rfl

/-- A regular expression takes what its match ends after. -/
theorem matchAt_regexPattern {label written : String} {l : Lexeme} {r : Regex}
    {reach : List Char → Option Nat} {source : String} {offset : Nat}
    (hpos : ∀ n, reach (source.toList.drop offset) = some n → 0 < n)
    (hmatch : r.matchEnd (.ofChars source.toList.toArray) offset
      = .ok ((reach (source.toList.drop offset)).map (offset + ·)))
    (hoffset : offset < source.toList.length) :
    (regexPattern label l written r).matchAt source offset
      = .ok ((reach (source.toList.drop offset)).map Int.ofNat) := by
  unfold Pattern.matchAt Pattern.matchLength regexPattern
  rw [if_neg (by rw [List.size_toArray]; omega)]
  dsimp only [Pattern.takes]
  rw [hmatch]
  cases hreach : reach (source.toList.drop offset) with
  | none => rfl
  | some n =>
    have hn : ((offset + n : Nat) : Int) - (offset : Int) = (n : Int) := by omega
    have hne : ((n : Int) == 0) = false := by
      have := hpos n hreach
      exact beq_false_of_ne (by omega)
    simp only [Option.map_some, Except.map, hn, hne]
    rfl

/-- A sign takes its character. -/
theorem matchAt_signPattern {label sign : String} {l : Lexeme} {c : Char}
    (hsign : sign.toList = [c])
    {source : String} {offset : Nat} (hoffset : offset < source.toList.length) :
    (signPattern label l sign).matchAt source offset
      = .ok ((signReach c (source.toList.drop offset)).map Int.ofNat) := by
  have hstarts : Pattern.startsAt source.toList.toArray offset [c]
      = [c].isPrefixOf (source.toList.drop offset) := by
    rw [drop_eq_cons hoffset, Pattern.startsAt, List.getElem?_toArray,
      List.getElem?_eq_getElem hoffset, List.isPrefixOf, Option.some_beq_some, BEq.comm]
    rfl
  unfold Pattern.matchAt Pattern.matchLength signPattern signReach
  rw [if_neg (by rw [List.size_toArray]; omega)]
  dsimp only [Pattern.takes]
  rw [hsign, hstarts, ← String.length_toList, hsign]
  split
  · rfl
  · rfl

/-- **The pattern of a kind of token takes what that kind does.** -/
theorem Lexeme.matchAt_pattern (l : Lexeme) {source : String} {offset : Nat}
    (hoffset : offset ≤ source.length) :
    l.pattern.matchAt source offset
      = .ok ((l.reach (source.toList.drop offset)).map Int.ofNat) := by
  rw [← String.length_toList] at hoffset
  rcases Nat.lt_or_ge offset source.toList.length with h | h
  · have hpos : ∀ n, l.reach (source.toList.drop offset) = some n → 0 < n := fun n => l.reach_pos
    cases l with
    | whitespace => exact matchAt_regexPattern hpos (matchEnd_oneOrMore spaceUnit hoffset) h
    | comment => exact matchAt_regexPattern hpos (matchEnd_headed semicolon notLineFeed hoffset) h
    | colon => exact matchAt_signPattern (by decide) h
    | comma => exact matchAt_signPattern (by decide) h
    | percent => exact matchAt_signPattern (by decide) h
    | hash => exact matchAt_signPattern (by decide) h
    | instruction => exact matchAt_regexPattern hpos (matchEnd_instructionRegex hoffset) h
    | ident => exact matchAt_regexPattern hpos (matchEnd_headed nameStart namePart hoffset) h
    | number => exact matchAt_regexPattern hpos (matchEnd_pointed digitUnit '.' hoffset) h
  · rw [List.drop_eq_nil_of_le h, reach_nil, Pattern.matchAt, Pattern.matchLength,
      if_pos (by rw [List.size_toArray]; exact h)]
    rfl

/-! ## What is taken first -/

/-- **The kind of token that is the first to take anything** of a text, and how
much. -/
def lexemeAt (cs : List Char) : Option (Lexeme × Nat) :=
  Lexeme.order.findSome? fun l => (l.reach cs).map fun n => (l, n)

/-- What is taken first is taken. -/
theorem reach_of_lexemeAt {cs : List Char} {l : Lexeme} {n : Nat}
    (h : lexemeAt cs = some (l, n)) : l.reach cs = some n := by
  obtain ⟨l', -, hl'⟩ := List.exists_of_findSome?_eq_some h
  obtain ⟨m, hm, heq⟩ := Option.map_eq_some_iff.mp hl'
  cases heq
  exact hm

/-- **A pattern is chosen if its kind is the first to take anything.** -/
theorem chooses_iff {source : String} {offset : Nat} (hoffset : offset ≤ source.length)
    {p : Pattern} {n : Nat} :
    Chooses patterns source offset p n
      ↔ ∃ l, lexemeAt (source.toList.drop offset) = some (l, n) ∧ p = l.pattern := by
  have htakes : ∀ l : Lexeme, l.pattern.matchAt source offset = .ok (some (n : Int))
      ↔ (l.reach (source.toList.drop offset)).map (fun n => (l, n)) = some (l, n) := by
    intro l
    rw [l.matchAt_pattern hoffset]
    cases l.reach (source.toList.drop offset) with
    | none => simp
    | some m => simp
  have hskips : ∀ l : Lexeme, l.pattern.matchAt source offset = .ok none
      ↔ (l.reach (source.toList.drop offset)).map (fun n => (l, n)) = none := by
    intro l
    rw [l.matchAt_pattern hoffset]
    simp
  constructor
  · rintro ⟨htaken, earlier, later, hpatterns, hearlier⟩
    rw [Lexeme.patterns_eq] at hpatterns
    obtain ⟨before, after, hbefore, rfl, hafter⟩ := List.map_eq_append_iff.mp hpatterns
    obtain ⟨l, after, rfl, rfl, rfl⟩ := List.map_eq_cons_iff.mp hafter
    refine ⟨l, List.findSome?_eq_some_iff.mpr ⟨before, l, after, hbefore, ?_, ?_⟩, rfl⟩
    · exact (htakes l).mp htaken
    · exact fun l' hl' => (hskips l').mp (hearlier _ (List.mem_map_of_mem hl'))
  · rintro ⟨l, h, rfl⟩
    obtain ⟨before, l', after, horder, hl', hnone⟩ := List.findSome?_eq_some_iff.mp h
    obtain ⟨m, -, heq⟩ := Option.map_eq_some_iff.mp hl'
    cases heq
    refine ⟨(htakes l).mpr hl', before.map Lexeme.pattern, after.map Lexeme.pattern, ?_, ?_⟩
    · rw [Lexeme.patterns_eq, horder, List.map_append, List.map_cons]
    · intro q hq
      obtain ⟨l', hl', rfl⟩ := List.mem_map.mp hq
      exact (hskips l').mpr (hnone l' hl')

/-! ## Texts cut into words -/

/-- **A word**: a kind of token and its characters. -/
structure Word where
  /-- The kind of token. -/
  lexeme : Lexeme
  /-- The characters. -/
  chars : List Char
  deriving DecidableEq, Repr

/-- **A text is cut into words**, each of which is what is taken where it
begins. -/
inductive Cut : List Char → List Word → Prop where
  /-- The empty text. -/
  | nil : Cut [] []
  /-- A word and then more. -/
  | cons {w : Word} {rest : List Char} {ws : List Word}
      (taken : lexemeAt (w.chars ++ rest) = some (w.lexeme, w.chars.length))
      (tail : Cut rest ws) : Cut (w.chars ++ rest) (w :: ws)

/-- A token spells a word. -/
structure Spells (t : Token) (w : Word) : Prop where
  /-- They are of one kind. -/
  kind : t.kind = w.lexeme.kind
  /-- They have the same characters. -/
  text : t.text.toList = w.chars

theorem cut_spelled {source : String} (before : List Token) {ts : List Token}
    (h : CutByFirstMatch patterns source (before ++ ts)) :
    ∃ ws, Cut (Token.spelled ts) ws ∧ List.Forall₂ Spells ts ws := by
  induction ts generalizing before with
  | nil => exact ⟨[], .nil, .nil⟩
  | cons t ts ih =>
    obtain ⟨hjoin, hoffset⟩ := Lexer.partition_split h.partition
    have hle : t.offset ≤ source.length := by
      rw [← String.length_toList, hjoin, hoffset, List.length_append]
      exact Nat.le_add_right _ _
    obtain ⟨p, hchosen, hkind, -⟩ := h.chosen t (List.mem_append_right before List.mem_cons_self)
    obtain ⟨l, htaken, rfl⟩ := (chooses_iff hle).mp hchosen
    rw [hjoin, hoffset, List.drop_left, Token.length, ← String.length_toList] at htaken
    obtain ⟨ws, hcut, hspells⟩ := ih (before ++ [t]) (by rwa [List.append_assoc])
    refine ⟨⟨l, t.text.toList⟩ :: ws, ?_, .cons ⟨hkind.trans l.kind_pattern, rfl⟩ hspells⟩
    rw [Token.spelled_cons]
    exact .cons (w := ⟨l, t.text.toList⟩) htaken hcut

/-- **The tokens of a text cut it into words.** -/
theorem tokenize_cut {source filename : String} {ts : List Token}
    (h : tokenize patterns source filename = .ok ts) :
    ∃ ws, Cut source.toList ws ∧ List.Forall₂ Spells ts ws := by
  obtain ⟨hstop, rfl⟩ := tokenize_eq_ok_iff.mp h
  have hcut := Lexer.cutByFirstMatch_all hstop
  obtain ⟨ws, hws, hspells⟩ := cut_spelled [] hcut
  rw [← Token.toList_join_text, hcut.partition.join] at hws
  exact ⟨ws, hws, hspells⟩

theorem reads_of_wordCut {source : String} (filename : String) {cs : List Char} {ws : List Word}
    (h : Cut cs ws) (before : List Char) (hsource : source.toList = before ++ cs) :
    ∃ ts, Lexer.Reads (Lexer.onSourceAt patterns source filename before.length) ts
        (Lexer.onSourceAt patterns source filename source.length)
      ∧ (∀ t ∈ ts, t.text ≠ "") ∧ List.Forall₂ Spells ts ws := by
  induction h generalizing before with
  | nil =>
    refine ⟨[], ?_, List.forall_mem_nil _, .nil⟩
    rw [← String.length_toList, hsource, List.append_nil]
    exact .nil _
  | @cons w rest ws taken tail ih =>
    have hle : before.length ≤ source.length := by
      rw [← String.length_toList, hsource, List.length_append]
      exact Nat.le_add_right _ _
    have hdrop : source.toList.drop before.length = w.chars ++ rest := by
      rw [hsource, List.drop_left]
    have hpos : 0 < w.chars.length := Lexeme.reach_pos (reach_of_lexemeAt taken)
    have hnext := Lexer.next_of_chooses filename hle
      ((chooses_iff hle).mpr ⟨w.lexeme, hdrop ▸ taken, rfl⟩) hpos
    obtain ⟨ts, hreads, hnonempty, hspells⟩ :=
      ih (before ++ w.chars) (by rw [hsource, List.append_assoc])
    rw [List.length_append] at hreads
    -- the token that is read has just the characters of the word
    rw [Lexer.tokenOf_onSourceAt hle, hdrop, List.take_left] at hnext
    refine ⟨_ :: ts, .cons hnext hreads, List.forall_mem_cons.mpr ⟨?_, hnonempty⟩,
      .cons ⟨w.lexeme.kind_pattern, String.toList_ofList⟩ hspells⟩
    intro hempty
    have hlength := congrArg String.length hempty
    rw [String.length_ofList] at hlength
    simp only [String.length_empty] at hlength
    omega

/-- **A text that is cut into words is read into tokens** that spell them. -/
theorem exists_tokenize_of_cut {source : String} {ws : List Word} (h : Cut source.toList ws)
    (filename : String) :
    ∃ ts, tokenize patterns source filename = .ok ts ∧ List.Forall₂ Spells ts ws := by
  obtain ⟨ts, hreads, hnonempty, hspells⟩ := reads_of_wordCut filename h [] rfl
  rw [List.length_nil, Lexer.onSourceAt_zero] at hreads
  refine ⟨ts, tokenize_eq_ok_iff.mpr ?_, hspells⟩
  rw [Lexer.all_eq_of_reads_end hreads hnonempty Lexer.next_onSourceAt_length]
  exact ⟨rfl, rfl⟩

/-! ## How words are spelled -/

/-- **The characters are a name.** -/
def IsName : List Char → Prop
  | c :: cs => nameStart.admits c = true ∧ ∀ d ∈ cs, namePart.admits d = true
  | [] => False

theorem admits_plainSet (items : List SetItem) (c : Char) :
    (plainSet items).admits c = items.any fun i => i.covers .exact .unicode c.toNat := by
  show (_ != false) = _
  rw [Bool.bne_false]
  rfl

theorem admits_spaceUnit (c : Char) : spaceUnit.admits c = Text.isSpace c.toNat := by
  rw [spaceUnit, admits_plainSet]
  simp [SetItem.covers, Category.holds]

theorem admits_digitUnit : digitUnit.admits = Numeral.isAnyDigit := by
  funext c
  rw [digitUnit, admits_plainSet]
  simp [SetItem.covers, Category.holds, Numeral.isAnyDigit]

theorem admits_nameStart_iff {c : Char} : nameStart.admits c = true
    ↔ 97 ≤ c.toNat ∧ c.toNat ≤ 122 ∨ 65 ≤ c.toNat ∧ c.toNat ≤ 90 ∨ 95 = c.toNat := by
  rw [nameStart, admits_plainSet]
  simp [SetItem.covers, SetItem.between]

theorem admits_namePart_iff {c : Char} : namePart.admits c = true
    ↔ 97 ≤ c.toNat ∧ c.toNat ≤ 122 ∨ 65 ≤ c.toNat ∧ c.toNat ≤ 90
      ∨ 48 ≤ c.toNat ∧ c.toNat ≤ 57 ∨ 95 = c.toNat := by
  rw [namePart, admits_plainSet]
  simp [SetItem.covers, SetItem.between]

theorem namePart_of_nameStart {c : Char} (h : nameStart.admits c = true) :
    namePart.admits c = true := by
  rw [admits_nameStart_iff] at h
  rw [admits_namePart_iff]
  omega

theorem isWord_of_namePart {c : Char} (h : namePart.admits c = true) :
    Text.isWord c.toNat = true := by
  rw [admits_namePart_iff] at h
  rw [Text.isWord, if_pos (by omega)]
  simp only [Bool.or_eq_true, Bool.and_eq_true, decide_eq_true_eq, beq_iff_eq]
  omega

theorem mnemonicWords_nameStart : ∀ w ∈ mnemonicWords, ∀ c ∈ w, nameStart.admits c = true := by
  have hall : (mnemonicWords.all fun w => w.all nameStart.admits) = true := by decide
  simpa using hall

variable {cs w rest : List Char} {l : Lexeme} {n : Nat}

/-- Before what is taken first, nothing is taken. -/
theorem reach_eq_none_of_lexemeAt {before after : List Lexeme}
    (horder : Lexeme.order = before ++ after) (hl : l ∉ before) (h : lexemeAt cs = some (l, n)) :
    ∀ l' ∈ before, l'.reach cs = none := by
  intro l' hl'
  rw [lexemeAt, horder, List.findSome?_append] at h
  cases hbefore : before.findSome? fun l => (l.reach cs).map fun n => (l, n) with
  | none => exact Option.map_eq_none_iff.mp (List.findSome?_eq_none_iff.mp hbefore l' hl')
  | some taken =>
    rw [hbefore, Option.some_or] at h
    cases h
    obtain ⟨l'', hmem, hl''⟩ := List.exists_of_findSome?_eq_some hbefore
    obtain ⟨m, -, heq⟩ := Option.map_eq_some_iff.mp hl''
    cases heq
    exact absurd hmem hl

theorem mem_mnemonicWords_of_lexemeAt
    (h : lexemeAt (w ++ rest) = some (.instruction, w.length)) : w ∈ mnemonicWords := by
  obtain ⟨m, hm, hlength⟩ := Option.map_eq_some_iff.mp (reach_of_lexemeAt h)
  obtain ⟨hmem, more, hfront, -⟩ := freeWord_eq_some hm
  rwa [(List.append_inj hfront hlength.symm).1]

theorem isNumeral_of_lexemeAt (h : lexemeAt (w ++ rest) = some (.number, w.length)) :
    IsNumeral Numeral.isAnyDigit w := by
  rw [← admits_digitUnit]
  obtain ⟨hrun, hlength⟩ := UnitTest.pointedRun_eq_some (reach_of_lexemeAt h)
  cases hafter : digitUnit.runAfter '.' ((w ++ rest).drop (digitUnit.run (w ++ rest))) with
  | none =>
    rw [hafter, Option.getD_none, Nat.add_zero] at hlength
    refine .whole ?_ ((digitUnit.run_append_eq_iff w rest).mp hlength.symm).1
    rw [← List.length_pos_iff]
    omega
  | some m =>
    obtain ⟨more, hmore, hrun', rfl⟩ := UnitTest.runAfter_eq_some hafter
    obtain ⟨ds, hds, hdigits, hcs⟩ := digitUnit.exists_run (w ++ rest)
    obtain ⟨es, hes, hdigits', hcs'⟩ := digitUnit.exists_run more
    rw [hafter, Option.getD_some, ← hds, ← hes] at hlength
    have hwhole : w ++ rest = (ds ++ '.' :: es) ++ more.drop (digitUnit.run more) := by
      rw [hcs, hmore, List.append_assoc, List.cons_append, ← hcs']
    rw [(List.append_inj hwhole (by simpa using hlength)).1]
    refine .pointed ?_ hdigits ?_ hdigits'
    · rw [← List.length_pos_iff]
      omega
    · rw [← List.length_pos_iff]
      omega

theorem isName_of_lexemeAt (h : lexemeAt (w ++ rest) = some (.ident, w.length)) :
    IsName w ∧ namePart.run rest = 0 := by
  obtain ⟨c, more, hcs, hc, hlength⟩ := headedRun_eq_some (reach_of_lexemeAt h)
  match w, hlength with
  | d :: w, hlength =>
    obtain ⟨rfl, rfl⟩ := List.cons_eq_cons.mp hcs
    obtain ⟨hparts, hrest⟩ := (namePart.run_append_eq_iff w rest).mp (Nat.succ.inj hlength).symm
    exact ⟨⟨hc, hparts⟩, hrest⟩

/-- The kinds that are tried before words and numbers. -/
def signs : List Lexeme := [.whitespace, .comment, .colon, .comma, .percent, .hash]

/-- A word character begins none of them. -/
theorem reach_signs {c : Char} (hc : Text.isWord c.toNat = true) (cs : List Char) :
    ∀ l ∈ signs, l.reach (c :: cs) = none := by
  have hsign : ∀ d : Char, Text.isWord d.toNat = false → signReach d (c :: cs) = none := by
    intro d hd
    rw [signReach, if_neg]
    intro hfront
    obtain ⟨rfl, -⟩ := List.cons_prefix_cons.mp (List.isPrefixOf_iff_prefix.mp hfront)
    exact Bool.false_ne_true (hd.symm.trans hc)
  have hspace : spaceUnit.admits c = false := by
    rw [admits_spaceUnit]
    exact Text.isSpace_of_isWord hc
  have hcomment : semicolon.admits c = false := by
    have hadmits : semicolon.admits c = (';' == c) := admits_one ';' c
    rw [hadmits, beq_eq_false_iff_ne]
    rintro rfl
    exact absurd hc (by decide)
  intro l hl
  simp only [signs, List.mem_cons, List.not_mem_nil, or_false] at hl
  rcases hl with rfl | rfl | rfl | rfl | rfl | rfl
  · rw [Lexeme.reach, UnitTest.someRun, UnitTest.run_cons, hspace]
    rfl
  · rw [Lexeme.reach, headedRun, hcomment]
    rfl
  · exact hsign ':' (by decide)
  · exact hsign ',' (by decide)
  · exact hsign '%' (by decide)
  · exact hsign '#' (by decide)

/-- **A name that is spelled like a mnemonic has a word character after it**, one
that is no part of a name. -/
theorem beginsWord_of_reserved (h : lexemeAt (w ++ rest) = some (.ident, w.length))
    (hreserved : w ∈ mnemonicWords) : beginsWord .unicode rest = true := by
  by_contra hfree
  have horder : Lexeme.order = (signs ++ [.instruction]) ++ [.ident, .number] := rfl
  have hnone := reach_eq_none_of_lexemeAt horder (by decide) h .instruction (by decide)
  rw [Lexeme.reach, Option.map_eq_none_iff, freeWord, List.find?_eq_none] at hnone
  refine hnone w hreserved ?_
  rw [List.drop_left, Bool.eq_false_iff.mpr hfree,
    List.isPrefixOf_iff_prefix.mpr (List.prefix_append _ _)]
  rfl

/-- **A word character that is no part of a name can only begin a number.** -/
theorem eq_number_of_lexemeAt {c : Char} (hc : Text.isWord c.toNat = true)
    (hpart : namePart.admits c = false) (h : lexemeAt (c :: cs) = some (l, n)) : l = .number := by
  have hreach := reach_of_lexemeAt h
  have hsigns : l ∉ signs := fun hl => by
    rw [reach_signs hc cs l hl] at hreach
    cases hreach
  cases l with
  | instruction =>
    obtain ⟨w, hw, -⟩ := Option.map_eq_some_iff.mp hreach
    obtain ⟨hmem, more, hfront, -⟩ := freeWord_eq_some hw
    obtain ⟨d, w, rfl⟩ := List.exists_cons_of_ne_nil (mnemonicWords_spelled w hmem).1
    obtain ⟨rfl, -⟩ := List.cons_eq_cons.mp hfront
    have hadmits := namePart_of_nameStart (mnemonicWords_nameStart _ hmem c List.mem_cons_self)
    exact absurd (hpart.symm.trans hadmits) Bool.false_ne_true
  | ident =>
    have hheaded : headedRun nameStart namePart (c :: cs) = some n := hreach
    obtain ⟨d, more, heq, hd, -⟩ := headedRun_eq_some hheaded
    obtain ⟨rfl, -⟩ := List.cons_eq_cons.mp heq
    exact absurd (hpart.symm.trans (namePart_of_nameStart hd)) Bool.false_ne_true
  | number => rfl
  | whitespace => exact absurd (by decide) hsigns
  | comment => exact absurd (by decide) hsigns
  | colon => exact absurd (by decide) hsigns
  | comma => exact absurd (by decide) hsigns
  | percent => exact absurd (by decide) hsigns
  | hash => exact absurd (by decide) hsigns

/-- **After a name that is spelled like a mnemonic there is a number.** -/
theorem Cut.number_of_reserved {v : Word} {ws : List Word} (h : Cut cs (v :: ws))
    (hident : v.lexeme = .ident) (hreserved : v.chars ∈ mnemonicWords) :
    ∃ v' ws', ws = v' :: ws' ∧ v'.lexeme = .number := by
  cases h with
  | @cons _ rest _ taken tail =>
    rw [hident] at taken
    have hbegins := beginsWord_of_reserved taken hreserved
    obtain ⟨-, hstop⟩ := isName_of_lexemeAt taken
    cases tail with
    | nil => cases hbegins
    | @cons v' rest' ws' taken' tail' =>
      refine ⟨v', ws', rfl, ?_⟩
      match hchars : v'.chars ++ rest' with
      | [] =>
        rw [hchars] at hbegins
        cases hbegins
      | c :: more =>
        rw [hchars] at hbegins hstop taken'
        have hpart := (namePart.run_eq_zero_iff _).mp hstop c more rfl
        exact eq_number_of_lexemeAt hbegins hpart taken'

/-! ## Words where they stand -/

/-- What is taken is taken first if nothing before it is. -/
theorem lexemeAt_eq (before after : List Lexeme) (horder : Lexeme.order = before ++ l :: after)
    (hbefore : ∀ l' ∈ before, l'.reach cs = none) (h : l.reach cs = some n) :
    lexemeAt cs = some (l, n) := by
  refine List.findSome?_eq_some_iff.mpr ⟨before, l, after, horder, ?_, fun l' hl' => ?_⟩
  · rw [h, Option.map_some]
  · rw [hbefore l' hl', Option.map_none]

/-- **Spaces are one word**, up to what is none. -/
theorem lexemeAt_spaces (hw : w ≠ []) (hspaces : ∀ c ∈ w, spaceUnit.admits c = true)
    (hrest : spaceUnit.run rest = 0) : lexemeAt (w ++ rest) = some (.whitespace, w.length) := by
  have hrun := (spaceUnit.run_append_eq_iff w rest).mpr ⟨hspaces, hrest⟩
  refine lexemeAt_eq [] _ rfl (List.forall_mem_nil _) ?_
  rw [Lexeme.reach, UnitTest.someRun, hrun, if_neg]
  rwa [List.length_eq_zero_iff]

theorem lexemeAt_colon (rest : List Char) : lexemeAt (':' :: rest) = some (.colon, 1) := rfl

theorem lexemeAt_comma (rest : List Char) : lexemeAt (',' :: rest) = some (.comma, 1) := rfl

theorem lexemeAt_percent (rest : List Char) : lexemeAt ('%' :: rest) = some (.percent, 1) := rfl

theorem lexemeAt_hash (rest : List Char) : lexemeAt ('#' :: rest) = some (.hash, 1) := rfl

/-- A word by itself is the longest run of word characters. -/
theorem takeWhile_isWord (hw : ∀ c ∈ w, Text.isWord c.toNat = true)
    (hrest : beginsWord .unicode rest = false) :
    ((w ++ rest).takeWhile fun c => Text.isWord c.toNat) = w := by
  rw [List.takeWhile_append_of_pos hw]
  cases rest with
  | nil => rw [List.takeWhile_nil, List.append_nil]
  | cons c rest =>
    have hc : ¬ Text.isWord c.toNat = true := Bool.eq_false_iff.mp hrest
    rw [List.takeWhile_cons, if_neg hc, List.append_nil]

/-- **Where two words stand by themselves, they are one.** -/
theorem eq_of_free {w' rest' : List Char} (h : w ++ rest = w' ++ rest')
    (hw : ∀ c ∈ w, Text.isWord c.toNat = true) (hrest : beginsWord .unicode rest = false)
    (hw' : ∀ c ∈ w', Text.isWord c.toNat = true) (hrest' : beginsWord .unicode rest' = false) :
    w = w' := by
  rw [← takeWhile_isWord hw hrest, h, takeWhile_isWord hw' hrest']

/-- A mnemonic by itself is found. -/
theorem freeWord_mnemonic (hw : w ∈ mnemonicWords) (hrest : beginsWord .unicode rest = false) :
    freeWord .unicode mnemonicWords (w ++ rest) = some w := by
  cases hfound : freeWord .unicode mnemonicWords (w ++ rest) with
  | none =>
    rw [freeWord, List.find?_eq_none] at hfound
    refine absurd ?_ (hfound w hw)
    rw [List.drop_left, hrest, List.isPrefixOf_iff_prefix.mpr (List.prefix_append _ _)]
    rfl
  | some w' =>
    obtain ⟨hw', rest', hfront, hrest'⟩ := freeWord_eq_some hfound
    rw [eq_of_free hfront (mnemonicWords_spelled w hw).2 hrest (mnemonicWords_spelled w' hw').2
      hrest']

/-- **A mnemonic by itself is an instruction.** -/
theorem lexemeAt_mnemonic (hw : w ∈ mnemonicWords) (hrest : beginsWord .unicode rest = false) :
    lexemeAt (w ++ rest) = some (.instruction, w.length) := by
  have hsigns : ∀ l ∈ signs, l.reach (w ++ rest) = none := by
    obtain ⟨hne, hchars⟩ := mnemonicWords_spelled w hw
    obtain ⟨c, w, rfl⟩ := List.exists_cons_of_ne_nil hne
    exact reach_signs (hchars c List.mem_cons_self) _
  refine lexemeAt_eq signs [.ident, .number] rfl hsigns ?_
  rw [Lexeme.reach, freeWord_mnemonic hw hrest]
  rfl

theorem IsName.ne_nil (h : IsName w) : w ≠ [] := by
  rintro rfl
  exact h

theorem IsName.isWord (h : IsName w) : ∀ c ∈ w, Text.isWord c.toNat = true := by
  cases w with
  | nil => exact List.forall_mem_nil _
  | cons c w =>
    refine List.forall_mem_cons.mpr ⟨isWord_of_namePart (namePart_of_nameStart h.1), fun d hd => ?_⟩
    exact isWord_of_namePart (h.2 d hd)

/-- **A name by itself is a name**, unless it is a mnemonic. -/
theorem lexemeAt_name (hw : IsName w) (hfree : w ∉ mnemonicWords)
    (hrest : beginsWord .unicode rest = false) :
    lexemeAt (w ++ rest) = some (.ident, w.length) := by
  have hnoWord : freeWord .unicode mnemonicWords (w ++ rest) = none := by
    cases hfound : freeWord .unicode mnemonicWords (w ++ rest) with
    | none => rfl
    | some w' =>
      obtain ⟨hw', rest', hfront, hrest'⟩ := freeWord_eq_some hfound
      have heq := eq_of_free hfront hw.isWord hrest (mnemonicWords_spelled w' hw').2 hrest'
      exact absurd (heq ▸ hw') hfree
  match w, hw with
  | c :: w, hw =>
    have hsigns : ∀ l ∈ signs, l.reach (c :: w ++ rest) = none :=
      reach_signs (hw.isWord c List.mem_cons_self) _
    have hstop : namePart.run rest = 0 := by
      rw [UnitTest.run_eq_zero_iff]
      rintro d more rfl
      by_contra hd
      have hword := isWord_of_namePart (Bool.of_not_eq_false hd)
      exact Bool.false_ne_true (hrest.symm.trans hword)
    refine lexemeAt_eq (signs ++ [.instruction]) [.number] rfl ?_ ?_
    · refine List.forall_mem_append.mpr ⟨hsigns, List.forall_mem_singleton.mpr ?_⟩
      rw [Lexeme.reach, hnoWord]
      rfl
    · rw [Lexeme.reach, List.cons_append, headedRun, if_pos hw.1,
        (namePart.run_append_eq_iff w rest).mpr ⟨hw.2, hstop⟩]
      rfl

/-- The next character ends a numeral: it is neither a digit nor a point. -/
def EndsNumeral (cs : List Char) : Prop :=
  digitUnit.run cs = 0 ∧ digitUnit.runAfter '.' cs = none

/-- A digit begins no word of letters. -/
theorem reach_words_digit {c : Char} (hc : Numeral.isDigit c = true) (cs : List Char) :
    ∀ l ∈ signs ++ [.instruction, .ident], l.reach (c :: cs) = none := by
  have hrange := Numeral.isDigit_iff.mp hc
  have hword : Text.isWord c.toNat = true :=
    isWord_of_namePart (admits_namePart_iff.mpr (by omega))
  have hstart : ¬ nameStart.admits c = true := fun h => by
    have := admits_nameStart_iff.mp h
    omega
  rw [List.forall_mem_append, List.forall_mem_cons, List.forall_mem_singleton]
  refine ⟨reach_signs hword cs, ?_, ?_⟩
  · rw [Lexeme.reach, Option.map_eq_none_iff]
    cases hfound : freeWord .unicode mnemonicWords (c :: cs) with
    | none => rfl
    | some w =>
      obtain ⟨hw, rest, hfront, -⟩ := freeWord_eq_some hfound
      obtain ⟨d, w, rfl⟩ := List.exists_cons_of_ne_nil (mnemonicWords_spelled w hw).1
      obtain ⟨rfl, -⟩ := List.cons_eq_cons.mp hfront
      exact absurd (mnemonicWords_nameStart _ hw c List.mem_cons_self) hstart
  · rw [Lexeme.reach, headedRun, if_neg hstart]

/-- A numeral of plain digits is taken as a whole. -/
theorem reach_numeral (hw : IsNumeral Numeral.isDigit w) (hrest : EndsNumeral rest) :
    Lexeme.number.reach (w ++ rest) = some w.length := by
  obtain ⟨hrun, hafter⟩ := hrest
  have hdigits : ∀ {ds : List Char}, (∀ c ∈ ds, Numeral.isDigit c = true) →
      ∀ c ∈ ds, digitUnit.admits c = true :=
    fun h c hc => admits_digitUnit ▸ Numeral.isAnyDigit_of_isDigit (h c hc)
  rw [Lexeme.reach, UnitTest.pointedRun]
  cases hw with
  | whole hds hw =>
    rw [(digitUnit.run_append_eq_iff w rest).mpr ⟨hdigits hw, hrun⟩,
      if_neg (mt List.length_eq_zero_iff.mp hds), List.drop_left, hafter]
    rfl
  | @pointed ds es hds hw hes hmore =>
    have hpoint : digitUnit.run ('.' :: (es ++ rest)) = 0 := by
      rw [UnitTest.run_cons, if_neg (by decide)]
    rw [List.append_assoc, List.cons_append,
      (digitUnit.run_append_eq_iff ds _).mpr ⟨hdigits hw, hpoint⟩,
      if_neg (mt List.length_eq_zero_iff.mp hds), List.drop_left, UnitTest.runAfter,
      (digitUnit.run_append_eq_iff es rest).mpr ⟨hdigits hmore, hrun⟩,
      if_pos ⟨rfl, mt List.length_eq_zero_iff.mp hes⟩, List.length_append, List.length_cons]
    rfl

/-- **A numeral of plain digits by itself is a number.** -/
theorem lexemeAt_numeral (hw : IsNumeral Numeral.isDigit w) (hrest : EndsNumeral rest) :
    lexemeAt (w ++ rest) = some (.number, w.length) := by
  obtain ⟨c, more, rfl, hc⟩ := hw.exists_head
  refine lexemeAt_eq (signs ++ [.instruction, .ident]) [] rfl ?_ (reach_numeral hw hrest)
  exact reach_words_digit hc (more ++ rest)

end Pasm

end ParseKit

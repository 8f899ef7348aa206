import ParseKit.Proofs.Lexing.Reading
import Mathlib.Tactic.IntervalCases

/-!
# The tokens of a source are the source cut into pieces

A source is read with three counts going on at once: characters, which
patterns are tried at; bytes, which expressions over bytes are tried at and
spans are made of; and lines with columns. The pieces that patterns cut off
are measured in characters, also by the expressions over bytes, whose
matches are first turned back into text. `tokenize_partition` says that
none of this can drift apart: the tokens of a source, if reading it ends,
are non-empty, spell the source, and have offsets and spans that join
without a gap and cut the bytes of the source where the characters are cut.

Reading ends, with tokens or with an error, as long as expressions behave:
a match that is tried at a position has a result, which does not lie before
the position nor beyond the end (`Pattern.EndsWithin`). Both halves of this
are assumptions. A group that a possessive repetition leaves tangled, as in
`((b)|a)++`, has no result: the engine refuses the match. And an expression
that looks behind possessively may end too early, and then the same empty
piece would be cut off for ever.
-/

namespace ParseKit

/-! ## Expressions that end where they may -/

/-- **An expression reports ends within a subject**: tried at any position of
it, it has a result – a match or none, and not a refusal because of tangled
groups – and a match ends between the position and the end. -/
def Regex.EndsWithin (r : Regex) (s : Subject) : Prop :=
  ∀ pos ≤ s.size, ∃ found, r.matchEnd s pos = .ok found ∧ ∀ stop ∈ found, pos ≤ stop ∧ stop ≤ s.size

/-- **A pattern reports ends within a source.** This asks something of its
expression only, on the characters or on the bytes: that it answers at every
position, and that no answer lies outside. -/
def Pattern.EndsWithin (p : Pattern) (source : Source) : Prop :=
  match p.matcher with
  | .text _ r => r.EndsWithin (.ofChars source.chars)
  | .bytes _ r => r.EndsWithin (.ofBytes source.bytes)
  | _ => True

/-- What such a pattern takes is a number of characters, and none is taken
away. -/
theorem Pattern.takes_nonneg {p : Pattern} {source : Source} (h : p.EndsWithin source)
    {pos bytePos : Nat} (hpos : pos ≤ source.size) (hbyte : bytePos ≤ source.bytes.size) :
    ∃ n, takes p.matcher source.chars pos (some ⟨source.bytes, bytePos⟩) = .ok n ∧ 0 ≤ n := by
  unfold Pattern.EndsWithin at h
  cases hm : p.matcher with
  | literal text =>
    refine ⟨_, rfl, ?_⟩
    split
    · exact Int.natCast_nonneg _
    · exact Int.le_refl 0
  | range low high => exact ⟨_, rfl, Int.natCast_nonneg _⟩
  | text source' r =>
    rw [hm] at h
    obtain ⟨found, hfound, hstop⟩ := h pos hpos
    refine ⟨_, by
      show (r.matchEnd (.ofChars source.chars) pos).map _ = _
      rw [hfound]
      rfl, ?_⟩
    cases found with
    | none => exact Int.le_refl 0
    | some stop =>
      have := (hstop stop rfl).1
      show 0 ≤ (stop : Int) - pos
      omega
  | bytes source' r =>
    rw [hm] at h
    obtain ⟨found, hfound, -⟩ := h bytePos hbyte
    refine ⟨_, by
      show ((r.matchEnd (.ofBytes source.bytes) bytePos).map _).map _ = _
      rw [hfound]
      rfl, Int.natCast_nonneg _⟩

/-- Such a pattern, tried before the end, matches some characters or none. -/
theorem Pattern.matchLength_pos {p : Pattern} {source : Source} (h : p.EndsWithin source)
    {pos bytePos : Nat} (hpos : pos < source.size) (hbyte : bytePos ≤ source.bytes.size) :
    ∃ found, p.matchLength source.chars pos (some ⟨source.bytes, bytePos⟩) = .ok found
      ∧ ∀ n ∈ found, 0 < n := by
  obtain ⟨n, htakes, hn⟩ := Pattern.takes_nonneg h (Nat.le_of_lt hpos) hbyte
  unfold matchLength
  rw [if_neg (show ¬ source.chars.size ≤ pos from Nat.not_le.mpr hpos), htakes]
  refine ⟨_, rfl, fun m hm => ?_⟩
  by_cases hzero : n = 0
  · simp [hzero] at hm
  · simp only [beq_iff_eq, hzero, ite_false, Option.mem_some_iff] at hm
    omega

namespace Lexer

/-- **The first match takes a character at least**, where patterns report
ends within the source. -/
theorem firstMatch_pos {l : Lexer} (hpos : l.cursor.pos < l.source.size)
    (hbyte : l.cursor.bytePos ≤ l.source.bytes.size) {ps : List Pattern}
    (h : ∀ p ∈ ps, p.EndsWithin l.source) :
    ∃ found, l.firstMatch ps = .ok found ∧ ∀ m ∈ found, 0 < m.2 := by
  induction ps with
  | nil => exact ⟨none, rfl, fun m hm => by cases hm⟩
  | cons p ps ih =>
    obtain ⟨found, hfound, hn⟩ := Pattern.matchLength_pos (h p List.mem_cons_self) hpos hbyte
    have hlength : l.lengthOf p = .ok found := hfound
    unfold firstMatch
    rw [hlength]
    cases found with
    | none => exact ih fun q hq => h q (List.mem_cons_of_mem p hq)
    | some n =>
      refine ⟨some (p, n.toNat), rfl, fun m hm => ?_⟩
      cases hm
      have := hn n rfl
      show 0 < n.toNat
      omega

/-- The cursor of an aligned lexer stands in the bytes of its source. -/
theorem Aligned.bytePos_le {l : Lexer} (h : l.Aligned) {source : String}
    (hsource : l.source = .ofString source) : l.cursor.bytePos ≤ l.source.bytes.size := by
  have htext : l.text = source.toList := by rw [text, hsource]; rfl
  have hbytes : l.source.bytes.size = Text.byteLength l.text := by
    rw [htext, ← Text.size_encode, Text.encode, String.ofList_toList, hsource]
    rfl
  have hsplit : l.text = l.before ++ l.text.drop l.cursor.pos :=
    (List.take_append_drop _ _).symm
  rw [h.bytePos, hbytes, hsplit, Text.byteLength_append]
  exact Nat.le_add_right _ _

/-! ## Draining -/

/-- What is left to read, by the text of the source. -/
theorem left_eq (l : Lexer) : l.left = l.text.length - l.cursor.pos := rfl

/-- A token leaves less to read, by its length. -/
theorem left_of_next {l l' : Lexer} {t : Token} (h : l.next = .ok (some (t, l'))) :
    l'.left = l.left - t.text.length := by
  obtain ⟨p, n, -, -, rfl, rfl⟩ := next_eq_token h
  have hlength : (l.tokenOf p n).text.length = (l.source.slice l.cursor.pos n).length :=
    String.length_ofList
  rw [hlength, left_eq, left_eq, text_advance]
  show l.text.length - (l.cursor.pos + _) = _
  omega

/-- Draining keeps tokens with characters only. -/
theorem nonempty_of_mem_drain {fuel : Nat} {l : Lexer} {t : Token}
    (h : t ∈ (drain fuel l).tokens) : t.text ≠ "" := by
  induction fuel generalizing l with
  | zero => cases h
  | succ fuel ih =>
    unfold drain at h
    split at h
    · cases h
    · cases h
    · split at h
      · cases h
      · rename_i hempty
        rcases List.mem_cons.mp h with rfl | h
        · exact fun hnil => hempty (String.isEmpty_iff.mpr hnil)
        · exact ih h

/-- **Draining that is not stopped reads to the end.** -/
theorem drain_atEnd {fuel : Nat} {l : Lexer} (hfuel : l.left ≤ fuel)
    (h : (drain fuel l).stop = none) :
    (drain fuel l).lexer.text.length ≤ (drain fuel l).lexer.cursor.pos := by
  induction fuel generalizing l with
  | zero =>
    show l.text.length ≤ l.cursor.pos
    rw [left_eq] at hfuel
    omega
  | succ fuel ih =>
    unfold drain at h ⊢
    split at h
    · cases h
    · rename_i hnext
      exact (next_eq_none_iff l).mp hnext
    · rename_i t l' hnext
      split at h
      · cases h
      · rename_i hempty
        rw [if_neg hempty]
        refine ih ?_ h
        -- a token with a character leaves less than there was
        have hpos : 0 < t.text.length := by
          rw [Nat.pos_iff_ne_zero, ne_eq, String.length_eq_zero_iff, ← String.isEmpty_iff]
          exact hempty
        rw [left_of_next hnext]
        omega

/-- **The next token has characters**, if it is not the end or an error,
where patterns report ends within the source. -/
theorem next_cases {l : Lexer} {source : String} (hl : l.Aligned)
    (hsource : l.source = .ofString source) (h : ∀ p ∈ l.patterns, p.EndsWithin l.source) :
    l.next = .ok none ∨ (∃ e, l.next = .error (.error e))
      ∨ ∃ p n, l.next = .ok (some (l.tokenOf p n, l.advance n)) ∧ (l.tokenOf p n).text ≠ "" := by
  cases hc : l.source.chars[l.cursor.pos]? with
  | none => exact Or.inl (by unfold next; rw [hc])
  | some c =>
    have hpos : l.cursor.pos < l.source.size := (Array.getElem?_eq_some_iff.mp hc).1
    obtain ⟨found, hfound, hn⟩ := firstMatch_pos hpos (hl.bytePos_le hsource) h
    cases found with
    | none => exact Or.inr (Or.inl ⟨l.errorAt c, by unfold next; rw [hc, hfound]⟩)
    | some m =>
      refine Or.inr (Or.inr ⟨m.1, m.2, by unfold next; rw [hc, hfound], fun hempty => ?_⟩)
      -- the first match takes a character, and there is one
      have hslice : l.source.slice l.cursor.pos m.2 = [] := by
        simpa [tokenOf] using congrArg String.toList hempty
      have hlength := congrArg List.length hslice
      rw [slice_source, List.length_take, List.length_drop, List.length_nil] at hlength
      have hm := hn m rfl
      have hlt : l.cursor.pos < l.text.length := hpos
      omega

/-- **Draining stops at the end or at an error**, where patterns report ends
within the source. -/
theorem drain_stop (fuel : Nat) {l : Lexer} {source : String} (hl : l.Aligned)
    (hsource : l.source = .ofString source) (h : ∀ p ∈ l.patterns, p.EndsWithin l.source) :
    (drain fuel l).stop = none ∨ ∃ e, (drain fuel l).stop = some (.error e) := by
  induction fuel generalizing l with
  | zero => exact Or.inl rfl
  | succ fuel ih =>
    unfold drain
    rcases next_cases hl hsource h with hnext | ⟨e, hnext⟩ | ⟨p, n, hnext, htext⟩
    · rw [hnext]
      exact Or.inl rfl
    · rw [hnext]
      exact Or.inr ⟨e, rfl⟩
    · rw [hnext]
      have hempty : ¬ (l.tokenOf p n).text.isEmpty = true :=
        fun hc => htext (String.isEmpty_iff.mp hc)
      simp only [hempty, Bool.false_eq_true, ite_false]
      exact ih (hl.advance n) hsource h

end Lexer

/-! ## The pieces -/

/-- **The tokens are the source cut into pieces**: what their texts, offsets
and spans say of the source and of one another. -/
structure Partition (source : String) (ts : List Token) : Prop where
  /-- Every piece has a character. -/
  nonempty : ∀ t ∈ ts, t.text ≠ ""
  /-- The pieces spell the source. -/
  join : String.join (ts.map Token.text) = source
  /-- The offset of a piece is the number of characters of those before it. -/
  offset : ∀ (i : Nat) (h : i < ts.length), ts[i].offset = ((ts.take i).map Token.length).sum
  /-- The first span starts at zero. -/
  span_start : ∀ t, ts.head? = some t → t.span.start = 0
  /-- A span ends where the next one starts. -/
  span_next : ∀ (i : Nat) (h : i + 1 < ts.length), ts[i].span.stop = ts[i + 1].span.start
  /-- The last span ends with the bytes of the source. -/
  span_stop : ∀ t, ts.getLast? = some t → t.span.stop = source.toUTF8.size
  /-- A piece is spelt by the bytes of its span. -/
  bytes : ∀ t ∈ ts, ∃ a b : Nat, t.span = ⟨a, b⟩ ∧ t.text.toUTF8 = source.toUTF8.extract a b

theorem Token.toList_join_text (ts : List Token) :
    (String.join (ts.map Token.text)).toList = spelled ts := by
  rw [String.toList_join, List.flatMap_map]
  rfl

/-- The number of characters that tokens spell. -/
theorem Token.length_spelled (ts : List Token) :
    (spelled ts).length = (ts.map Token.length).sum := by
  rw [spelled, List.length_flatMap]
  exact congrArg List.sum (List.map_congr_left fun t _ => String.length_toList)

/-- **Tokens that are each cut after those before them, and spell the source,
are the source cut into pieces.** -/
theorem partition_of_cutAfter {source : String} {ts : List Token}
    (hne : ∀ t ∈ ts, t.text ≠ "") (hjoin : Token.spelled ts = source.toList)
    (hcut : ∀ a t b, ts = a ++ t :: b → t.CutAfter (Token.spelled a)) :
    Partition source ts := by
  have hat : ∀ (i : Nat) (h : i < ts.length), ts[i].CutAfter (Token.spelled (ts.take i)) :=
    fun i h => hcut _ _ (ts.drop (i + 1)) (by
      rw [← List.drop_eq_getElem_cons h, List.take_append_drop])
  have hsize : Text.byteLength (Token.spelled ts) = source.toUTF8.size := by
    rw [hjoin, ← Text.size_encode, Text.encode, String.ofList_toList]
  refine ⟨hne, ?_, fun i h => ?_, fun t h => ?_, fun i h => ?_, fun t h => ?_, fun t h => ?_⟩
  · exact String.toList_injective ((Token.toList_join_text ts).trans hjoin)
  · rw [(hat i h).offset, Token.length_spelled]
  · obtain ⟨rest, rfl⟩ := List.head?_eq_some_iff.mp h
    rw [(hcut [] t rest rfl).span]
    rfl
  · -- what stands before the next token is what stands before this one, and this one
    rw [(hat i (Nat.lt_of_succ_lt h)).span, (hat (i + 1) h).span, List.take_succ_eq_append_getElem
      (Nat.lt_of_succ_lt h), Token.spelled_append]
    simp [Token.spelled]
  · obtain ⟨rest, rfl⟩ := List.getLast?_eq_some_iff.mp h
    rw [(hcut rest t [] rfl).span, ← hsize, Token.spelled_append]
    simp [Token.spelled]
  · obtain ⟨a, b, rfl⟩ := List.append_of_mem h
    refine ⟨_, _, (hcut a t b rfl).span, ?_⟩
    have hsource : source.toUTF8
        = Text.encode (Token.spelled a ++ t.text.toList ++ Token.spelled b) := by
      rw [List.append_assoc, ← Token.spelled_cons, ← Token.spelled_append, hjoin, Text.encode,
        String.ofList_toList]
    rw [hsource, Text.extract_encode, Text.encode, String.ofList_toList]

namespace Lexer

/-- **What draining a source gives is the source cut into pieces**, if it is
not stopped. -/
theorem partition_all (l : Lexer) (source : String) (h : ((l.start source).all).stop = none) :
    Partition source (l.start source).all.tokens := by
  have hreads := reads_drain (l.start source).left (l.start source)
  have haligned := aligned_start l source
  obtain ⟨-, htext, hbefore⟩ := hreads.aligned haligned
  have hend := drain_atEnd (Nat.le_refl _) h
  refine partition_of_cutAfter (fun t ht => nonempty_of_mem_drain ht) ?_ (fun a t b hts => ?_)
  · rw [before, List.take_of_length_le hend, htext] at hbefore
    exact hbefore.symm
  · rw [show (drain _ (l.start source)).tokens = a ++ t :: b from hts] at hreads
    exact hreads.cutAfter haligned

end Lexer

/-- **Nothing of a source is lost, doubled or moved by reading it.** Tokens,
if reading gives any, are the source cut into pieces; and where patterns
report ends within the source, reading gives tokens or an error. -/
theorem tokenize_partition (patterns : List Pattern) (source filename : String) :
    (∀ ts, tokenize patterns source filename = .ok ts → Partition source ts)
      ∧ ((∀ p ∈ patterns, p.EndsWithin (.ofString source)) →
        (∃ ts, tokenize patterns source filename = .ok ts)
          ∨ ∃ e, tokenize patterns source filename = .error (.error e)) := by
  have hresult : tokenize patterns source filename
      = ((Lexer.mk patterns filename .empty .start).start source).all.result := rfl
  rw [hresult]
  refine ⟨fun ts h => ?_, fun h => ?_⟩
  · unfold Lexer.Run.result at h
    split at h
    · cases h
    · rename_i hstop
      cases h
      exact Lexer.partition_all _ source hstop
  · unfold Lexer.Run.result
    have haligned := Lexer.aligned_start (.mk patterns filename .empty .start) source
    rcases Lexer.drain_stop _ haligned rfl h with hstop | ⟨e, hstop⟩
    · exact Or.inl ⟨_, by rw [Lexer.all, hstop]⟩
    · exact Or.inr ⟨e, by rw [Lexer.all, hstop]⟩

/-- A table with a matcher of each sort. -/
def mixedPatterns : List Pattern :=
  [ ⟨"sign", 0, .literal ":"⟩,
    ⟨"greek", 1, .range 'α' 'ω'⟩,
    ⟨"accent", 2, .text "é+" (Regex.oneOrMore (.one 0xE9 false .exact))⟩,
    ⟨"euro", 3, .bytes "€".toUTF8 (Regex.ofChars ['\xE2', '\x82', '\xAC'])⟩ ]

theorem mixedPatterns_endsWithin :
    ∀ p ∈ mixedPatterns, p.EndsWithin (.ofString "éé€:αω") := by
  intro p hp
  simp only [mixedPatterns, List.mem_cons, List.not_mem_nil, or_false] at hp
  rcases hp with rfl | rfl | rfl | rfl
  · trivial
  · trivial
  · intro pos hpos
    have hsize : pos ≤ 6 := hpos
    interval_cases pos <;> exact ⟨_, rfl, by decide⟩
  · intro pos hpos
    have hsize : pos ≤ 12 := hpos
    interval_cases pos <;> exact ⟨_, rfl, by decide⟩

/-- Reading four tokens of different sorts, over six characters and twelve
bytes. -/
theorem tokenize_partition_mixed :
    (∀ p ∈ mixedPatterns, p.EndsWithin (.ofString "éé€:αω"))
      ∧ ∃ ts, tokenize mixedPatterns "éé€:αω" = .ok ts ∧ ts.length = 4 ∧ Partition "éé€:αω" ts := by
  refine ⟨mixedPatterns_endsWithin, ?_⟩
  obtain ⟨hpartition, hends⟩ := tokenize_partition mixedPatterns "éé€:αω" unnamedSource
  have hlength : (tokenize mixedPatterns "éé€:αω").map List.length = .ok 4 := by decide +kernel
  rcases hends mixedPatterns_endsWithin with ⟨ts, h⟩ | ⟨e, h⟩
  · rw [h] at hlength
    exact ⟨ts, h, Except.ok.inj hlength, hpartition ts h⟩
  · rw [h] at hlength
    cases hlength

end ParseKit

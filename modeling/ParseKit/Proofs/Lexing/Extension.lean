import ParseKit.Proofs.Lexing.SideBySide

/-!
# More patterns at the end of a table

Patterns are tried in order, so that patterns at the end of a table are tried
only where all others have failed. A table that is **extended** by more
patterns reads what it has read before, token by token, and differs at
the earliest where the shorter table comes to an error
(`tokenize_append_conservative`).

There is a way in which the patterns at the end could be felt earlier. The bytes
of a source are of no use to a table without an expression over bytes, and a
lexer may leave them out then; a first such expression brings them back.
`Lexer.onDemand` is the lexer that does so, and no lexer is read in another
way for it.
-/

namespace ParseKit

namespace Lexer

variable {l l' : Lexer} {t : Token} {ts : List Token}

/-! ## The first match among more -/

/-- The lexer with more patterns at the end. -/
def extend (l : Lexer) (more : List Pattern) : Lexer := { l with patterns := l.patterns ++ more }

/-- **A first match stays the first** when more patterns follow. -/
theorem firstMatch_append {ps : List Pattern} {m : Pattern × Nat}
    (h : l.firstMatch ps = .ok (some m)) (more : List Pattern) :
    l.firstMatch (ps ++ more) = .ok (some m) := by
  obtain ⟨p, k⟩ := m
  obtain ⟨n, rfl, hp, earlier, later, rfl, hearlier⟩ := firstMatch_eq_some h
  rw [List.append_assoc, List.cons_append]
  exact firstMatch_of_first hp hearlier (later ++ more)

/-- **A next token stays the next one.** -/
theorem next_extend (h : l.next = .ok (some (t, l'))) (more : List Pattern) :
    (l.extend more).next = .ok (some (t, l'.extend more)) := by
  obtain ⟨p, n, hpos, hfirst, rfl, rfl⟩ := next_eq_token h
  have hmore : (l.extend more).firstMatch (l.extend more).patterns = .ok (some (p, n)) := by
    have hsame : (l.extend more).firstMatch (l.patterns ++ more)
        = l.firstMatch (l.patterns ++ more) := firstMatch_congr fun p _ => rfl
    exact hsame.trans (firstMatch_append hfirst more)
  have hchar : (l.extend more).source.chars[(l.extend more).cursor.pos]?
      = some (l.text[l.cursor.pos]) := by
    rw [chars_getElem?]
    exact List.getElem?_eq_getElem hpos
  unfold next
  rw [hchar, hmore]
  rfl

/-- **A reading stays one.** -/
theorem Reads.extend (h : Reads l ts l') (more : List Pattern) :
    Reads (l.extend more) ts (l'.extend more) := by
  induction h with
  | nil l => exact .nil _
  | cons first rest ih => exact .cons (next_extend first more) ih

/-! ## As many tokens -/

/-- **As many tokens as a reading has are taken just by it.** -/
theorem Reads.take_length (h : Reads l ts l') : take ts.length l = ⟨ts, none, l'⟩ := by
  induction h with
  | nil l => rfl
  | cons first rest ih =>
    rw [List.length_cons, Lexer.take, first]
    dsimp only
    rw [ih]
    rfl

/-- A reading does not go back. -/
theorem Reads.pos_le (h : Reads l ts l') : l.cursor.pos ≤ l'.cursor.pos := by
  induction h with
  | nil l => exact Nat.le_refl _
  | cons first rest ih =>
    obtain ⟨p, n, -, -, -, rfl⟩ := next_eq_token first
    exact Nat.le_trans (Nat.le_add_right _ _) ih

/-- **Draining goes on from a reading**, and so has its tokens first and ends no earlier. -/
theorem Reads.all_from (h : Reads l ts l') (hts : ∀ t ∈ ts, t.text ≠ "") :
    ts <+: l.all.tokens ∧ l'.cursor.pos ≤ l.all.lexer.cursor.pos := by
  obtain ⟨fuel, -, hall⟩ := all_of_reads h hts
  rw [hall]
  exact ⟨List.prefix_append _ _, (reads_drain fuel l').pos_le⟩

/-! ## Bytes on demand -/

end Lexer

/-- **Whether a pattern reads the bytes of a source.** -/
def Pattern.readsBytes (p : Pattern) : Bool :=
  match p.matcher with
  | .bytes .. => true
  | _ => false

/-- A pattern that does not read bytes takes the same whatever bytes there are. -/
theorem Pattern.takes_of_not_readsBytes {p : Pattern} (hp : p.readsBytes = false)
    (chars : Array Char) (pos : Nat) (view view' : Option ByteView) :
    takes p.matcher chars pos view = takes p.matcher chars pos view' := by
  unfold readsBytes at hp
  cases hm : p.matcher with
  | literal text => rfl
  | range low high => rfl
  | text source r => rfl
  | bytes source r =>
    rw [hm] at hp
    cases hp

namespace Lexer

/-- **The lexer with the bytes of its source just if a pattern reads them**, and with
none otherwise. -/
def onDemand (l : Lexer) : Lexer :=
  { l with source :=
      ⟨l.source.chars, if l.patterns.any Pattern.readsBytes then l.source.bytes else .empty⟩ }

theorem lengthOf_onDemand (l : Lexer) {p : Pattern} (hp : p ∈ l.patterns) :
    l.onDemand.lengthOf p = l.lengthOf p := by
  by_cases hbytes : p.readsBytes = true
  · have hany : l.patterns.any Pattern.readsBytes = true := List.any_eq_true.mpr ⟨p, hp, hbytes⟩
    have hsame : l.onDemand = l := by
      unfold onDemand
      rw [if_pos hany]
    rw [hsame]
  · have htakes := Pattern.takes_of_not_readsBytes (Bool.eq_false_iff.mpr hbytes) l.source.chars
      l.cursor.pos (some ⟨l.onDemand.source.bytes, l.cursor.bytePos⟩)
      (some ⟨l.source.bytes, l.cursor.bytePos⟩)
    unfold lengthOf Pattern.matchLength
    show (if _ then _ else (Pattern.takes p.matcher l.source.chars l.cursor.pos
      (some ⟨l.onDemand.source.bytes, l.cursor.bytePos⟩)).map _) = _
    rw [htakes]
    rfl

/-- **Bytes on demand are no other bytes to any pattern.** -/
theorem along_onDemand : Along (fun l m => m = l.onDemand) id id := by
  refine ⟨?_, ?_, fun t => rfl⟩
  · rintro l m rfl
    have hchoice : l.onDemand.choice l.patterns = l.choice l.patterns :=
      choice_congr fun p hp => l.lengthOf_onDemand hp
    exact nextAlike_of_choice rfl hchoice (fun p n => rfl) (fun c => rfl) fun n => rfl
  · rintro l m rfl
    rfl

/-! ## Whole sources -/

section

variable {patterns : List Pattern} {source filename : String}

/-- **The reading of a source that ends in an error**: what is read before it, and the
offset at which the choices fail. -/
theorem exists_failsAt {e : LexError} (h : tokenize patterns source filename = .error (.error e)) :
    ∃ p, FailsAt patterns source filename p e
      ∧ Reads (onSource patterns source filename) (onSource patterns source filename).all.tokens
          (onSourceAt patterns source filename p) := by
  obtain ⟨⟨p, hreached, hlexer⟩, -⟩ := all_follows patterns source filename
  have hreads := reads_drain (onSource patterns source filename).left
    (onSource patterns source filename)
  have hnext := next_of_drain_stop (tokenize_eq_error_iff.mp h)
  rw [show drain _ _ = (onSource patterns source filename).all from rfl, hlexer] at hreads hnext
  exact ⟨p, failsAt_iff.mpr ⟨hreached, hnext⟩, hreads⟩

/-- A source that is read to the end is read to the end with more patterns. -/
theorem all_extend (h : (onSource patterns source filename).all.stop = none)
    (more : List Pattern) :
    (onSource (patterns ++ more) source filename).all
      = ⟨(onSource patterns source filename).all.tokens, none,
          (onSource patterns source filename).all.lexer.extend more⟩ := by
  have hreads := (reads_drain (onSource patterns source filename).left
    (onSource patterns source filename)).extend more
  refine all_eq_of_reads_end hreads (fun t ht => nonempty_of_mem_drain ht) ?_
  exact (next_eq_none_iff _).mpr (drain_atEnd (Nat.le_refl _) h)

end

end Lexer

open Lexer

/-- **Appending patterns is conservative.** A source that a table reads to the end is read
just so by the table with more patterns at its end. Where the table comes to an error,
the longer one reads the same tokens up to its offset, one by one; it stands there
then, and any error of its own is there or further on. It makes no difference to any
table whether it is given the bytes of the source always, or only if one of its
patterns reads them. -/
theorem tokenize_append_conservative (P Q : List Pattern) (source filename : String) :
    (∀ ts, tokenize P source filename = .ok ts → tokenize (P ++ Q) source filename = .ok ts)
      ∧ (∀ e, tokenize P source filename = .error (.error e) →
        ∃ p, FailsAt P source filename p e
          ∧ let ts := (onSource P source filename).all.tokens
            (onSource (P ++ Q) source filename).take ts.length
                = ⟨ts, none, onSourceAt (P ++ Q) source filename p⟩
              ∧ ts <+: (onSource (P ++ Q) source filename).all.tokens
              ∧ ∀ e', tokenize (P ++ Q) source filename = .error (.error e') →
                ∃ p', p ≤ p' ∧ FailsAt (P ++ Q) source filename p' e')
      ∧ ∀ T : List Pattern,
        ReadSame (onSource T source filename) (onSource T source filename).onDemand := by
  refine ⟨fun ts hts => ?_, fun e he => ?_, fun T => ?_⟩
  · obtain ⟨hstop, rfl⟩ := tokenize_eq_ok_iff.mp hts
    rw [tokenize_eq_ok_iff, all_extend hstop Q]
    exact ⟨rfl, rfl⟩
  · obtain ⟨p, hfails, hreads⟩ := exists_failsAt he
    have hmore : Reads (onSource (P ++ Q) source filename)
        (onSource P source filename).all.tokens (onSourceAt (P ++ Q) source filename p) :=
      hreads.extend Q
    obtain ⟨hfront, hpos⟩ := hmore.all_from fun t ht => nonempty_of_mem_drain ht
    refine ⟨p, hfails, hmore.take_length, hfront, fun e' he' => ?_⟩
    obtain ⟨p', hfails', -⟩ := exists_failsAt he'
    obtain ⟨ts', hall⟩ := all_of_failsAt hfails'
    rw [hall, pos_onSourceAt hfails.reached.le_length, pos_onSourceAt hfails'.reached.le_length]
      at hpos
    exact ⟨p', hpos, hfails'⟩
  · refine along_onDemand.readAlike ?_ rfl
    rintro l m rfl
    rfl

/-- A sign, by its bytes. -/
def signByBytes : Pattern :=
  ⟨"sign", 2, .bytes "€".toUTF8 (.ofChars ['\xE2', '\x82', '\xAC'])⟩

/-- Keywords and names have no sign. With one at the end of the table, which is the first
pattern that reads bytes, they are read as before, and the error is further on. -/
theorem tokenize_append_conservative_sign :
    tokenize keywordPatterns "letter€!" = .error (.error ⟨"€", 1, 7, unnamedSource⟩)
      ∧ tokenize (keywordPatterns ++ [signByBytes]) "letter€!"
        = .error (.error ⟨"!", 1, 8, unnamedSource⟩)
      ∧ ∃ p p', p ≤ p'
        ∧ FailsAt keywordPatterns "letter€!" unnamedSource p ⟨"€", 1, 7, unnamedSource⟩
        ∧ FailsAt (keywordPatterns ++ [signByBytes]) "letter€!" unnamedSource p'
            ⟨"!", 1, 8, unnamedSource⟩
        ∧ ((onSource (keywordPatterns ++ [signByBytes]) "letter€!").take 2).tokens
          = (onSource keywordPatterns "letter€!").all.tokens := by
  obtain ⟨-, herror, -⟩ :=
    tokenize_append_conservative keywordPatterns [signByBytes] "letter€!" unnamedSource
  have he : tokenize keywordPatterns "letter€!"
      = .error (.error ⟨"€", 1, 7, unnamedSource⟩) := by decide +kernel
  have he' : tokenize (keywordPatterns ++ [signByBytes]) "letter€!"
      = .error (.error ⟨"!", 1, 8, unnamedSource⟩) := by decide +kernel
  obtain ⟨p, hfails, htake, -, hlater⟩ := herror _ he
  obtain ⟨p', hle, hfails'⟩ := hlater _ he'
  have htwo : (onSource keywordPatterns "letter€!").all.tokens.length = 2 := by decide +kernel
  rw [htwo] at htake
  exact ⟨he, he', p, p', hle, hfails, hfails', by rw [htake]⟩

end ParseKit

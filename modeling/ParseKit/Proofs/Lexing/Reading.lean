import ParseKit.Proofs.Lexing.Cursor

/-!
# Reading tokens one after the other

Whatever way a lexer is asked for tokens, it asks itself for the next one
and goes on with the lexer that comes with it. `Lexer.Reads l ts l'` says
that the tokens `ts` are read in this way from `l`, and that `l'` is the
lexer afterwards; taking some tokens and draining all of them are both
readings (`reads_take`, `reads_drain`).

What holds of a reading follows from what one token says of the lexers
before and after it. A lexer is **aligned** when its cursor is the cursor
after the text in front of it, and such a lexer gives tokens that are
**cut** there: the offset, the position and the span of a token are those
of the text that stands before it, and the text of the token is what comes
next. The lexer after the token is aligned again.
-/

namespace ParseKit

/-- **A token is cut out of a source after the given text**: its place, in
each of the three ways to count, is the place after that text. -/
structure Token.CutAfter (t : Token) (before : List Char) : Prop where
  /-- The offset counts the characters before the token. -/
  offset : t.offset = before.length
  /-- The position is the line and column of its first character. -/
  position : t.position = Text.placeAfter before
  /-- The span counts the bytes before it, without and with its own. -/
  span : t.span = ⟨Text.byteLength before, Text.byteLength (before ++ t.text.toList)⟩

/-- The characters that some tokens spell. -/
def Token.spelled (ts : List Token) : List Char := ts.flatMap fun t => t.text.toList

theorem Token.spelled_append (a b : List Token) :
    spelled (a ++ b) = spelled a ++ spelled b :=
  List.flatMap_append

theorem Token.spelled_cons (t : Token) (ts : List Token) :
    spelled (t :: ts) = t.text.toList ++ spelled ts :=
  List.flatMap_cons

namespace Lexer

/-- The characters of the source of a lexer. -/
def text (l : Lexer) : List Char := l.source.chars.toList

/-- The characters before the cursor of a lexer. -/
def before (l : Lexer) : List Char := l.text.take l.cursor.pos

/-- The characters of a slice. -/
theorem slice_source (l : Lexer) (pos n : Nat) :
    l.source.slice pos n = (l.text.drop pos).take n := by
  unfold Source.slice
  rw [Array.toList_extract, List.extract_eq_take_drop, Nat.add_sub_cancel_left]
  rfl

/-- **The cursor of the lexer is the one after the text before it.** -/
structure Aligned (l : Lexer) : Prop where
  /-- The cursor stands in the source or at its end. -/
  pos_le : l.cursor.pos ≤ l.text.length
  /-- The four numbers are those of the text before the cursor. -/
  cursor_eq : l.cursor = Cursor.after l.before

theorem Aligned.length_before {l : Lexer} (h : l.Aligned) : l.before.length = l.cursor.pos := by
  rw [before, List.length_take, Nat.min_eq_left h.pos_le]

theorem Aligned.bytePos {l : Lexer} (h : l.Aligned) :
    l.cursor.bytePos = Text.byteLength l.before := by
  rw [h.cursor_eq, Cursor.after_bytePos]

theorem Aligned.position {l : Lexer} (h : l.Aligned) :
    l.cursor.position = Text.placeAfter l.before := by
  rw [h.cursor_eq, Cursor.position_after]

/-- At the start of a source nothing stands before the cursor. -/
theorem aligned_start (l : Lexer) (source : String) : (l.start source).Aligned :=
  ⟨Nat.zero_le _, rfl⟩

/-! ## One step -/

@[simp] theorem text_advance (l : Lexer) (n : Nat) : (l.advance n).text = l.text := rfl

/-- What is stepped over joins what stood before. -/
theorem before_advance (l : Lexer) (n : Nat) :
    (l.advance n).before = l.before ++ l.source.slice l.cursor.pos n := by
  show l.text.take (l.cursor.pos + (l.source.slice l.cursor.pos n).length) = _
  rw [List.take_add, slice_source, List.length_take, ← List.take_eq_take_min]
  rfl

/-- **Stepping over characters keeps a lexer aligned.** -/
theorem Aligned.advance {l : Lexer} (h : l.Aligned) (n : Nat) : (l.advance n).Aligned := by
  refine ⟨?_, ?_⟩
  · show l.cursor.pos + (l.source.slice l.cursor.pos n).length ≤ l.text.length
    have hpos := h.pos_le
    rw [slice_source, List.length_take, List.length_drop]
    omega
  · show l.cursor.advance _ = _
    rw [before_advance, Cursor.after, Cursor.advance_append, ← Cursor.after, ← h.cursor_eq]

/-- The character at the cursor, by the text of the source. -/
theorem chars_getElem? (l : Lexer) (i : Nat) : l.source.chars[i]? = l.text[i]? :=
  (Array.getElem?_toList).symm

/-- **What a next token is**: one that the first pattern to match recognises,
at a cursor that is not at the end. -/
theorem next_eq_token {l l' : Lexer} {t : Token} (h : l.next = .ok (some (t, l'))) :
    ∃ p n, l.cursor.pos < l.text.length ∧ l.firstMatch l.patterns = .ok (some (p, n))
      ∧ t = l.tokenOf p n ∧ l' = l.advance n := by
  unfold next at h
  split at h
  · cases h
  · rename_i c hc
    rw [chars_getElem?] at hc
    split at h
    · rename_i p n hm
      cases h
      exact ⟨p, n, (List.getElem?_eq_some_iff.mp hc).1, hm, rfl, rfl⟩
    · cases h
    · cases h

/-- There is no next token exactly at the end. -/
theorem next_eq_none_iff (l : Lexer) : l.next = .ok none ↔ l.text.length ≤ l.cursor.pos := by
  rw [← List.getElem?_eq_none_iff, ← chars_getElem?]
  unfold next
  constructor
  · intro h
    split at h
    · assumption
    · split at h <;> cases h
  · intro h
    rw [h]

/-- **What an error says**: the character at the cursor, which no pattern
matches, and the line and column of the cursor. -/
theorem next_eq_error {l : Lexer} {e : LexError} (h : l.next = .error (.error e)) :
    ∃ c, l.text[l.cursor.pos]? = some c ∧ l.firstMatch l.patterns = .ok none
      ∧ e = l.errorAt c := by
  unfold next at h
  split at h
  · cases h
  · rename_i c hc
    rw [chars_getElem?] at hc
    split at h
    · cases h
    · rename_i hm
      cases h
      exact ⟨c, hc, hm, rfl⟩
    · cases h

/-- **A token of an aligned lexer is cut after the text before the cursor**,
and the lexer after it is aligned again, with the token before its
cursor. -/
theorem Aligned.next {l l' : Lexer} {t : Token} (h : l.Aligned)
    (hnext : l.next = .ok (some (t, l'))) :
    t.CutAfter l.before ∧ l'.before = l.before ++ t.text.toList ∧ l'.Aligned
      ∧ l'.text = l.text := by
  obtain ⟨p, n, -, -, rfl, rfl⟩ := next_eq_token hnext
  have htext : (l.tokenOf p n).text.toList = l.source.slice l.cursor.pos n := String.toList_ofList
  have hbefore : (l.advance n).before = l.before ++ (l.tokenOf p n).text.toList := by
    rw [htext, before_advance]
  refine ⟨⟨h.length_before.symm, h.position, ?_⟩, hbefore, h.advance n, rfl⟩
  show (⟨(l.cursor.bytePos : Int), ((l.advance n).cursor.bytePos : Int)⟩ : Span) = _
  rw [h.bytePos, (h.advance n).bytePos, hbefore]

/-! ## Readings -/

/-- **Tokens that are read one after the other**, and the lexer afterwards. -/
inductive Reads : Lexer → List Token → Lexer → Prop where
  /-- Nothing is read. -/
  | nil (l : Lexer) : Reads l [] l
  /-- A token is read, and then more. -/
  | cons {l l' l'' : Lexer} {t : Token} {ts : List Token} (first : l.next = .ok (some (t, l')))
      (rest : Reads l' ts l'') : Reads l (t :: ts) l''

/-- A reading can be interrupted after any of its tokens. -/
theorem Reads.split {l l' : Lexer} {a b : List Token} (h : Reads l (a ++ b) l') :
    ∃ m, Reads l a m ∧ Reads m b l' := by
  induction a generalizing l with
  | nil => exact ⟨l, .nil l, h⟩
  | cons t a ih =>
    cases h with
    | cons first rest =>
      obtain ⟨m, ham, hmb⟩ := ih rest
      exact ⟨m, .cons first ham, hmb⟩

/-- **A reading keeps the lexer aligned and on its source**, and what it reads
joins what stood before. -/
theorem Reads.aligned {l l' : Lexer} {ts : List Token} (h : Reads l ts l') (hl : l.Aligned) :
    l'.Aligned ∧ l'.text = l.text ∧ l'.before = l.before ++ Token.spelled ts := by
  induction h with
  | nil l => exact ⟨hl, rfl, (List.append_nil _).symm⟩
  | cons first rest ih =>
    obtain ⟨-, hbefore, haligned, htext⟩ := hl.next first
    obtain ⟨ihaligned, ihtext, ihbefore⟩ := ih haligned
    refine ⟨ihaligned, ihtext.trans htext, ?_⟩
    rw [ihbefore, hbefore, Token.spelled_cons, List.append_assoc]

/-- **Each token of a reading is cut after the tokens before it.** -/
theorem Reads.cutAfter {l l' : Lexer} {a b : List Token} {t : Token}
    (h : Reads l (a ++ t :: b) l') (hl : l.Aligned) :
    t.CutAfter (l.before ++ Token.spelled a) := by
  obtain ⟨m, ham, hmb⟩ := h.split
  obtain ⟨hm, -, hbefore⟩ := ham.aligned hl
  cases hmb with
  | cons first rest =>
    rw [← hbefore]
    exact (hm.next first).1

/-- **Each token of a reading is cut out at its own offset**: it has the place
of that offset in the source, and the text that stands there. -/
theorem Reads.cut_at_offset {l l' : Lexer} {ts : List Token} {t : Token} (h : Reads l ts l')
    (hl : l.Aligned) (ht : t ∈ ts) :
    t.CutAfter (l.text.take t.offset) ∧ t.text.toList = (l.text.drop t.offset).take t.length := by
  obtain ⟨a, b, rfl⟩ := List.append_of_mem ht
  obtain ⟨m, ham, hmb⟩ := h.split
  obtain ⟨hm, hmtext, -⟩ := ham.aligned hl
  cases hmb with
  | cons first rest =>
    obtain ⟨hcut, hbefore, hm', hm'text⟩ := hm.next first
    have hoffset : l.text.take t.offset = m.before := by
      rw [hcut.offset, hm.length_before, ← hmtext]
      rfl
    refine ⟨hoffset.symm ▸ hcut, ?_⟩
    -- both lexers have the same text, cut before and after the token
    have hlength := congrArg List.length hbefore
    rw [List.length_append, hm'.length_before, hm.length_before] at hlength
    have hpos : m.cursor.pos = t.offset := by rw [hcut.offset, hm.length_before]
    rw [before, before, hm'text, hlength, List.take_add] at hbefore
    rw [← hmtext, ← hpos, Token.length, ← String.length_toList]
    exact (List.append_cancel_left hbefore).symm

/-- Taking some tokens is a reading. -/
theorem reads_take (n : Nat) (l : Lexer) : Reads l (take n l).tokens (take n l).lexer := by
  induction n generalizing l with
  | zero => exact .nil l
  | succ n ih =>
    unfold take
    split
    · exact .nil l
    · exact .nil l
    · rename_i t l' hnext
      exact .cons hnext (ih l')

/-- Draining a lexer is a reading. -/
theorem reads_drain (fuel : Nat) (l : Lexer) :
    Reads l (drain fuel l).tokens (drain fuel l).lexer := by
  induction fuel generalizing l with
  | zero => exact .nil l
  | succ fuel ih =>
    unfold drain
    split
    · exact .nil l
    · exact .nil l
    · rename_i t l' hnext
      split
      · exact .nil l
      · exact .cons hnext (ih l')

/-- Where taking tokens ends early, there is no next one for that reason. -/
theorem next_of_take_stop {n : Nat} {l : Lexer} {stop : LexStop}
    (h : (take n l).stop = some stop) : (take n l).lexer.next = .error stop := by
  induction n generalizing l with
  | zero => cases h
  | succ n ih =>
    unfold take at h ⊢
    split at h
    · rename_i hnext
      cases h
      exact hnext
    · cases h
    · exact ih h

/-- Where draining ends at an error, there is no next token for that reason. -/
theorem next_of_drain_stop {fuel : Nat} {l : Lexer} {e : LexError}
    (h : (drain fuel l).stop = some (.error e)) :
    (drain fuel l).lexer.next = .error (.error e) := by
  induction fuel generalizing l with
  | zero => cases h
  | succ fuel ih =>
    unfold drain at h ⊢
    split at h
    · rename_i hnext
      cases h
      exact hnext
    · cases h
    · split at h
      · cases h
      · rename_i hempty
        simp only [hempty, Bool.false_eq_true, ite_false]
        exact ih h

end Lexer

end ParseKit

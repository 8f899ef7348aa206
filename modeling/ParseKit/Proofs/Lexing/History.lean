import ParseKit.Proofs.Lexing.Reading

/-!
# What a lexer goes through

A lexer is asked for one thing after another: to begin a source, for the
next token, to step over a character, for all tokens that are left or for
some of them. `Lexer.perform` is what it does when it is asked, also where
it answers with an error, and a *history* is any list of such requests.

After every history the cursor is the one that the text before it
determines (`Cursor.Tracks`), whatever pieces the text was cut into on the
way; `history_keepsPlace` says so, and with it that a request which fails where
the lexer stands does not move it, that tokens and errors carry the
position of the character they are about, and that positions are ordered
as the offsets are.

Nothing is asked of the patterns here. A match that would end beyond the
source or before it began is cut down to what there is, so that it can
stop a lexer from moving, but not set its counts apart.
-/

namespace ParseKit

/-- **The four numbers of a cursor, by the text of the source before it.** -/
structure Cursor.Tracks (c : Cursor) (source : List Char) : Prop where
  /-- The cursor stands in the source or at its end. -/
  pos_le : c.pos ≤ source.length
  /-- The bytes before the cursor are those of the UTF-8 form. -/
  bytePos : c.bytePos = (Text.encode (source.take c.pos)).size
  /-- The line is one more than the line feeds before the cursor. -/
  line : c.line = 1 + (source.take c.pos).count '\n'
  /-- The column is the distance from the last line feed before the cursor. -/
  column : (c.column : Int) = c.pos - Text.lastBreak (source.take c.pos)

namespace Lexer

/-- The numbers of an aligned lexer. -/
theorem Aligned.tracks {l : Lexer} (h : l.Aligned) : l.cursor.Tracks l.text := by
  have hposition : (⟨(l.cursor.line : Int), (l.cursor.column : Int)⟩ : Position)
      = Text.placeAfter l.before := h.position
  injection hposition with hline hcolumn
  refine ⟨h.pos_le, ?_, ?_, ?_⟩
  · rw [Text.size_encode]
    exact h.bytePos
  · show l.cursor.line = 1 + l.before.count '\n'
    omega
  · rw [hcolumn, h.length_before]
    rfl

/-! ## Requests -/

/-- **What can be asked of a lexer.** -/
inductive Action where
  /-- To begin a source. -/
  | begin (source : String)
  /-- For the next token. -/
  | next
  /-- To step over a character. -/
  | skip
  /-- For all tokens that are left. -/
  | all
  /-- For some tokens, as many as there are up to a number. -/
  | take (n : Nat)
  deriving DecidableEq, Repr, Inhabited

/-- **What a lexer answers.** -/
inductive Answer where
  /-- A source has begun. -/
  | begun
  /-- The next token; none at the end. -/
  | token (t : Option Token)
  /-- The character that was stepped over. -/
  | skipped (c : Char)
  /-- There is no character to step over. -/
  | pastEnd
  /-- Tokens. -/
  | tokens (ts : List Token)
  /-- Reading ended early, after some tokens. -/
  | stopped (ts : List Token) (stop : LexStop)
  deriving DecidableEq, Repr, Inhabited

namespace Answer

/-- The answer of a run. -/
def ofRun (r : Run) : Answer :=
  match r.stop with
  | some stop => stopped r.tokens stop
  | none => tokens r.tokens

/-- The tokens that were read, also where reading ended early. -/
def read : Answer → List Token
  | token t => t.toList
  | tokens ts => ts
  | stopped ts _ => ts
  | _ => []

/-- The error that reading ended at. -/
def error? : Answer → Option LexError
  | stopped _ (.error e) => some e
  | _ => none

@[simp] theorem read_ofRun (r : Run) : (ofRun r).read = r.tokens := by
  unfold ofRun
  split <;> rfl

theorem eq_of_error? {ts : List Token} {stop : LexStop} {e : LexError}
    (h : (stopped ts stop).error? = some e) : stop = .error e := by
  cases stop with
  | error e' => rw [Option.some.inj h]
  | unmatchable => cases h
  | tangled => cases h
  | endless => cases h

theorem stop_of_error? {r : Run} {e : LexError} (h : (ofRun r).error? = some e) :
    r.stop = some (.error e) := by
  unfold ofRun at h
  split at h
  · rename_i stop hstop
    rw [hstop, eq_of_error? h]
  · cases h

end Answer

/-- **What a lexer does when it is asked**: its answer, and the lexer
afterwards. -/
def perform (l : Lexer) : Action → Answer × Lexer
  | .begin source => (.begun, l.start source)
  | .next =>
    match l.next with
    | .ok (some (t, l')) => (.token (some t), l')
    | .ok none => (.token none, l)
    | .error stop => (.stopped [] stop, l)
  | .skip =>
    match l.skip? with
    | some (c, l') => (.skipped c, l')
    | none => (.pastEnd, l)
  | .all => (.ofRun l.all, l.all.lexer)
  | .take n => (.ofRun (l.take n), (l.take n).lexer)

/-- The lexer after a history. -/
def performAll (l : Lexer) (history : List Action) : Lexer :=
  history.foldl (fun l a => (l.perform a).2) l

/-- The source that is read after a request, given the one before. -/
def Action.sourceAfter (source : String) : Action → String
  | .begin source' => source'
  | _ => source

/-- The source that is read after a history: the one begun last. -/
def sourceAfter (source : String) (history : List Action) : String :=
  history.foldl Action.sourceAfter source

/-! ## One request -/

/-- The lexer stands in a source, with its cursor aligned. -/
structure StandsIn (l : Lexer) (source : String) : Prop where
  /-- The source of the lexer. -/
  source_eq : l.source = .ofString source
  /-- The cursor of the lexer. -/
  aligned : l.Aligned

theorem StandsIn.text_eq {l : Lexer} {source : String} (h : l.StandsIn source) :
    l.text = source.toList := by
  rw [text, h.source_eq]
  rfl

/-- A reading stays in the source. -/
theorem StandsIn.reads {l l' : Lexer} {source : String} {ts : List Token} (h : l.StandsIn source)
    (hreads : Reads l ts l') : l'.StandsIn source := by
  refine ⟨?_, (hreads.aligned h.aligned).1⟩
  rw [← h.source_eq]
  clear h
  induction hreads with
  | nil l => rfl
  | cons first rest ih =>
    obtain ⟨p, n, -, -, -, rfl⟩ := next_eq_token first
    exact ih

/-- **What is read when a lexer is asked is a reading.** -/
theorem reads_perform (l : Lexer) (a : Action) : ∃ l', Reads l (l.perform a).1.read l' := by
  cases a with
  | begin source => exact ⟨l, .nil l⟩
  | next =>
    simp only [perform]
    split
    · rename_i t l' hnext
      exact ⟨l', .cons hnext (.nil l')⟩
    · exact ⟨l, .nil l⟩
    · exact ⟨l, .nil l⟩
  | skip =>
    simp only [perform]
    split
    · exact ⟨l, .nil l⟩
    · exact ⟨l, .nil l⟩
  | all => exact ⟨l.all.lexer, by rw [perform, Answer.read_ofRun]; exact reads_drain l.left l⟩
  | take n => exact ⟨(l.take n).lexer, by rw [perform, Answer.read_ofRun]; exact reads_take n l⟩

/-- **A request leaves the lexer standing in its source**, the new one if it
begins one. -/
theorem StandsIn.perform {l : Lexer} {source : String} (h : l.StandsIn source) (a : Action) :
    (l.perform a).2.StandsIn (a.sourceAfter source) := by
  cases a with
  | begin source' => exact ⟨rfl, aligned_start l source'⟩
  | next =>
    simp only [Lexer.perform]
    split
    · rename_i t l' hnext
      exact h.reads (.cons hnext (.nil l'))
    · exact h
    · exact h
  | skip =>
    simp only [Lexer.perform, skip?]
    split
    · rename_i c l' hskip
      obtain ⟨c', -, hskip⟩ := Option.map_eq_some_iff.mp hskip
      cases hskip
      exact ⟨h.source_eq, h.aligned.advance 1⟩
    · exact h
  | all => exact h.reads (reads_drain l.left l)
  | take n => exact h.reads (reads_take n l)

/-- **After a history the lexer stands in the source begun last.** -/
theorem StandsIn.performAll {l : Lexer} {source : String} (h : l.StandsIn source)
    (history : List Action) : (l.performAll history).StandsIn (sourceAfter source history) := by
  induction history generalizing l source with
  | nil => exact h
  | cons a history ih => exact ih (h.perform a)

/-- A lexer whose answer is an error finds that error again where it now
stands. -/
theorem next_of_perform_error {l : Lexer} {a : Action} {e : LexError}
    (h : (l.perform a).1.error? = some e) : (l.perform a).2.next = .error (.error e) := by
  cases a with
  | begin source => cases h
  | next =>
    simp only [perform] at h ⊢
    split at h
    · cases h
    · cases h
    · rename_i stop hnext
      rw [hnext, Answer.eq_of_error? h]
  | skip =>
    simp only [perform] at h
    split at h
    · cases h
    · cases h
  | all => exact next_of_drain_stop (Answer.stop_of_error? h)
  | take n => exact next_of_take_stop (Answer.stop_of_error? h)

/-! ## Any history -/

/-- **What a lexer keeps to while it stands in a source**: its cursor tells
where it is, a request that fails there does not move it, tokens and errors
have the place of their first character, and places are ordered as offsets
are. -/
structure KeepsPlace (l : Lexer) (source : String) : Prop where
  /-- The source is the one that the lexer has begun. -/
  source_eq : l.source = .ofString source
  /-- The cursor tells where the lexer is. -/
  cursor : l.cursor.Tracks source.toList
  /-- Without a next token for want of a pattern, the cursor stays. -/
  next_error : ∀ e, (l.perform .next).1.error? = some e → (l.perform .next).2.cursor = l.cursor
  /-- Without a character to step over, which is at the end, the cursor
  stays. -/
  skip_pastEnd : (l.perform .skip).1 = .pastEnd →
    l.cursor.pos = source.length ∧ (l.perform .skip).2.cursor = l.cursor
  /-- A token has the place and the text of its offset. -/
  token : ∀ a, ∀ t ∈ (l.perform a).1.read,
    t.position = Text.placeAfter (source.toList.take t.offset)
      ∧ t.text.toList = (source.toList.drop t.offset).take t.length
  /-- An error has the place and the character of an offset, which is where the
  lexer is left. -/
  error : ∀ a e, (l.perform a).1.error? = some e → ∃ c,
    source.toList[(l.perform a).2.cursor.pos]? = some c ∧ e.char = .singleton c
      ∧ (⟨e.line, e.column⟩ : Position)
        = Text.placeAfter (source.toList.take (l.perform a).2.cursor.pos)
  /-- Later offsets have later places. -/
  ordered : ∀ p q, p < q → q ≤ source.length →
    (Text.placeAfter (source.toList.take p)).Before (Text.placeAfter (source.toList.take q))
  /-- Different offsets have different places. -/
  distinct : ∀ p q, p ≤ source.length → q ≤ source.length → p ≠ q →
    Text.placeAfter (source.toList.take p) ≠ Text.placeAfter (source.toList.take q)

/-- A lexer whose next token is missing for want of a pattern stays. -/
theorem perform_next_error {l : Lexer} {e : LexError} (h : (l.perform .next).1.error? = some e) :
    (l.perform .next).2 = l := by
  simp only [perform] at h ⊢
  split at h
  · cases h
  · cases h
  · rfl

/-- A lexer that has no character to step over is at the end, and stays. -/
theorem perform_skip_pastEnd {l : Lexer} (h : (l.perform .skip).1 = .pastEnd) :
    l.text.length ≤ l.cursor.pos ∧ (l.perform .skip).2 = l := by
  simp only [perform] at h ⊢
  split at h
  · cases h
  · rename_i hskip
    refine ⟨List.getElem?_eq_none_iff.mp ?_, rfl⟩
    rw [← chars_getElem?]
    exact Option.map_eq_none_iff.mp hskip

/-- **An aligned lexer keeps to its source.** -/
theorem StandsIn.keepsPlace {l : Lexer} {source : String} (h : l.StandsIn source) :
    l.KeepsPlace source := by
  have hlength : source.toList.length = source.length := String.length_toList
  have hordered : ∀ p q, p < q → q ≤ source.length →
      (Text.placeAfter (source.toList.take p)).Before (Text.placeAfter (source.toList.take q)) :=
    fun p q hpq hq => Text.placeAfter_take_before _ hpq (hlength ▸ hq)
  refine ⟨h.source_eq, h.text_eq ▸ h.aligned.tracks, ?_, ?_, ?_, ?_, hordered, ?_⟩
  · intro e he
    rw [perform_next_error he]
  · intro hskip
    obtain ⟨hend, hstays⟩ := perform_skip_pastEnd hskip
    have hpos := h.aligned.pos_le
    rw [h.text_eq, hlength] at hend hpos
    exact ⟨Nat.le_antisymm hpos hend, by rw [hstays]⟩
  · intro a t ht
    obtain ⟨l', hreads⟩ := reads_perform l a
    obtain ⟨hcut, htext⟩ := hreads.cut_at_offset h.aligned ht
    rw [h.text_eq] at hcut htext
    exact ⟨hcut.position, htext⟩
  · intro a e he
    obtain ⟨c, hc, -, rfl⟩ := next_eq_error (next_of_perform_error he)
    have hstands : (l.perform a).2.StandsIn source := by
      -- beginning a source is no reading, and has no error
      cases a with
      | begin source' => cases he
      | next => exact h.perform .next
      | skip => exact h.perform .skip
      | all => exact h.perform .all
      | take n => exact h.perform (.take n)
    refine ⟨c, hstands.text_eq ▸ hc, rfl, ?_⟩
    rw [← hstands.text_eq]
    exact hstands.aligned.position
  · intro p q hp hq hne
    rcases Nat.lt_or_gt_of_ne hne with hlt | hlt
    · exact (hordered p q hlt hq).ne
    · exact (hordered q p hlt hp).ne.symm

/-- **After any history a lexer keeps to the source that it has begun**, also
where some of the requests have failed. Before the first source there is
the empty one. -/
theorem history_keepsPlace (patterns : List Pattern) (filename : String)
    (history : List Action) :
    ((Lexer.mk patterns filename .empty .start).performAll history).KeepsPlace
      (sourceAfter "" history) := by
  have hstart : (Lexer.mk patterns filename .empty .start).StandsIn "" :=
    ⟨rfl, aligned_start (.mk patterns filename .empty .start) ""⟩
  exact (hstart.performAll history).keepsPlace

end Lexer

end ParseKit

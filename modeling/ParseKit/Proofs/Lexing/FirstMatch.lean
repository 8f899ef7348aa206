import ParseKit.Proofs.Lexing.History
import ParseKit.Proofs.Lexing.Partition
import ParseKit.Proofs.Regex.Bounds
import ParseKit.Proofs.Text.Encoding

/-!
# The first pattern that matches makes the token

Reading a source is a loop over a cursor. What it computes can be said
without the loop. At an offset of the source a table of patterns **chooses**
the first of its patterns that matches there, also where a later one would
match more; a list of tokens is **cut by first matches** if it is the source
cut into pieces, and each piece has the kind, the label and the length that
are chosen at its offset. There is at most one such list, and reading gives
tokens just when there is one.

Where there is none, following the choices from the start comes to an
offset at which no pattern matches, or else to a match that is of no use.
The first is what makes an error: `tokenize_chooses_firstMatch` says that
reading ends in an error exactly at such an offset, that the error tells the
character and its place, and that the lexer stays there, so that the same
error comes again however often the next token is asked for.

The choices are said with the pieces of the source alone: a pattern may look
at what stands before the offset, and it is the whole source that it is
given.
-/

namespace ParseKit

/-! ## What a pattern takes is there -/

/-- Text that stands at a position ends within the source. -/
theorem Pattern.length_le_of_startsAt {chars : Array Char} {pos : Nat} {text : List Char}
    (hpos : pos ≤ chars.size) (h : startsAt chars pos text = true) :
    pos + text.length ≤ chars.size := by
  induction text generalizing pos with
  | nil => exact hpos
  | cons c rest ih =>
    rw [startsAt, Bool.and_eq_true] at h
    have hchar : chars[pos]? = some c := by simpa using h.1
    have hrest : pos + 1 + rest.length ≤ chars.size :=
      ih (Array.getElem?_eq_some_iff.mp hchar).1 h.2
    rw [List.length_cons]
    omega

theorem Pattern.rangeLength_le (chars : Array Char) (low high : Char) (pos fuel : Nat) :
    rangeLength chars low high pos fuel ≤ fuel := by
  induction fuel generalizing pos with
  | zero => exact Nat.le_refl 0
  | succ fuel ih =>
    unfold rangeLength
    split
    · split
      · exact Nat.succ_le_succ (ih (pos + 1))
      · exact Nat.zero_le _
    · exact Nat.zero_le _

/-- **Bytes at the front of a text spell no more characters than it has.** -/
theorem Text.length_le_of_decode? {rest : List Char} {stop : Nat} {s : String}
    (h : decode? ((encode rest).extract 0 stop) = some s) : s.length ≤ rest.length := by
  obtain ⟨n, hn, -, rfl⟩ := decode?_extract_eq_some_iff.mp h
  rw [String.length_ofList, List.length_take_of_le hn]
  exact hn

/-- **What a pattern matches at an offset of a source**, of which it is given
all the characters and all the bytes. -/
def Pattern.matchAt (p : Pattern) (source : String) (offset : Nat) :
    Except Regex.Tangled (Option Int) :=
  p.matchLength source.toList.toArray offset
    (some ⟨source.toUTF8, Text.byteLength (source.toList.take offset)⟩)

/-- The bytes from an offset on are the bytes of the text from there. -/
theorem Text.extract_toUTF8 (source : String) (offset stop : Nat) :
    source.toUTF8.extract (byteLength (source.toList.take offset)) stop
      = (encode (source.toList.drop offset)).extract 0
        (stop - byteLength (source.toList.take offset)) := by
  have hsource : source.toUTF8
      = encode (source.toList.take offset) ++ encode (source.toList.drop offset) := by
    rw [← encode_append, List.take_append_drop, encode, String.ofList_toList]
  rw [hsource, ByteArray.extract_append, size_encode, Nat.sub_self,
    ByteArray.extract_eq_empty_iff.mpr, ByteArray.empty_append]
  rw [size_encode]
  exact Nat.min_le_right _ _

/-- A pattern that matches does so before the end, and takes what it matches. -/
theorem Pattern.takes_of_matchLength {p : Pattern} {chars : Array Char} {pos : Nat}
    {view : Option ByteView} {n : Int} (h : p.matchLength chars pos view = .ok (some n)) :
    pos < chars.size ∧ takes p.matcher chars pos view = .ok n := by
  unfold matchLength at h
  split at h
  · cases h
  · rename_i hpos
    refine ⟨Nat.lt_of_not_le hpos, ?_⟩
    cases htakes : takes p.matcher chars pos view with
    | error t =>
      rw [htakes] at h
      cases h
    | ok m =>
      rw [htakes] at h
      by_cases hm : m = 0
      · simp [Except.map, hm] at h
      · simpa [Except.map, hm] using h

/-- **A matcher takes no more characters than are left.** -/
theorem Pattern.takes_le {m : Matcher} {source : String} {offset : Nat} {n : Int}
    (hoffset : offset < source.length)
    (h : takes m source.toList.toArray offset
      (some ⟨source.toUTF8, Text.byteLength (source.toList.take offset)⟩) = .ok n) :
    (offset : Int) + n ≤ source.length := by
  have hsize : source.toList.toArray.size = source.length := by
    rw [List.size_toArray, String.length_toList]
  cases m with
  | literal text =>
    cases h
    split
    · rename_i hstarts
      have hle := length_le_of_startsAt (by omega) hstarts
      rw [hsize, String.length_toList] at hle
      omega
    · omega
  | range low high =>
    cases h
    have hle := rangeLength_le source.toList.toArray low high offset
      (source.toList.toArray.size - offset)
    rw [hsize] at hle ⊢
    omega
  | text written r =>
    dsimp only [takes] at h
    cases hmatch : r.matchEnd (.ofChars source.toList.toArray) offset with
    | error t =>
      rw [hmatch] at h
      cases h
    | ok found =>
      rw [hmatch] at h
      cases h
      cases found with
      | none =>
        dsimp only
        omega
      | some stop =>
        have hle : stop ≤ source.toList.toArray.size := Regex.matchEnd_le_size hmatch
        rw [hsize] at hle
        dsimp only
        omega
  | bytes written r =>
    dsimp only [takes, bytesLength, Option.getD_some] at h
    cases hmatch : r.matchEnd (.ofBytes source.toUTF8)
        (Text.byteLength (source.toList.take offset)) with
    | error t =>
      rw [hmatch] at h
      cases h
    | ok found =>
      rw [hmatch] at h
      cases h
      cases found with
      | none =>
        show (offset : Int) + (0 : Nat) ≤ _
        omega
      | some stop =>
        dsimp only
        rw [Text.extract_toUTF8]
        split
        · rename_i s hs
          have hle := Text.length_le_of_decode? hs
          rw [List.length_drop, String.length_toList] at hle
          show (offset : Int) + (s.length : Nat) ≤ _
          omega
        · show (offset : Int) + (0 : Nat) ≤ _
          omega

/-- **A pattern takes no more characters than are left.** -/
theorem Pattern.matchAt_le {p : Pattern} {source : String} {offset : Nat} {n : Int}
    (h : p.matchAt source offset = .ok (some n)) : (offset : Int) + n ≤ source.length := by
  obtain ⟨hoffset, htakes⟩ := takes_of_matchLength h
  rw [List.size_toArray, String.length_toList] at hoffset
  exact takes_le hoffset htakes

/-! ## Choices -/

/-- **A table of patterns chooses a pattern at an offset**, the first of those
that match there; `n` is what it matches. -/
structure Chooses (patterns : List Pattern) (source : String) (offset : Nat) (p : Pattern)
    (n : Int) : Prop where
  /-- The pattern matches. -/
  taken : p.matchAt source offset = .ok (some n)
  /-- No pattern before it does. -/
  first : ∃ earlier later, patterns = earlier ++ p :: later
    ∧ ∀ q ∈ earlier, q.matchAt source offset = .ok none

/-- No pattern of a table matches at an offset. -/
def NoneMatches (patterns : List Pattern) (source : String) (offset : Nat) : Prop :=
  ∀ p ∈ patterns, p.matchAt source offset = .ok none

/-- **Offsets that are come to by the choices** of a table, from the start of
the source. -/
inductive Reaches (patterns : List Pattern) (source : String) : Nat → Prop where
  /-- The start. -/
  | start : Reaches patterns source 0
  /-- The offset after what is chosen at one. -/
  | step {offset n : Nat} {p : Pattern} (before : Reaches patterns source offset)
      (chosen : Chooses patterns source offset p n) (pos : 0 < n) :
      Reaches patterns source (offset + n)

/-- The choices stay within the source. -/
theorem Reaches.le_length {patterns : List Pattern} {source : String} {offset : Nat}
    (h : Reaches patterns source offset) : offset ≤ source.length := by
  induction h with
  | start => exact Nat.zero_le _
  | step before chosen pos ih =>
    have hle := Pattern.matchAt_le chosen.taken
    omega

/-- **Tokens that are cut by first matches**: the source cut into pieces, each
with what is chosen at its offset and with the place of its offset. -/
structure CutByFirstMatch (patterns : List Pattern) (source : String) (ts : List Token) :
    Prop where
  /-- The tokens are the source cut into pieces. -/
  partition : Partition source ts
  /-- Kind, label and length of a token are chosen at its offset. -/
  chosen : ∀ t ∈ ts, ∃ p, Chooses patterns source t.offset p t.length
    ∧ t.kind = p.kind ∧ t.label = p.label
  /-- The position of a token is that of its offset. -/
  position : ∀ t ∈ ts, t.position = Text.placeAfter (source.toList.take t.offset)
  /-- The span of a token is that of the slice of the source from its offset on,
  as long as the token. -/
  span : ∀ t ∈ ts, t.span = ⟨Text.byteLength (source.toList.take t.offset),
    Text.byteLength (source.toList.take (t.offset + t.length))⟩

/-- **The choices fail at an offset**, which they come to and at which no
pattern matches; the error says what is there. -/
structure FailsAt (patterns : List Pattern) (source filename : String) (offset : Nat)
    (e : LexError) : Prop where
  /-- The choices come to the offset. -/
  reached : Reaches patterns source offset
  /-- No pattern matches there. -/
  unmatched : NoneMatches patterns source offset
  /-- The error has the character at the offset. -/
  char : ∃ c, source.toList[offset]? = some c ∧ e.char = .singleton c
  /-- The error has the line and the column of the offset. -/
  place : (⟨e.line, e.column⟩ : Position) = Text.placeAfter (source.toList.take offset)
  /-- The error has the name of the source. -/
  filename : e.filename = filename

namespace Lexer

/-! ## A lexer at an offset -/

/-- **The lexer at an offset of a source.** -/
def onSourceAt (patterns : List Pattern) (source filename : String) (offset : Nat) : Lexer :=
  { onSource patterns source filename with cursor := .after (source.toList.take offset) }

variable {patterns : List Pattern} {source filename : String} {offset : Nat}

theorem onSourceAt_zero :
    onSourceAt patterns source filename 0 = onSource patterns source filename :=
  rfl

@[simp] theorem text_onSourceAt :
    (onSourceAt patterns source filename offset).text = source.toList :=
  rfl

@[simp] theorem patterns_onSourceAt :
    (onSourceAt patterns source filename offset).patterns = patterns :=
  rfl

theorem pos_onSourceAt (h : offset ≤ source.length) :
    (onSourceAt patterns source filename offset).cursor.pos = offset := by
  show 0 + (source.toList.take offset).length = offset
  rw [List.length_take, String.length_toList]
  omega

theorem before_onSourceAt (h : offset ≤ source.length) :
    (onSourceAt patterns source filename offset).before = source.toList.take offset := by
  rw [before, pos_onSourceAt h, text_onSourceAt]

theorem aligned_onSourceAt (h : offset ≤ source.length) :
    (onSourceAt patterns source filename offset).Aligned := by
  refine ⟨?_, ?_⟩
  · rw [pos_onSourceAt h, text_onSourceAt, String.length_toList]
    exact h
  · rw [before_onSourceAt h]
    rfl

/-- The slice of a source from an offset on joins what stands before it. -/
theorem advance_onSourceAt (h : offset ≤ source.length) (n : Nat) :
    (onSourceAt patterns source filename offset).advance n
      = onSourceAt patterns source filename (offset + n) := by
  have hslice : (onSourceAt patterns source filename offset).source.slice
      (onSourceAt patterns source filename offset).cursor.pos n
        = (source.toList.drop offset).take n := by
    rw [slice_source, pos_onSourceAt h, text_onSourceAt]
  have hcursor : (onSourceAt patterns source filename offset).cursor.advance
      ((source.toList.drop offset).take n) = .after (source.toList.take (offset + n)) := by
    show (Cursor.start.advance _).advance _ = _
    rw [← Cursor.advance_append, ← List.take_add]
    rfl
  unfold advance
  rw [hslice, hcursor]
  rfl

theorem lengthOf_onSourceAt (h : offset ≤ source.length) (p : Pattern) :
    (onSourceAt patterns source filename offset).lengthOf p = p.matchAt source offset := by
  unfold lengthOf Pattern.matchAt
  rw [pos_onSourceAt h, (aligned_onSourceAt h).bytePos, before_onSourceAt h]
  rfl

/-- **The token at an offset**, by the slice of the source that it covers. -/
theorem tokenOf_onSourceAt (h : offset ≤ source.length) (p : Pattern) (n : Nat) :
    (onSourceAt patterns source filename offset).tokenOf p n
      = { kind := p.kind
          text := .ofList ((source.toList.drop offset).take n)
          label := p.label
          position := Text.placeAfter (source.toList.take offset)
          span := ⟨Text.byteLength (source.toList.take offset),
            Text.byteLength (source.toList.take (offset + n))⟩
          offset := offset } := by
  have hafter : (onSourceAt patterns source filename (offset + n)).cursor.bytePos
      = Text.byteLength (source.toList.take (offset + n)) :=
    Cursor.after_bytePos _
  rw [tokenOf, (aligned_onSourceAt h).position, (aligned_onSourceAt h).bytePos,
    before_onSourceAt h, slice_source, pos_onSourceAt h, text_onSourceAt, advance_onSourceAt h,
    hafter]

/-! ## One step -/

theorem firstMatch_eq_some {l : Lexer} {ps : List Pattern} {p : Pattern} {m : Nat}
    (h : l.firstMatch ps = .ok (some (p, m))) :
    ∃ n : Int, m = n.toNat ∧ l.lengthOf p = .ok (some n)
      ∧ ∃ earlier later, ps = earlier ++ p :: later ∧ ∀ q ∈ earlier, l.lengthOf q = .ok none := by
  induction ps with
  | nil => cases h
  | cons q ps ih =>
    unfold firstMatch at h
    split at h
    · cases h
    · rename_i n hlength
      cases h
      exact ⟨n, rfl, hlength, [], ps, rfl, List.forall_mem_nil _⟩
    · rename_i hlength
      obtain ⟨n, hm, hp, earlier, later, rfl, hearlier⟩ := ih h
      exact ⟨n, hm, hp, q :: earlier, later, rfl, List.forall_mem_cons.mpr ⟨hlength, hearlier⟩⟩

theorem firstMatch_of_first {l : Lexer} {p : Pattern} {n : Int} (h : l.lengthOf p = .ok (some n))
    {earlier : List Pattern} (hearlier : ∀ q ∈ earlier, l.lengthOf q = .ok none)
    (later : List Pattern) :
    l.firstMatch (earlier ++ p :: later) = .ok (some (p, n.toNat)) := by
  induction earlier with
  | nil => rw [List.nil_append, firstMatch, h]
  | cons q earlier ih =>
    obtain ⟨hq, hearlier⟩ := List.forall_mem_cons.mp hearlier
    rw [List.cons_append, firstMatch, hq]
    exact ih hearlier

theorem firstMatch_eq_none_iff {l : Lexer} {ps : List Pattern} :
    l.firstMatch ps = .ok none ↔ ∀ p ∈ ps, l.lengthOf p = .ok none := by
  induction ps with
  | nil =>
    constructor
    · intro _ p hp
      cases hp
    · intro _
      rfl
  | cons p ps ih =>
    rw [List.forall_mem_cons, ← ih, firstMatch]
    cases hlength : l.lengthOf p with
    | error t => simp
    | ok found =>
      cases found with
      | none => simp
      | some n => simp

/-- The first match is what is chosen. -/
theorem firstMatch_of_chooses (filename : String) (h : offset ≤ source.length) {p : Pattern}
    {n : Nat} (hchosen : Chooses patterns source offset p n) :
    (onSourceAt patterns source filename offset).firstMatch patterns = .ok (some (p, n)) := by
  obtain ⟨earlier, later, hpatterns, hearlier⟩ := hchosen.first
  have hlater := firstMatch_of_first (l := onSourceAt patterns source filename offset)
    ((lengthOf_onSourceAt h p).trans hchosen.taken)
    (fun q hq => (lengthOf_onSourceAt h q).trans (hearlier q hq)) later
  rwa [← hpatterns] at hlater

/-- **There is one choice at an offset.** -/
theorem eq_of_chooses {p q : Pattern} {n m : Nat} (hp : Chooses patterns source offset p n)
    (hq : Chooses patterns source offset q m) : p = q ∧ n = m := by
  have hoffset : offset ≤ source.length := by
    have hlt := (Pattern.takes_of_matchLength hp.taken).1
    rw [List.size_toArray, String.length_toList] at hlt
    exact Nat.le_of_lt hlt
  have hfirst := firstMatch_of_chooses unnamedSource hoffset hp
  rw [firstMatch_of_chooses unnamedSource hoffset hq] at hfirst
  cases hfirst
  exact ⟨rfl, rfl⟩

/-- Where there is a choice, some pattern matches. -/
theorem not_noneMatches_of_chooses {p : Pattern} {n : Int}
    (h : Chooses patterns source offset p n) : ¬ NoneMatches patterns source offset := by
  intro hnone
  obtain ⟨earlier, later, hpatterns, -⟩ := h.first
  have hmem : p ∈ patterns := hpatterns ▸ List.mem_append_right _ List.mem_cons_self
  have htaken := h.taken
  rw [hnone p hmem] at htaken
  cases htaken

/-- **The next token is the one that is chosen.** -/
theorem next_of_chooses (filename : String) (h : offset ≤ source.length) {p : Pattern} {n : Nat}
    (hchosen : Chooses patterns source offset p n) (hn : 0 < n) :
    (onSourceAt patterns source filename offset).next
      = .ok (some ((onSourceAt patterns source filename offset).tokenOf p n,
          onSourceAt patterns source filename (offset + n))) := by
  have hfirst := firstMatch_of_chooses filename h hchosen
  -- there is a character, since the pattern takes one
  have hlt : offset < source.toList.length := by
    have hle := Pattern.matchAt_le hchosen.taken
    rw [String.length_toList]
    omega
  unfold next
  rw [chars_getElem?, text_onSourceAt, pos_onSourceAt h, List.getElem?_eq_getElem hlt]
  dsimp only [patterns_onSourceAt]
  rw [hfirst, ← advance_onSourceAt h n]

/-- **What is read next has been chosen.** -/
theorem chooses_of_next (h : offset ≤ source.length) {t : Token} {l' : Lexer}
    (hnext : (onSourceAt patterns source filename offset).next = .ok (some (t, l')))
    (htext : t.text ≠ "") :
    ∃ p n, Chooses patterns source offset p (n : Nat) ∧ 0 < n
      ∧ t = (onSourceAt patterns source filename offset).tokenOf p n
      ∧ l' = onSourceAt patterns source filename (offset + n) := by
  obtain ⟨p, m, -, hfirst, rfl, rfl⟩ := next_eq_token hnext
  obtain ⟨n, rfl, hlength, earlier, later, hpatterns, hearlier⟩ := firstMatch_eq_some hfirst
  have hpos : 0 < n := by
    by_contra hn
    refine htext ?_
    have hzero : n.toNat = 0 := by omega
    rw [hzero, tokenOf, slice_source]
    rfl
  obtain ⟨n, rfl⟩ := Int.eq_ofNat_of_zero_le (Int.le_of_lt hpos)
  rw [lengthOf_onSourceAt h] at hlength
  refine ⟨p, n, ⟨hlength, earlier, later, hpatterns, fun q hq => ?_⟩, by omega, rfl,
    advance_onSourceAt h n⟩
  rw [← lengthOf_onSourceAt h]
  exact hearlier q hq

/-- **There is an error exactly where no pattern matches a character.** -/
theorem next_eq_error_iff (h : offset ≤ source.length) {e : LexError} :
    (onSourceAt patterns source filename offset).next = .error (.error e)
      ↔ NoneMatches patterns source offset
        ∧ ∃ c, source.toList[offset]? = some c
          ∧ e = (onSourceAt patterns source filename offset).errorAt c := by
  have hnone : (onSourceAt patterns source filename offset).firstMatch patterns = .ok none
      ↔ NoneMatches patterns source offset := by
    rw [firstMatch_eq_none_iff]
    exact forall₂_congr fun p _ => by rw [lengthOf_onSourceAt h]
  constructor
  · intro hnext
    obtain ⟨c, hc, hfirst, he⟩ := next_eq_error hnext
    rw [text_onSourceAt, pos_onSourceAt h] at hc
    exact ⟨hnone.mp hfirst, c, hc, he⟩
  · rintro ⟨hunmatched, c, hc, rfl⟩
    unfold next
    rw [chars_getElem?, text_onSourceAt, pos_onSourceAt h, hc]
    dsimp only [patterns_onSourceAt]
    rw [hnone.mpr hunmatched]

/-! ## Draining, by what is read -/

/-- **Draining reads on from where a reading of some characters ends.** -/
theorem drain_of_reads {l l' : Lexer} {ts : List Token} (h : Reads l ts l')
    (hts : ∀ t ∈ ts, t.text ≠ "") (fuel : Nat) :
    drain (ts.length + fuel) l
      = { drain fuel l' with tokens := ts ++ (drain fuel l').tokens } := by
  induction h with
  | nil l => rw [List.length_nil, Nat.zero_add, List.nil_append]
  | @cons l m l'' t ts first rest ih =>
    obtain ⟨ht, hts⟩ := List.forall_mem_cons.mp hts
    have hempty : t.text.isEmpty = false := by simpa using ht
    rw [List.length_cons, Nat.add_right_comm, drain, first]
    simp only [hempty, Bool.false_eq_true, ite_false]
    rw [ih hts]
    rfl

/-- A reading of some characters leaves as much less to read, which is at least
as many characters as there are tokens. -/
theorem Reads.left {l l' : Lexer} {ts : List Token} (h : Reads l ts l')
    (hts : ∀ t ∈ ts, t.text ≠ "") : ts.length + l'.left ≤ l.left := by
  induction h with
  | nil l => exact Nat.le_of_eq (Nat.zero_add _)
  | @cons l m l'' t ts first rest ih =>
    obtain ⟨ht, hts⟩ := List.forall_mem_cons.mp hts
    have hrest := ih hts
    have hleft := left_of_next first
    have hpos : 0 < t.text.length := by
      rw [Nat.pos_iff_ne_zero, ne_eq, String.length_eq_zero_iff]
      exact ht
    have hlt : 0 < l.left := by
      obtain ⟨-, -, hlt, -⟩ := next_eq_token first
      rw [left_eq]
      omega
    rw [List.length_cons]
    omega

/-- Draining a lexer after a reading, by what the reading leaves. -/
theorem all_of_reads {l l' : Lexer} {ts : List Token} (h : Reads l ts l')
    (hts : ∀ t ∈ ts, t.text ≠ "") :
    ∃ fuel, l'.left ≤ fuel
      ∧ l.all = { drain fuel l' with tokens := ts ++ (drain fuel l').tokens } := by
  have hleft := h.left hts
  refine ⟨l.left - ts.length, by omega, ?_⟩
  rw [← drain_of_reads h hts, all, Nat.add_sub_cancel' (by omega)]

/-- **Draining comes to the end just where a reading does.** -/
theorem all_eq_of_reads_end {l l' : Lexer} {ts : List Token} (h : Reads l ts l')
    (hts : ∀ t ∈ ts, t.text ≠ "") (hend : l'.next = .ok none) : l.all = ⟨ts, none, l'⟩ := by
  obtain ⟨fuel, -, hall⟩ := all_of_reads h hts
  have hdrain : drain fuel l' = ⟨[], none, l'⟩ := by
    cases fuel with
    | zero => rfl
    | succ fuel => rw [drain, hend]
  rw [hall, hdrain, List.append_nil]

/-- **Draining stops at an error just where a reading does.** -/
theorem all_eq_of_reads_error {l l' : Lexer} {ts : List Token} {e : LexError} (h : Reads l ts l')
    (hts : ∀ t ∈ ts, t.text ≠ "") (herror : l'.next = .error (.error e)) :
    l.all = ⟨ts, some (.error e), l'⟩ := by
  obtain ⟨fuel, hfuel, hall⟩ := all_of_reads h hts
  have hdrain : drain fuel l' = ⟨[], some (.error e), l'⟩ := by
    cases fuel with
    | zero =>
      -- there is a character left, at which the error is
      obtain ⟨c, hc, -⟩ := next_eq_error herror
      have hlt := (List.getElem?_eq_some_iff.mp hc).1
      rw [left_eq] at hfuel
      omega
    | succ fuel => rw [drain, herror]
  rw [hall, hdrain, List.append_nil]

/-! ## Readings follow the choices -/

/-- A reading can be gone on with. -/
theorem Reads.append {l m l' : Lexer} {a b : List Token} (ha : Reads l a m) (hb : Reads m b l') :
    Reads l (a ++ b) l' := by
  induction ha with
  | nil l => exact hb
  | cons first rest ih => exact .cons first (ih hb)

/-- **Where the choices come to, a reading comes to.** -/
theorem exists_reads_of_reaches (filename : String) (h : Reaches patterns source offset) :
    ∃ ts, (∀ t ∈ ts, t.text ≠ "")
      ∧ Reads (onSource patterns source filename) ts
        (onSourceAt patterns source filename offset) := by
  induction h with
  | start => exact ⟨[], List.forall_mem_nil _, .nil _⟩
  | @step offset n p before chosen pos ih =>
    obtain ⟨ts, hts, hreads⟩ := ih
    have hoffset := before.le_length
    have hnext := next_of_chooses filename hoffset chosen pos
    refine ⟨ts ++ [_], List.forall_mem_append.mpr ⟨hts, ?_⟩, hreads.append (.cons hnext (.nil _))⟩
    rintro t ht hempty
    rw [List.mem_singleton.mp ht] at hempty
    have hlength := congrArg String.length hempty
    have hle := Pattern.matchAt_le chosen.taken
    rw [tokenOf, String.length_ofList, slice_source, pos_onSourceAt hoffset, text_onSourceAt,
      List.length_take, List.length_drop, String.length_toList] at hlength
    simp only [String.length_empty] at hlength
    omega

/-- **A reading of some characters follows the choices**, and each of its tokens
is the one that is chosen at its offset. -/
theorem Reads.follows {l' : Lexer} {ts : List Token}
    (h : Reads (onSourceAt patterns source filename offset) ts l')
    (hreached : Reaches patterns source offset) (hts : ∀ t ∈ ts, t.text ≠ "") :
    (∃ offset', Reaches patterns source offset'
        ∧ l' = onSourceAt patterns source filename offset')
      ∧ ∀ t ∈ ts, ∃ p, Chooses patterns source t.offset p t.length
        ∧ t.kind = p.kind ∧ t.label = p.label := by
  induction ts generalizing offset with
  | nil =>
    cases h
    exact ⟨⟨offset, hreached, rfl⟩, List.forall_mem_nil _⟩
  | cons t ts ih =>
    obtain ⟨ht, htail⟩ := List.forall_mem_cons.mp hts
    cases h with
    | cons first rest =>
      have hoffset := hreached.le_length
      obtain ⟨p, n, hchosen, hn, rfl, rfl⟩ := chooses_of_next hoffset first ht
      obtain ⟨hends, hrest⟩ := ih rest (hreached.step hchosen hn) htail
      refine ⟨hends, List.forall_mem_cons.mpr ⟨⟨p, ?_, rfl, rfl⟩, hrest⟩⟩
      have hle := Pattern.matchAt_le hchosen.taken
      rw [tokenOf_onSourceAt hoffset, Token.length, String.length_ofList, List.length_take,
        List.length_drop, String.length_toList, Nat.min_eq_left (by omega)]
      exact hchosen

/-- **A token among those of a source**: what is spelled before it, it and what is
spelled after it make up the source, and its offset is the length of what is
before. -/
theorem partition_split {a b : List Token} {t : Token} (h : Partition source (a ++ t :: b)) :
    source.toList = Token.spelled a ++ (t.text.toList ++ Token.spelled b)
      ∧ t.offset = (Token.spelled a).length := by
  refine ⟨?_, ?_⟩
  · rw [← Token.spelled_cons, ← Token.spelled_append, ← Token.toList_join_text, h.join]
  · have hsum := h.offset a.length (by simp)
    rw [List.getElem_append_right (Nat.le_refl _), List.take_left] at hsum
    rw [Token.length_spelled, ← hsum]
    simp

/-- **A token that is cut by a first match is the next one** at its offset. -/
theorem next_of_cut {a b : List Token} {t : Token}
    (h : CutByFirstMatch patterns source (a ++ t :: b)) :
    (Token.spelled a).length ≤ source.length
      ∧ (onSourceAt patterns source filename (Token.spelled a).length).next
        = .ok (some
          (t, onSourceAt patterns source filename (Token.spelled (a ++ [t])).length)) := by
  have hmem : t ∈ a ++ t :: b := List.mem_append_right a List.mem_cons_self
  obtain ⟨hjoin, hoffset⟩ := partition_split h.partition
  have hle : (Token.spelled a).length ≤ source.length := by
    rw [← String.length_toList, hjoin, List.length_append]
    exact Nat.le_add_right _ _
  have hslice : (source.toList.drop t.offset).take t.length = t.text.toList := by
    rw [hjoin, hoffset, List.drop_left, Token.length, ← String.length_toList, List.take_left]
  have hpos : 0 < t.length := by
    rw [Nat.pos_iff_ne_zero, Token.length, ne_eq, String.length_eq_zero_iff]
    exact h.partition.nonempty t hmem
  obtain ⟨p, hchosen, hkind, hlabel⟩ := h.chosen t hmem
  have hnext := next_of_chooses filename (hoffset ▸ hle) hchosen hpos
  have htoken : (onSourceAt patterns source filename t.offset).tokenOf p t.length = t := by
    rw [tokenOf_onSourceAt (hoffset ▸ hle), hslice, ← h.position t hmem, ← h.span t hmem, ← hkind,
      ← hlabel, String.ofList_toList]
  have hafter : t.offset + t.length = (Token.spelled (a ++ [t])).length := by
    rw [Token.spelled_append, List.length_append, hoffset, Token.spelled_cons, List.length_append,
      Token.length, String.length_toList]
    rfl
  rw [htoken, hafter, hoffset] at hnext
  exact ⟨hle, hnext⟩

/-- **Tokens that are cut by first matches are a reading of the source.** -/
theorem reads_of_cut {a b : List Token} (h : CutByFirstMatch patterns source (a ++ b)) :
    Reads (onSourceAt patterns source filename (Token.spelled a).length) b
      (onSourceAt patterns source filename source.length) := by
  induction b generalizing a with
  | nil =>
    rw [List.append_nil] at h
    rw [← Token.toList_join_text, h.partition.join, String.length_toList]
    exact .nil _
  | cons t b ih =>
    refine .cons (next_of_cut h).2 (ih ?_)
    rwa [List.append_assoc]

/-- At the end of a source there is nothing to read. -/
theorem next_onSourceAt_length :
    (onSourceAt patterns source filename source.length).next = .ok none := by
  rw [next_eq_none_iff, text_onSourceAt, pos_onSourceAt (Nat.le_refl _), String.length_toList]

/-- **Draining a source follows the choices** from its start. -/
theorem all_follows (patterns : List Pattern) (source filename : String) :
    (∃ offset, Reaches patterns source offset
        ∧ (onSource patterns source filename).all.lexer
          = onSourceAt patterns source filename offset)
      ∧ ∀ t ∈ (onSource patterns source filename).all.tokens, ∃ p,
        Chooses patterns source t.offset p t.length ∧ t.kind = p.kind ∧ t.label = p.label := by
  have hreads := reads_drain (onSource patterns source filename).left
    (onSource patterns source filename)
  rw [← onSourceAt_zero] at hreads
  exact hreads.follows .start fun t ht => nonempty_of_mem_drain ht

/-- **The tokens of a source, if there are any, are cut by first matches.** -/
theorem cutByFirstMatch_all (h : (onSource patterns source filename).all.stop = none) :
    CutByFirstMatch patterns source (onSource patterns source filename).all.tokens := by
  have hreads := reads_drain (onSource patterns source filename).left
    (onSource patterns source filename)
  have haligned := aligned_start (.mk patterns filename .empty .start) source
  have hcut := fun t ht => hreads.cut_at_offset haligned (t := t) ht
  refine ⟨partition_all _ source h, (all_follows patterns source filename).2,
    fun t ht => (hcut t ht).1.position, fun t ht => ?_⟩
  obtain ⟨hplace, htext⟩ := hcut t ht
  rw [hplace.span, htext, ← List.take_add]
  rfl

/-- What an error at an offset says. -/
theorem eq_errorAt_iff (h : offset ≤ source.length) {e : LexError} {c : Char} :
    e = (onSourceAt patterns source filename offset).errorAt c
      ↔ e.char = .singleton c
        ∧ (⟨e.line, e.column⟩ : Position) = Text.placeAfter (source.toList.take offset)
        ∧ e.filename = filename := by
  have hplace : (onSourceAt patterns source filename offset).cursor.position
      = Text.placeAfter (source.toList.take offset) := by
    rw [(aligned_onSourceAt h).position, before_onSourceAt h]
  rw [← hplace]
  obtain ⟨char, line, column, name⟩ := e
  simp only [errorAt, Cursor.position, LexError.mk.injEq, Position.mk.injEq, and_assoc]
  rfl

/-- **The choices fail at an offset just when they come to it and there is no
next token** for want of a pattern. -/
theorem failsAt_iff {e : LexError} :
    FailsAt patterns source filename offset e
      ↔ Reaches patterns source offset
        ∧ (onSourceAt patterns source filename offset).next = .error (.error e) := by
  constructor
  · intro h
    have hoffset := h.reached.le_length
    obtain ⟨c, hc, hchar⟩ := h.char
    exact ⟨h.reached, (next_eq_error_iff hoffset).mpr
      ⟨h.unmatched, c, hc, (eq_errorAt_iff hoffset).mpr ⟨hchar, h.place, h.filename⟩⟩⟩
  · rintro ⟨hreached, hnext⟩
    have hoffset := hreached.le_length
    obtain ⟨hunmatched, c, hc, he⟩ := (next_eq_error_iff hoffset).mp hnext
    obtain ⟨hchar, hplace, hfilename⟩ := (eq_errorAt_iff hoffset).mp he
    exact ⟨hreached, hunmatched, ⟨c, hc, hchar⟩, hplace, hfilename⟩

/-! ## Errors come again -/

/-- A lexer that finds no token for want of a pattern finds none again. -/
theorem performAll_replicate_next {l : Lexer} {e : LexError} (h : l.next = .error (.error e))
    (n : Nat) : l.performAll (List.replicate n .next) = l := by
  have hperform : (l.perform .next).2 = l := by
    simp only [perform, h]
  induction n with
  | zero => rfl
  | succ n ih =>
    rw [List.replicate_succ, performAll, List.foldl_cons, hperform]
    exact ih

end Lexer

open Lexer

/-! ## Reading a source -/

section

variable {patterns : List Pattern} {source filename : String}

/-- There are tokens when draining is not stopped. -/
theorem tokenize_eq_ok_iff {ts : List Token} :
    tokenize patterns source filename = .ok ts
      ↔ (onSource patterns source filename).all.stop = none
        ∧ (onSource patterns source filename).all.tokens = ts := by
  unfold tokenize Run.result
  cases (onSource patterns source filename).all.stop with
  | none => simp
  | some stop => simp

/-- **A token of a source is cut out of it at its offset**, and has a character. -/
theorem cut_of_mem_tokenize {ts : List Token} (h : tokenize patterns source filename = .ok ts)
    {t : Token} (ht : t ∈ ts) :
    t.CutAfter (source.toList.take t.offset)
      ∧ t.text.toList = (source.toList.drop t.offset).take t.length ∧ t.text ≠ "" := by
  obtain ⟨-, rfl⟩ := tokenize_eq_ok_iff.mp h
  have hstart : (onSource patterns source filename).Aligned := aligned_start _ source
  obtain ⟨hcut, htext⟩ := (reads_drain _ _).cut_at_offset hstart ht
  exact ⟨hcut, htext, nonempty_of_mem_drain ht⟩

/-- There are none when it is, for the same reason. -/
theorem tokenize_eq_error_iff {stop : LexStop} :
    tokenize patterns source filename = .error stop
      ↔ (onSource patterns source filename).all.stop = some stop := by
  unfold tokenize Run.result
  cases (onSource patterns source filename).all.stop with
  | none => simp
  | some stop' => simp

/-- **Tokens that are cut by first matches are what draining gives.** -/
theorem all_of_cut (filename : String) {ts : List Token} (h : CutByFirstMatch patterns source ts) :
    (onSource patterns source filename).all
      = ⟨ts, none, onSourceAt patterns source filename source.length⟩ :=
  all_eq_of_reads_end (reads_of_cut (a := []) h) h.partition.nonempty next_onSourceAt_length

/-- **Where the choices fail, draining stops.** -/
theorem all_of_failsAt {offset : Nat} {e : LexError}
    (h : FailsAt patterns source filename offset e) :
    ∃ ts, (onSource patterns source filename).all
      = ⟨ts, some (.error e), onSourceAt patterns source filename offset⟩ := by
  obtain ⟨ts, hts, hreads⟩ := exists_reads_of_reaches filename h.reached
  exact ⟨ts, all_eq_of_reads_error hreads hts (failsAt_iff.mp h).2⟩

end

/-- **The first pattern that matches makes the token.** Reading a source gives
the one list of tokens that is cut by first matches, if there is one; it
ends in an error just where the choices fail, and the error tells of the
offset at which they do; and the lexer stays at that offset, so that asking
for the next token any number of times leads to the same error. -/
theorem tokenize_chooses_firstMatch (patterns : List Pattern) (source filename : String) :
    (∀ ts, tokenize patterns source filename = .ok ts
        ↔ CutByFirstMatch patterns source ts
          ∧ ∀ ts', CutByFirstMatch patterns source ts' → ts' = ts)
      ∧ (∀ e, tokenize patterns source filename = .error (.error e)
        ↔ ∃ offset, FailsAt patterns source filename offset e)
      ∧ ∀ offset e, FailsAt patterns source filename offset e → ∀ n,
        let l := (onSource patterns source filename).all.lexer.performAll (List.replicate n .next)
        l.cursor.pos = offset ∧ (l.perform .next).1 = .stopped [] (.error e) := by
  refine ⟨fun ts => ?_, fun e => ?_, fun offset e h n => ?_⟩
  · rw [tokenize_eq_ok_iff]
    constructor
    · rintro ⟨hstop, rfl⟩
      exact ⟨cutByFirstMatch_all hstop, fun ts' h' => by rw [all_of_cut filename h']⟩
    · rintro ⟨h, -⟩
      rw [all_of_cut filename h]
      exact ⟨rfl, rfl⟩
  · rw [tokenize_eq_error_iff]
    constructor
    · intro hstop
      obtain ⟨⟨offset, hreached, hlexer⟩, -⟩ := all_follows patterns source filename
      have hnext : (onSource patterns source filename).all.lexer.next = .error (.error e) :=
        next_of_drain_stop hstop
      rw [hlexer] at hnext
      exact ⟨offset, failsAt_iff.mpr ⟨hreached, hnext⟩⟩
    · rintro ⟨offset, h⟩
      obtain ⟨ts, hall⟩ := all_of_failsAt h
      rw [hall]
  · obtain ⟨ts, hall⟩ := all_of_failsAt h
    have hnext := (failsAt_iff.mp h).2
    rw [hall, performAll_replicate_next hnext]
    refine ⟨pos_onSourceAt h.reached.le_length, ?_⟩
    simp only [perform, hnext]

/-- A keyword before names: the keyword is chosen also where a name would be
longer. -/
def keywordPatterns : List Pattern := [⟨"keyword", 0, .literal "let"⟩, ⟨"name", 1, .range 'a' 'z'⟩]

example : (tokenize keywordPatterns "letter").map (List.map Token.text) = .ok ["let", "ter"] := by
  decide +kernel

/-- After a keyword and a name, nothing matches a question mark, however often
it is tried. -/
theorem tokenize_chooses_firstMatch_keyword : ∃ e,
    tokenize keywordPatterns "letter?" = .error (.error e)
      ∧ FailsAt keywordPatterns "letter?" unnamedSource 6 e
      ∧ ∀ n,
        let l := (onSource keywordPatterns "letter?").all.lexer.performAll (List.replicate n .next)
        l.cursor.pos = 6 ∧ (l.perform .next).1 = .stopped [] (.error e) := by
  obtain ⟨-, herror, hstays⟩ :=
    tokenize_chooses_firstMatch keywordPatterns "letter?" unnamedSource
  have he : tokenize keywordPatterns "letter?"
      = .error (.error ⟨"?", 1, 7, unnamedSource⟩) := by decide +kernel
  obtain ⟨offset, hfails⟩ := (herror _).mp he
  have hoffset : offset = 6 := by
    have hpos := (hstays offset _ hfails 0).1
    have hsix : (onSource keywordPatterns "letter?").all.lexer.cursor.pos = 6 := by decide +kernel
    exact hpos.symm.trans hsix
  subst hoffset
  exact ⟨_, he, hfails, hstays 6 _ hfails⟩

end ParseKit

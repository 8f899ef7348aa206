import ParseKit.Proofs.Lexing.Matching
import ParseKit.Proofs.Lexing.SideBySide

/-!
# Lexing can be restarted at a token boundary

A lexer in the middle of a source and a fresh one at the start of what is
left of it have nothing in common but the characters to come: the sources
differ, and all four numbers of the cursors. If no pattern looks before the
position at which it is tried, they read the same tokens nevertheless, each
with its place moved **past** the text before (`restart_at_token_boundary`).

Offsets and spans move by the length of that text, in characters and in
bytes, and lines by its line feeds. Columns move in the first line of
the fresh source alone, since it goes on where the text before has ended;
`Text.placeAfter_append` says so, and it is all that has to be known about
line feeds inside of tokens.
-/

namespace ParseKit

/-! ## Places after some text -/

/-- **A position past some text**: further down by its lines, and in the first line
further right by the columns of its last one. -/
def Position.past (before : List Char) (q : Position) : Position where
  line := q.line + before.count '\n'
  column := if q.line = 1 then q.column + ((Text.placeAfter before).column - 1) else q.column

/-- A token with its place past some text. -/
def Token.past (before : List Char) (t : Token) : Token where
  kind := t.kind
  text := t.text
  label := t.label
  position := t.position.past before
  span := ⟨t.span.start + Text.byteLength before, t.span.stop + Text.byteLength before⟩
  offset := t.offset + before.length

/-- An error with its place past some text. -/
def LexError.past (before : List Char) (e : LexError) : LexError where
  char := e.char
  line := (Position.past before ⟨e.line, e.column⟩).line
  column := (Position.past before ⟨e.line, e.column⟩).column
  filename := e.filename

/-- **The place after two texts is the place after the second, past the first.** -/
theorem Text.placeAfter_append (a b : List Char) :
    placeAfter (a ++ b) = (placeAfter b).past a := by
  have hline : (placeAfter (a ++ b)).line = ((placeAfter b).past a).line := by
    show 1 + ((a ++ b).count '\n' : Int) = 1 + (b.count '\n' : Int) + (a.count '\n' : Int)
    rw [List.count_append]
    omega
  have hcolumn : (placeAfter (a ++ b)).column = ((placeAfter b).past a).column := by
    show ((a ++ b).length : Int) - lastBreak (a ++ b)
      = if 1 + (b.count '\n' : Int) = 1 then
          (b.length : Int) - lastBreak b + ((a.length : Int) - lastBreak a - 1)
        else (b.length : Int) - lastBreak b
    rw [List.length_append]
    by_cases hb : '\n' ∈ b
    · have hcount : 0 < b.count '\n' := List.count_pos_iff.mpr hb
      rw [if_neg (by omega), lastBreak_append_of_mem a hb]
      omega
    · rw [if_pos (by rw [List.count_eq_zero_of_not_mem hb]; rfl),
        lastBreak_append_of_not_mem a hb, lastBreak_of_not_mem hb]
      omega
  calc placeAfter (a ++ b) = ⟨(placeAfter (a ++ b)).line, (placeAfter (a ++ b)).column⟩ := rfl
    _ = (placeAfter b).past a := by rw [hline, hcolumn]

example : Text.placeAfter "a\nbc".toList = (Text.placeAfter "c".toList).past "a\nb".toList := by
  decide

/-! ## Patterns that do not look back -/

namespace Pattern

/-- **Whether a pattern never looks before the position at which it is tried.** A
literal and a range do not, and an expression does by what it contains. -/
def looksAhead (p : Pattern) : Bool :=
  match p.matcher with
  | .text _ r | .bytes _ r => r.looksAhead
  | _ => true

variable (before rest : List Char) (pos : Nat)

theorem getElem?_past : (before ++ rest)[before.length + pos]? = rest[pos]? := by
  rw [List.getElem?_append_right (Nat.le_add_right ..), Nat.add_sub_cancel_left]

theorem rangeLength_past (low high : Char) (fuel : Nat) :
    rangeLength (before ++ rest).toArray low high (before.length + pos) fuel
      = rangeLength rest.toArray low high pos fuel := by
  induction fuel generalizing pos with
  | zero => rfl
  | succ fuel ih =>
    unfold rangeLength
    rw [List.getElem?_toArray, List.getElem?_toArray, getElem?_past, Nat.add_assoc, ih]

/-- What follows some characters is what is left of all of them. -/
theorem leftAfter_ofChars :
    (Subject.ofChars rest.toArray).LeftAfter before.length (.ofChars (before ++ rest).toArray) := by
  refine ⟨?_, fun i => ?_⟩
  · show (before ++ rest).toArray.size = before.length + rest.toArray.size
    simp
  · show ((before ++ rest).toArray.getD (before.length + i) _).toNat
      = (rest.toArray.getD i _).toNat
    rw [Array.getD_eq_getD_getElem?, Array.getD_eq_getD_getElem?, List.getElem?_toArray,
      List.getElem?_toArray, getElem?_past]

/-- An expression over bytes takes as many characters past some text as without it. -/
theorem bytesLength_past {r : Regex} (hr : r.looksAhead = true) (bytePos : Nat) :
    bytesLength r ⟨Text.encode (before ++ rest), Text.byteLength before + bytePos⟩
      = bytesLength r ⟨Text.encode rest, bytePos⟩ := by
  have hmatch := Regex.matchEnd_leftAfter
    (leftAfter_ofBytes (Text.encode before) (Text.encode rest)) hr bytePos
  unfold bytesLength
  rw [Text.encode_append, ← Text.size_encode]
  dsimp only
  rw [hmatch]
  cases r.matchEnd (.ofBytes (Text.encode rest)) bytePos with
  | error t => simp only [Except.map]
  | ok found =>
    cases found with
    | none => simp only [Except.map, Option.map_none]
    | some stop => simp only [Except.map, Option.map_some, ByteArray.extract_append_size_add]

variable {before rest pos}

/-- **A matcher takes as many characters past some text as without it**, if it does not
look back. -/
theorem takes_past {p : Pattern} (hp : p.looksAhead = true) (bytePos : Nat) :
    takes p.matcher (before ++ rest).toArray (before.length + pos)
        (some ⟨Text.encode (before ++ rest), Text.byteLength before + bytePos⟩)
      = takes p.matcher rest.toArray pos (some ⟨Text.encode rest, bytePos⟩) := by
  obtain ⟨label, kind, matcher⟩ := p
  cases matcher with
  | literal text =>
    have hstarts : startsAt (before ++ rest).toArray (before.length + pos) text.toList
        = startsAt rest.toArray pos text.toList := by
      rw [Bool.eq_iff_iff, startsAt_iff, startsAt_iff, List.drop_length_add_append]
    dsimp only [takes]
    rw [hstarts]
  | range low high =>
    have hleft : (before ++ rest).toArray.size - (before.length + pos)
        = rest.toArray.size - pos := by
      rw [List.size_toArray, List.size_toArray, List.length_append, Nat.add_sub_add_left]
    dsimp only [takes]
    rw [hleft, rangeLength_past]
  | text written r =>
    dsimp only [takes]
    rw [Regex.matchEnd_leftAfter (leftAfter_ofChars before rest) hp]
    cases r.matchEnd (.ofChars rest.toArray) pos with
    | error t => rfl
    | ok found =>
      cases found with
      | none => rfl
      | some stop =>
        show Except.ok (((before.length + stop : Nat) : Int) - (before.length + pos : Nat))
          = Except.ok ((stop : Int) - pos)
        congr 1
        omega
  | bytes written r =>
    dsimp only [takes, Option.getD_some]
    rw [bytesLength_past before rest hp]

/-- **A pattern that does not look back matches the same past some text as without it.** -/
theorem matchAt_past {p : Pattern} (hp : p.looksAhead = true) :
    p.matchAt (.ofList (before ++ rest)) (before.length + pos) = p.matchAt (.ofList rest) pos := by
  unfold matchAt matchLength
  rw [String.toList_ofList, String.toList_ofList, List.take_length_add_append,
    Text.byteLength_append, List.size_toArray, List.size_toArray, List.length_append]
  simp only [Nat.add_le_add_iff_left]
  split
  · rfl
  · exact congrArg _ (takes_past hp _)

end Pattern

namespace Lexer

/-! ## One lexer past the other -/

/-- **A lexer stands in the rest of a source, and another in the whole of it**, at the
same character and with the same patterns. -/
structure Past (before rest : List Char) (l m : Lexer) : Prop where
  /-- The first lexer has what is left. -/
  left : l.StandsIn (.ofList rest)
  /-- The second lexer has all. -/
  right : m.StandsIn (.ofList (before ++ rest))
  /-- The lexers stand at the same character. -/
  before_eq : m.before = before ++ l.before
  /-- The lexers have the same patterns. -/
  patterns_eq : m.patterns = l.patterns
  /-- The sources have the same name. -/
  filename_eq : m.filename = l.filename

namespace Past

variable {before rest : List Char} {l m : Lexer} (h : Past before rest l m)

include h

theorem text_left : l.text = rest := by rw [h.left.text_eq, String.toList_ofList]

theorem text_right : m.text = before ++ rest := by rw [h.right.text_eq, String.toList_ofList]

theorem pos_eq : m.cursor.pos = before.length + l.cursor.pos := by
  rw [← h.left.aligned.length_before, ← h.right.aligned.length_before, h.before_eq,
    List.length_append]

theorem bytePos_eq : m.cursor.bytePos = Text.byteLength before + l.cursor.bytePos := by
  rw [h.left.aligned.bytePos, h.right.aligned.bytePos, h.before_eq, Text.byteLength_append]

theorem position_eq : m.cursor.position = l.cursor.position.past before := by
  rw [h.left.aligned.position, h.right.aligned.position, h.before_eq, Text.placeAfter_append]

theorem slice_eq (n : Nat) :
    m.source.slice m.cursor.pos n = l.source.slice l.cursor.pos n := by
  rw [slice_source, slice_source, h.text_left, h.text_right, h.pos_eq,
    List.drop_length_add_append]

theorem char_eq : m.source.chars[m.cursor.pos]? = l.source.chars[l.cursor.pos]? := by
  rw [chars_getElem?, chars_getElem?, h.text_left, h.text_right, h.pos_eq, Pattern.getElem?_past]

/-- **The lexers stay together.** -/
theorem advance (n : Nat) : Past before rest (l.advance n) (m.advance n) := by
  refine ⟨h.left.advance n, h.right.advance n, ?_, h.patterns_eq, h.filename_eq⟩
  rw [before_advance, before_advance, h.before_eq, h.slice_eq, List.append_assoc]

theorem tokenOf_eq (p : Pattern) (n : Nat) : m.tokenOf p n = (l.tokenOf p n).past before := by
  have hstart := h.bytePos_eq
  have hstop := (h.advance n).bytePos_eq
  have hspan : (⟨(m.cursor.bytePos : Int), ((m.advance n).cursor.bytePos : Int)⟩ : Span)
      = ⟨(l.cursor.bytePos : Int) + Text.byteLength before,
          ((l.advance n).cursor.bytePos : Int) + Text.byteLength before⟩ := by
    rw [hstart, hstop, Int.natCast_add, Int.natCast_add, Int.add_comm (Text.byteLength before),
      Int.add_comm (Text.byteLength before)]
  unfold tokenOf Token.past
  dsimp only
  rw [hspan, h.slice_eq, h.position_eq, h.pos_eq, Nat.add_comm]

theorem errorAt_eq (c : Char) : m.errorAt c = (l.errorAt c).past before := by
  have hposition : (⟨(m.cursor.line : Int), (m.cursor.column : Int)⟩ : Position)
      = Position.past before ⟨(l.cursor.line : Int), (l.cursor.column : Int)⟩ := h.position_eq
  unfold errorAt LexError.past
  dsimp only
  rw [← hposition, h.filename_eq]

/-- **A pattern that does not look back matches the same.** -/
theorem lengthOf_eq {p : Pattern} (hp : p.looksAhead = true) : m.lengthOf p = l.lengthOf p := by
  rw [h.left.lengthOf, h.right.lengthOf, h.pos_eq, Pattern.matchAt_past hp]

end Past

/-- **The lexers go side by side**, if no pattern looks back. -/
theorem along_past (before rest : List Char) {patterns : List Pattern}
    (hpatterns : ∀ p ∈ patterns, p.looksAhead = true) :
    Along (fun l m => l.patterns = patterns ∧ Past before rest l m) (Token.past before)
      (LexError.past before) := by
  refine ⟨?_, ?_, fun t => rfl⟩
  · rintro l m ⟨rfl, h⟩
    have hchoice : m.choice m.patterns = l.choice l.patterns := by
      rw [h.patterns_eq]
      exact choice_congr fun p hp => h.lengthOf_eq (hpatterns p hp)
    exact nextAlike_of_choice h.char_eq hchoice h.tokenOf_eq h.errorAt_eq
      fun n => ⟨rfl, h.advance n⟩
  · rintro l m ⟨-, h⟩
    rw [left_eq, left_eq, h.text_left, h.text_right, h.pos_eq, List.length_append,
      Nat.add_sub_add_left]

/-- **Lexing can be restarted at a token boundary.** If no pattern of a table looks before
the position at which it is tried, and a lexer has come from the start of a
source to some offset, where it begins a token, fails or ends, then a fresh lexer
on what is left of the source reads what the lexer reads from there on. Each
token and each error has its place past the text before: as many characters, bytes and
lines further on as that text has, and in its first line as many columns. -/
theorem restart_at_token_boundary (patterns : List Pattern)
    (hpatterns : ∀ p ∈ patterns, p.looksAhead = true) (source filename : String) (k : Nat) :
    let original := ((onSource patterns source filename).take k).lexer
    let before := source.toList.take original.cursor.pos
    let fresh := onSource patterns (.ofList (source.toList.drop original.cursor.pos)) filename
    ReadAlike (fun l m => m.cursor.pos = before.length + l.cursor.pos) (Token.past before)
      (LexError.past before) fresh original := by
  intro original before fresh
  have hreads := reads_take k (onSource patterns source filename)
  have hstands : original.StandsIn source := (standsIn_onSource ..).reads hreads
  have hkeeps : original.patterns = patterns := congrArg Lexer.patterns hreads.eq_withCursor
  have hname : original.filename = filename := congrArg Lexer.filename hreads.eq_withCursor
  have hsource : source = .ofList (before ++ source.toList.drop original.cursor.pos) := by
    rw [List.take_append_drop, String.ofList_toList]
  have hpast : Past before (source.toList.drop original.cursor.pos) fresh original := by
    refine ⟨standsIn_onSource .., hsource ▸ hstands, ?_, hkeeps, hname⟩
    show original.text.take original.cursor.pos = before ++ []
    rw [hstands.text_eq, List.append_nil]
  exact (along_past before _ hpatterns).readAlike (fun h => h.2.pos_eq) ⟨rfl, hpast⟩

/-- A word that ends in a line feed, letters, a sign of three bytes and line feeds. -/
def signPatterns : List Pattern :=
  [⟨"opening", 0, .literal "é\n"⟩, ⟨"letters", 1, .range 'a' 'z'⟩,
    ⟨"sign", 2, .bytes "€".toUTF8 Pattern.euroSign⟩, ⟨"break", 3, .literal "\n"⟩]

/-- After two tokens, in the second line, the rest of a source is read as by a fresh
lexer: columns move in the line that goes on, and not in the one after it. -/
theorem restart_at_token_boundary_signs :
    (∀ p ∈ signPatterns, p.looksAhead = true)
      ∧ let original := ((onSource signPatterns "é\nab€\nb?").take 2).lexer
        original.cursor.pos = 4
          ∧ original.all.tokens
            = [⟨2, "€", "sign", ⟨2, 3⟩, ⟨5, 8⟩, 4⟩, ⟨3, "\n", "break", ⟨2, 4⟩, ⟨8, 9⟩, 5⟩,
              ⟨1, "b", "letters", ⟨3, 1⟩, ⟨9, 10⟩, 6⟩]
          ∧ original.all.stop = some (.error ⟨"?", 3, 2, unnamedSource⟩) := by
  have hahead : ∀ p ∈ signPatterns, p.looksAhead = true := by decide +kernel
  refine ⟨hahead, ?_⟩
  have halike := restart_at_token_boundary signPatterns hahead "é\nab€\nb?" unnamedSource 2
  intro original
  have hpos : original.cursor.pos = 4 := by decide +kernel
  refine ⟨hpos, ?_, ?_⟩
  · refine halike.all.tokens.trans ?_
    decide +kernel
  · refine halike.all.stop.trans ?_
    decide +kernel

end Lexer

end ParseKit

import ParseKit.Lexer
import Mathlib.Data.List.Basic

/-!
# Cursors and the text before them

A cursor counts four things side by side, and `Cursor.advance` moves them
by arithmetic on the piece of text that is stepped over: it adds lengths,
counts the line feeds of the piece, and restarts the column if there is
one. Nothing in a cursor remembers how it came to where it is.

This module says what the four numbers *mean*. A cursor is `Cursor.after`
some text when it is what one gets by stepping over that text from the
start, and stepping over two pieces is stepping over both at once
(`Cursor.advance_append`), so the cuts do not matter. The numbers of such a
cursor are the length of the text, its length in bytes, and its
`Text.placeAfter`: one more than its line feeds, and the distance from the
last of them.

Two places of one text are never the same, and a place further on is
further down, or further right in the same line
(`Text.placeAfter_take_before`).
-/

namespace ParseKit

namespace Text

/-! ## Bytes -/

@[simp] theorem byteLength_nil : byteLength [] = 0 := rfl

@[simp] theorem byteLength_append (a b : List Char) :
    byteLength (a ++ b) = byteLength a + byteLength b := by
  induction a with
  | nil => simp
  | cons c rest ih => rw [List.cons_append, byteLength, byteLength, ih, Nat.add_assoc]

theorem encode_append (a b : List Char) : encode (a ++ b) = encode a ++ encode b := by
  unfold encode
  rw [String.ofList_append]
  exact String.toByteArray_append

/-- `byteLength` is the size of the UTF-8 form. -/
@[simp] theorem size_encode (s : List Char) : (encode s).size = byteLength s := by
  induction s with
  | nil => rfl
  | cons c rest ih =>
    rw [← List.singleton_append, encode_append, ByteArray.size_append, ih, byteLength_append]
    congr 1
    show (String.ofList [c]).utf8ByteSize = c.utf8Size + 0
    simp

/-- **A slice of a text is the slice of its bytes** between the byte lengths
of what stands before it and of what it ends with. -/
theorem extract_encode (a b c : List Char) :
    (encode (a ++ b ++ c)).extract (byteLength a) (byteLength (a ++ b)) = encode b := by
  rw [encode_append, ← size_encode (a ++ b), ByteArray.extract_append_size_left, encode_append]
  refine ByteArray.extract_append_eq_right (size_encode a).symm ?_
  rw [ByteArray.size_append]

/-! ## Lines and columns -/

/-- **The index of the last line feed**, which is minus one where there is
none. -/
def lastBreak (s : List Char) : Int := (s.length : Int) - 1 - (s.reverse.idxOf '\n' : Nat)

example : lastBreak ['a', '\n', 'b', '\n', 'c'] = 3 := by decide

/-- **The line and column of what follows the given text**: one line more
than there are line feeds, and as many columns as characters since the last
of them. -/
def placeAfter (s : List Char) : Position :=
  ⟨1 + (s.count '\n' : Nat), (s.length : Int) - lastBreak s⟩

/-- Where there is no line feed, the index of the last one is minus one. -/
theorem lastBreak_of_not_mem {s : List Char} (h : '\n' ∉ s) : lastBreak s = -1 := by
  unfold lastBreak
  rw [List.idxOf_eq_length (fun hc => h (List.mem_reverse.mp hc)), List.length_reverse]
  omega

/-- Text after the last line feed does not move its index. -/
theorem lastBreak_append_of_not_mem (a : List Char) {b : List Char} (h : '\n' ∉ b) :
    lastBreak (a ++ b) = lastBreak a := by
  unfold lastBreak
  rw [List.reverse_append, List.idxOf_append_of_notMem (fun hc => h (List.mem_reverse.mp hc)),
    List.length_append, List.length_reverse]
  omega

/-- A line feed of the last piece is the last one of the whole. -/
theorem lastBreak_append_of_mem (a : List Char) {b : List Char} (h : '\n' ∈ b) :
    lastBreak (a ++ b) = a.length + lastBreak b := by
  unfold lastBreak
  rw [List.reverse_append, List.idxOf_append_of_mem (List.mem_reverse.mpr h), List.length_append]
  omega

/-- The distance from the last line feed, as `Cursor.tailLength` counts it. -/
theorem length_sub_lastBreak (s : List Char) :
    (s.length : Int) - lastBreak s = (Cursor.tailLength s : Nat) + 1 := by
  have htail : Cursor.tailLength s = s.reverse.idxOf '\n' := by
    unfold Cursor.tailLength
    rw [List.takeWhile_eq_take_findIdx_not, List.length_take,
      Nat.min_eq_left List.findIdx_le_length]
    simp [List.idxOf, bne]
  rw [htail, lastBreak]
  omega

end Text

/-- **One position stands before another**: in an earlier line, or further
left in the same one. -/
def Position.Before (a b : Position) : Prop :=
  a.line < b.line ∨ a.line = b.line ∧ a.column < b.column

instance (a b : Position) : Decidable (a.Before b) :=
  inferInstanceAs (Decidable (_ ∨ _ ∧ _))

/-- No position stands before itself, so positions in this order differ. -/
theorem Position.Before.ne {a b : Position} (h : a.Before b) : a ≠ b := by
  rintro rfl
  rcases h with h | ⟨-, h⟩
  · exact Int.lt_irrefl _ h
  · exact Int.lt_irrefl _ h

namespace Text

/-- **Some text more leads to a later place.** -/
theorem placeAfter_before_append (a : List Char) {b : List Char} (hb : b ≠ []) :
    (placeAfter a).Before (placeAfter (a ++ b)) := by
  have hlen : 0 < b.length := List.length_pos_of_ne_nil hb
  by_cases h : '\n' ∈ b
  · -- a line feed leads to a later line
    have hcount : 0 < b.count '\n' := List.count_pos_iff.mpr h
    refine Or.inl ?_
    simp only [placeAfter, List.count_append]
    omega
  · refine Or.inr ⟨?_, ?_⟩
    · simp only [placeAfter, List.count_append, List.count_eq_zero_of_not_mem h, Nat.add_zero]
    · simp only [placeAfter, List.length_append, lastBreak_append_of_not_mem a h]
      omega

/-- **Later offsets of one text have later places.** -/
theorem placeAfter_take_before (s : List Char) {p q : Nat} (hpq : p < q) (hq : q ≤ s.length) :
    (placeAfter (s.take p)).Before (placeAfter (s.take q)) := by
  have hsplit : s.take q = s.take p ++ (s.take q).drop p := by
    conv_lhs => rw [← List.take_append_drop p (s.take q)]
    rw [List.take_take, Nat.min_eq_left (Nat.le_of_lt hpq)]
  rw [hsplit]
  refine placeAfter_before_append _ (List.ne_nil_of_length_pos ?_)
  rw [List.length_drop, List.length_take]
  omega

end Text

/-! ## Stepping over text -/

attribute [ext] Cursor

namespace Cursor

/-- Characters after the last line feed add to the tail. -/
theorem tailLength_append_of_not_mem (a : List Char) {b : List Char} (h : '\n' ∉ b) :
    tailLength (a ++ b) = tailLength a + b.length := by
  have hab := Text.length_sub_lastBreak (a ++ b)
  have ha := Text.length_sub_lastBreak a
  rw [Text.lastBreak_append_of_not_mem a h, List.length_append] at hab
  omega

/-- A line feed of the last piece starts the tail anew. -/
theorem tailLength_append_of_mem (a : List Char) {b : List Char} (h : '\n' ∈ b) :
    tailLength (a ++ b) = tailLength b := by
  have hab := Text.length_sub_lastBreak (a ++ b)
  have hb := Text.length_sub_lastBreak b
  rw [Text.lastBreak_append_of_mem a h, List.length_append] at hab
  omega

@[simp] theorem advance_pos (c : Cursor) (text : List Char) :
    (c.advance text).pos = c.pos + text.length := rfl

@[simp] theorem advance_bytePos (c : Cursor) (text : List Char) :
    (c.advance text).bytePos = c.bytePos + Text.byteLength text := rfl

@[simp] theorem advance_line (c : Cursor) (text : List Char) :
    (c.advance text).line = c.line + text.count '\n' := rfl

theorem advance_column_of_mem (c : Cursor) {text : List Char} (h : '\n' ∈ text) :
    (c.advance text).column = tailLength text + 1 := by
  simp [advance, h]

theorem advance_column_of_not_mem (c : Cursor) {text : List Char} (h : '\n' ∉ text) :
    (c.advance text).column = c.column + text.length := by
  simp [advance, h]

/-- **Stepping over two pieces is stepping over both at once**, so that the
cuts do not show in the cursor. -/
theorem advance_append (c : Cursor) (a b : List Char) :
    c.advance (a ++ b) = (c.advance a).advance b := by
  have hcolumn : (c.advance (a ++ b)).column = ((c.advance a).advance b).column := by
    by_cases hb : '\n' ∈ b
    · rw [advance_column_of_mem _ (List.mem_append_right a hb), advance_column_of_mem _ hb,
        tailLength_append_of_mem a hb]
    · rw [advance_column_of_not_mem _ hb]
      by_cases ha : '\n' ∈ a
      · rw [advance_column_of_mem _ (List.mem_append_left b ha), advance_column_of_mem _ ha,
          tailLength_append_of_not_mem a hb]
        omega
      · have hab : '\n' ∉ a ++ b := fun h => (List.mem_append.mp h).elim ha hb
        rw [advance_column_of_not_mem _ hab, advance_column_of_not_mem _ ha,
          List.length_append, Nat.add_assoc]
  refine Cursor.ext ?_ ?_ ?_ hcolumn
  · simp only [advance_pos, List.length_append, Nat.add_assoc]
  · simp only [advance_bytePos, Text.byteLength_append, Nat.add_assoc]
  · simp only [advance_line, List.count_append, Nat.add_assoc]

/-- **The cursor after a text**, from the start. -/
def after (text : List Char) : Cursor := start.advance text

@[simp] theorem after_bytePos (text : List Char) :
    (after text).bytePos = Text.byteLength text :=
  Nat.zero_add _

/-- **The place of a cursor is the place after its text.** -/
theorem position_after (text : List Char) : (after text).position = Text.placeAfter text := by
  have htail := Text.length_sub_lastBreak text
  have hcolumn : ((after text).column : Int) = text.length - Text.lastBreak text := by
    by_cases h : '\n' ∈ text
    · rw [after, advance_column_of_mem _ h, htail]
      rfl
    · rw [after, advance_column_of_not_mem _ h, Text.lastBreak_of_not_mem h]
      show ((1 + text.length : Nat) : Int) = _
      omega
  show (⟨((after text).line : Int), ((after text).column : Int)⟩ : Position) = _
  rw [hcolumn]
  rfl

end Cursor

end ParseKit

import ParseKit.Pattern
import ParseKit.Proofs.Regex.Runs
import ParseKit.Proofs.Text.Encoding

/-!
# Words as patterns

Most characters of a pattern mean themselves. A pattern of such characters
alone is a **word**, and it is read as the row of its characters, over text
and over bytes alike (`compile_plain`). What it matches needs no engine to
be said: at a position it matches itself, where it is a prefix of what
follows, and nothing elsewhere (`matchEnd_ofChars`).

A pattern over bytes is a pattern over the characters with the codes of the
bytes, and the bytes it is matched against are a text of such characters
(`Subject.ofBytes_eq_ofChars`), so that nothing is proved twice. That a word
stays a word when it is written in bytes is a fact about UTF-8: a byte below
128 is a character of the word, and all signs with a meaning of their own are
such characters.
-/

namespace ParseKit

namespace Regex

/-! ## Reading -/

namespace Read

variable {α β : Type} {s s' : Scan} {w : List Char}

/-- Reading goes on from where the first part has come to. -/
theorem bind_ok {x : Read α} {f : α → Read β} {a : α} (h : x s = .ok (a, s')) :
    (x >>= f) s = f a s' := by
  show (x s >>= fun p => f p.1 p.2) = f a s'
  rw [h]
  rfl

theorem get_ok : (get : Read Scan) s = .ok (s, s) := rfl

theorem peek_ok : peek s = .ok (s.rest.head?, s) := rfl

theorem position_ok : position s = .ok (s.pos, s) := rfl

/-- No backslash ends a row of characters. -/
theorem head?_plain_ne (w : List Char) :
    ¬ ((w.map Symbol.plain).head? == some .dangling) = true := by
  cases w with
  | nil => simp
  | cons c w => simp

theorem next_plain {c : Char} (hs : s.rest = (c :: w).map .plain) :
    next s = .ok (some (.plain c), { s with rest := w.map .plain, pos := s.pos + 1 }) := by
  unfold next
  rw [bind_ok get_ok]
  dsimp only
  rw [hs, List.map_cons]
  dsimp only
  rw [if_neg (head?_plain_ne w)]
  rfl

/-- The pieces of a word, one for each character. -/
def wordPieces (w : List Char) : List Piece := w.map fun c => .one c.toNat false

variable (alphabet : Alphabet) {scope : Flags} (hscope : scope.verbose = false)

theorem sequence_nil (fuel : Nat) (scope : Flags) (first : Bool) (items : List Item)
    (hs : s.rest = []) :
    sequence alphabet (fuel + 1) scope first items s
      = .ok (items.reverse.flatMap Item.pieces, s) := by
  rw [sequence, bind_ok peek_ok, hs]
  rfl

include hscope

/-- A character that means itself is a piece of its own. -/
theorem sequence_cons {c : Char} (hc : isSpecial c = false) (fuel : Nat) (first : Bool)
    (items : List Item) (hs : s.rest = (c :: w).map .plain) :
    sequence alphabet (fuel + 1) scope first items s
      = sequence alphabet fuel scope first (.piece (.one c.toNat false) :: items)
        { s with rest := w.map .plain, pos := s.pos + 1 } := by
  have hbar : c ≠ '|' := by
    rintro rfl
    exact absurd hc (by decide)
  have hparen : c ≠ ')' := by
    rintro rfl
    exact absurd hc (by decide)
  rw [sequence, bind_ok peek_ok, hs, List.map_cons, List.head?_cons]
  -- no other alternative is left, by the two inequalities
  simp only
  rw [bind_ok position_ok, bind_ok (next_plain hs), hscope, Bool.false_and, Bool.false_and,
    if_neg Bool.false_ne_true, if_neg Bool.false_ne_true, hc, if_pos (Bool.not_false)]

/-- **A word is read to its end**, character by character. -/
theorem sequence_plain (hw : ∀ c ∈ w, isSpecial c = false) {fuel : Nat} (hfuel : w.length < fuel)
    (first : Bool) (items : List Item) (hs : s.rest = w.map .plain) :
    sequence alphabet fuel scope first items s
      = .ok (items.reverse.flatMap Item.pieces ++ wordPieces w,
          { s with rest := [], pos := s.pos + w.length }) := by
  induction w generalizing fuel items s with
  | nil =>
    obtain ⟨fuel, rfl⟩ := Nat.exists_eq_add_one.mpr hfuel
    rw [List.map_nil] at hs
    rw [sequence_nil alphabet fuel scope first items hs, ← hs, wordPieces, List.map_nil,
      List.append_nil]
    rfl
  | cons c w ih =>
    obtain ⟨hc, hw⟩ := List.forall_mem_cons.mp hw
    obtain ⟨fuel, rfl⟩ := Nat.exists_eq_add_one.mpr (Nat.zero_lt_of_lt hfuel)
    rw [sequence_cons alphabet hscope hc fuel first items hs,
      ih hw (Nat.lt_of_succ_lt_succ hfuel) _ rfl]
    simp [wordPieces, Item.pieces, Nat.add_assoc, Nat.add_comm 1]

theorem alternatives_plain (hw : ∀ c ∈ w, isSpecial c = false) {fuel : Nat}
    (hfuel : w.length + 1 < fuel) (outermost first : Bool) (hs : s.rest = w.map .plain) :
    alternatives alphabet fuel scope outermost first s
      = .ok ([wordPieces w], { s with rest := [], pos := s.pos + w.length }) := by
  obtain ⟨fuel, rfl⟩ := Nat.exists_eq_add_one.mpr (Nat.zero_lt_of_lt hfuel)
  rw [alternatives,
    bind_ok (sequence_plain alphabet hscope hw (Nat.lt_of_succ_lt_succ hfuel) _ [] hs)]
  rfl

end Read

variable {w : List Char}

theorem Symbol.ofChars_plain (hw : ∀ c ∈ w, isSpecial c = false) :
    Symbol.ofChars w = w.map .plain := by
  induction w with
  | nil => rfl
  | cons c w ih =>
    obtain ⟨hc, hw⟩ := List.forall_mem_cons.mp hw
    have hescape : c ≠ '\\' := by
      rintro rfl
      exact absurd hc (by decide)
    rw [Symbol.ofChars, ih hw, List.map_cons]
    · rintro rfl rfl
      exact hescape rfl
    · rintro d rest rfl rfl
      exact hescape rfl

theorem ofPieces_wordPieces (alphabet : Alphabet) (w : List Char) :
    ofPieces .none alphabet (Read.wordPieces w) = ofChars w := by
  unfold ofPieces ofChars Read.wordPieces
  rw [List.map_map]
  rfl

/-- What holds of nothing and of single characters, and of two patterns in a row if
it holds of both, holds of every word. -/
theorem ofChars_induction {P : Regex → Prop} (hempty : P .empty)
    (hunit : ∀ c, P (.unit (.one c false .exact))) (hseq : ∀ a b, P a → P b → P (.seq a b))
    (w : List Char) : P (ofChars w) := by
  induction w with
  | nil => exact hempty
  | cons c w ih =>
    cases w with
    | nil => exact hunit c.toNat
    | cons d w => exact hseq _ _ (hunit c.toNat) ih

theorem unmatchable?_ofChars (w : List Char) : unmatchable? false (ofChars w) = none := by
  refine ofChars_induction (P := fun r => unmatchable? false r = none) rfl (fun _ => rfl) ?_ w
  intro a b ha hb
  rw [unmatchable?, ha, hb]
  rfl

theorem looksTooFar_ofChars (w : List Char) : (ofChars w).looksTooFar = false := by
  refine ofChars_induction (P := fun r => r.looksTooFar = false) rfl (fun _ => rfl) ?_ w
  intro a b ha hb
  rw [looksTooFar, ha, hb]
  rfl

theorem looksAhead_ofChars (w : List Char) : (ofChars w).looksAhead = true := by
  refine ofChars_induction (P := fun r => r.looksAhead = true) rfl (fun _ => rfl) ?_ w
  intro a b ha hb
  rw [looksAhead, ha, hb]
  rfl

/-- **A pattern whose characters mean themselves is the row of its characters.** -/
theorem compile_plain (alphabet : Alphabet) (hw : ∀ c ∈ w, isSpecial c = false) :
    compile alphabet .none w = .ok (ofChars w) := by
  have hrest : (Scan.start w .none).rest = w.map .plain := Symbol.ofChars_plain hw
  have hfuel : w.length + 1 < 4 * (w.map Symbol.plain).length + 4 := by
    rw [List.length_map]
    omega
  have hscope : (Scan.start w .none).flags.verbose = false := rfl
  have hbranches := Read.alternatives_plain alphabet hscope hw hfuel true true hrest
  generalize hend : { Scan.start w .none with
    rest := [], pos := (Scan.start w .none).pos + w.length } = s at hbranches
  -- at the end there is nothing left, no flag has been set and no group referred to
  have hflags : s.flags = .none := by rw [← hend]; rfl
  have hread : s.rest = [] := by rw [← hend]
  have hreferences : s.references = [] := by rw [← hend]; rfl
  have hclash : Flags.clash? .none alphabet = none := by cases alphabet <;> rfl
  have htemplate : Flags.none.template = false := rfl
  have hwhole : Read.whole alphabet (Scan.start w .none) = .ok (ofChars w, s) := by
    rw [Read.whole, Read.bind_ok Read.get_ok]
    dsimp only
    rw [hrest, if_neg (Read.head?_plain_ne w), Read.bind_ok hbranches, Read.bind_ok Read.get_ok]
    simp only [joined, hflags, ofPieces_wordPieces, hclash, hread, hreferences, List.isEmpty_nil,
      List.find?_nil, Bool.not_true, Bool.false_eq_true, if_false, htemplate,
      unmatchable?_ofChars, looksTooFar_ofChars]
    rfl
  show (Read.whole alphabet (Scan.start w .none) >>= fun p => pure p.1) = _
  rw [hwhole]
  rfl

/-! ## Matching -/

theorem least_ofChars_le (w : List Char) : (ofChars w).width.least ≤ w.length := by
  induction w with
  | nil => exact Nat.le_refl 0
  | cons c w ih =>
    cases w with
    | nil => exact Nat.le_refl 1
    | cons d w =>
      show min (1 + (ofChars (d :: w)).width.least) Width.leastLimit ≤ (d :: w).length + 1
      omega

/-- **A word matches where it is a prefix of what follows.** -/
theorem matchEnd_ofChars {text : List Char} {p : Nat} (w : List Char) (hp : p ≤ text.length) :
    (ofChars w).matchEnd (.ofChars text.toArray) p
      = .ok (if w <+: text.drop p then some (p + w.length) else none) := by
  refine matchEnd_of_ends .empty rfl hp (fun hshort => if_neg fun hw => ?_) ?_
  · exact absurd (least_ofChars_le w) (Nat.not_le.mpr (Nat.lt_of_le_of_lt hw.length_le hshort))
  · rw [run_ofChars]
    show Attempt.Ends (if w <+: text.drop p then _ else _) _ _
    split
    · rfl
    · exact ⟨p, rfl⟩

end Regex

/-! ## Bytes -/

theorem toList_loop (b : ByteArray) (i : Nat) (before : List UInt8) :
    ByteArray.toList.loop b i before = before.reverse ++ b.data.toList.drop i := by
  fun_induction ByteArray.toList.loop b i before with
  | case1 i before h ih =>
    have hi : i < b.data.toList.length := h
    have hbyte : b.get! i = b.data.toList[i] := by simp [ByteArray.get!, h]
    rw [ih, List.drop_eq_getElem_cons hi, hbyte, List.reverse_cons, List.append_assoc]
    rfl
  | case2 i before h =>
    have hi : b.data.toList.length ≤ i := Nat.le_of_not_lt h
    rw [List.drop_eq_nil_of_le hi, List.append_nil]

/-- The characters with the codes of bytes, one for each byte. -/
theorem byteChars_eq (b : ByteArray) :
    byteChars b = b.data.toList.map fun u => Char.ofNat u.toNat := by
  unfold byteChars ByteArray.toList
  rw [toList_loop]
  rfl

theorem length_byteChars (b : ByteArray) : (byteChars b).length = b.size := by
  rw [byteChars_eq, List.length_map]
  rfl

theorem byteChars_append (a b : ByteArray) : byteChars (a ++ b) = byteChars a ++ byteChars b := by
  rw [byteChars_eq, byteChars_eq, byteChars_eq, ByteArray.data_append, Array.toList_append,
    List.map_append]

/-- Each byte is the code of a character. -/
theorem toNat_ofNat_byte (u : UInt8) : (Char.ofNat u.toNat).toNat = u.toNat := by
  have hvalid : u.toNat.isValidChar := Or.inl (Nat.lt_of_lt_of_le u.toNat_lt (by decide))
  rw [Char.ofNat, dif_pos hvalid]
  rfl

theorem byteChars_injective {a b : ByteArray} (h : byteChars a = byteChars b) : a = b := by
  rw [byteChars_eq, byteChars_eq] at h
  have hcode : Function.Injective fun u : UInt8 => Char.ofNat u.toNat := by
    intro u v huv
    have hnat := congrArg Char.toNat huv
    dsimp only at hnat
    rw [toNat_ofNat_byte, toNat_ofNat_byte] at hnat
    exact UInt8.toNat_inj.mp hnat
  exact ByteArray.ext (Array.toList_inj.mp (List.map_injective_iff.mpr hcode h))

/-- **Bytes are a text of characters with their codes.** -/
theorem Subject.ofBytes_eq_ofChars (b : ByteArray) :
    Subject.ofBytes b = .ofChars (byteChars b).toArray := by
  have hsize : (byteChars b).toArray.size = b.size := length_byteChars b
  unfold Subject.ofBytes Subject.ofChars
  rw [hsize]
  congr 1
  funext i
  rw [Array.getD_eq_getD_getElem?, List.getElem?_toArray, byteChars_eq, List.getElem?_map]
  by_cases h : i < b.size
  · have hi : i < b.data.toList.length := h
    rw [dif_pos h, List.getElem?_eq_getElem hi]
    exact (toNat_ofNat_byte _).symm
  · have hi : b.data.toList.length ≤ i := Nat.le_of_not_lt h
    rw [dif_neg h, List.getElem?_eq_none hi]
    rfl

/-- **A word over bytes matches where its bytes come next.** -/
theorem Regex.matchEnd_ofBytes {b : ByteArray} {p : Nat} (w : ByteArray) (hp : p ≤ b.size) :
    (ofChars (byteChars w)).matchEnd (.ofBytes b) p
      = .ok (if byteChars w <+: (byteChars b).drop p then some (p + w.size) else none) := by
  rw [Subject.ofBytes_eq_ofChars, matchEnd_ofChars _ (by rwa [length_byteChars]),
    length_byteChars]

/-! ## Bytes of a word -/

namespace Text

theorem data_encode (w : List Char) :
    (encode w).data.toList = w.flatMap String.utf8EncodeChar := by
  unfold encode
  rw [String.toUTF8_eq_toByteArray, String.toByteArray_ofList, List.utf8Encode,
    List.toList_data_toByteArray]

/-- **A byte below 128 is a character of its own.** -/
theorem ofNat_byte_of_lt {c : Char} {u : UInt8} (hu : u ∈ String.utf8EncodeChar c)
    (hlt : u.toNat < 128) : Char.ofNat u.toNat = c := by
  have hhigh {x m : UInt8} (hm : 128 ≤ m.toNat) : ¬ (x ||| m).toNat < 128 := by
    rw [UInt8.toNat_or]
    exact Nat.not_lt.mpr (Nat.le_trans hm Nat.right_le_or)
  rcases c.utf8Size_eq with h | h | h | h
  · rw [String.utf8EncodeChar_eq_singleton h, List.mem_singleton] at hu
    have hle : c.val.toNat ≤ 127 := UInt32.le_iff_toNat_le.mp (Char.utf8Size_eq_one_iff.mp h)
    have hcode : u.toNat = c.toNat := by
      rw [hu, UInt32.toNat_toUInt8]
      exact Nat.mod_eq_of_lt (by omega)
    rw [hcode, Char.ofNat_toNat]
  · rw [String.utf8EncodeChar_eq_cons_cons h] at hu
    simp only [List.mem_cons, List.not_mem_nil, or_false] at hu
    rcases hu with rfl | rfl
    all_goals exact absurd hlt (hhigh (by decide))
  · rw [String.utf8EncodeChar_eq_cons_cons_cons h] at hu
    simp only [List.mem_cons, List.not_mem_nil, or_false] at hu
    rcases hu with rfl | rfl | rfl
    all_goals exact absurd hlt (hhigh (by decide))
  · rw [String.utf8EncodeChar_eq_cons_cons_cons_cons h] at hu
    simp only [List.mem_cons, List.not_mem_nil, or_false] at hu
    rcases hu with rfl | rfl | rfl | rfl
    all_goals exact absurd hlt (hhigh (by decide))

/-- The bytes of a text at the front of those of another are a prefix of it. -/
theorem byteChars_prefix_iff {w cs : List Char} :
    byteChars (encode w) <+: byteChars (encode cs) ↔ w <+: cs := by
  constructor
  · intro h
    have hfront : (encode cs).extract 0 (encode w).size = encode w := by
      refine byteChars_injective ?_
      rw [List.prefix_iff_eq_take, length_byteChars] at h
      rw [h, byteChars_eq, byteChars_eq, ByteArray.data_extract, Array.toList_extract,
        List.extract_eq_take_drop, List.drop_zero, Nat.sub_zero, List.map_take]
    obtain ⟨n, -, -, hn⟩ := decode?_extract_eq_some_iff.mp (hfront ▸ decode?_encode w)
    rw [String.ofList_injective hn]
    exact List.take_prefix n cs
  · rintro ⟨rest, rfl⟩
    rw [encode_append, byteChars_append]
    exact List.prefix_append _ _

end Text

/-- **A word stays a word when it is written in bytes.** -/
theorem Regex.isSpecial_byteChars {w : List Char} (hw : ∀ c ∈ w, isSpecial c = false) :
    ∀ c ∈ byteChars (Text.encode w), isSpecial c = false := by
  intro c hc
  rw [byteChars_eq, Text.data_encode] at hc
  obtain ⟨u, hu, rfl⟩ := List.mem_map.mp hc
  obtain ⟨d, hd, hu⟩ := List.mem_flatMap.mp hu
  by_cases hlt : u.toNat < 128
  · rw [Text.ofNat_byte_of_lt hu hlt]
    exact hw d hd
  · -- a character that means something else has a code below 128
    rw [Bool.eq_false_iff]
    intro hspecial
    have hcodes : ".\\[\x7b()*+?^$|".toList.all (fun c => c.toNat < 128) = true := by decide
    have hcode := List.all_eq_true.mp hcodes _ (List.contains_iff_mem.mp hspecial)
    rw [toNat_ofNat_byte, decide_eq_true_eq] at hcode
    exact hlt hcode

end ParseKit

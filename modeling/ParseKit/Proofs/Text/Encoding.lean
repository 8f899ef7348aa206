import ParseKit.Proofs.Lexing.Cursor

/-!
# Where characters end among the bytes of a text

The bytes of a text can be cut anywhere, but only some of the cuts fall
between characters. Bytes from the front of a text spell a text themselves
exactly if they end where some number of its characters end, and then they
spell those (`decode?_extract_eq_some_iff`).
-/

namespace ParseKit.Text

/-- Nothing is read from the bytes of a text but the text. -/
theorem decode?_encode (cs : List Char) : decode? (encode cs) = some (String.ofList cs) := by
  have hvalid := (String.ofList cs).isValidUTF8
  simp only [decode?, encode, String.fromUTF8?, String.fromUTF8, String.toUTF8_eq_toByteArray,
    hvalid, dite_true]

/-- The first characters of a text have the first of its bytes. -/
theorem extract_encode_take (cs : List Char) (n : Nat) :
    (encode cs).extract 0 (byteLength (cs.take n)) = encode (cs.take n) := by
  have hcut := extract_encode [] (cs.take n) (cs.drop n)
  rwa [List.nil_append, List.take_append_drop, byteLength_nil] at hcut

/-- More characters have more bytes. -/
theorem byteLength_take_lt (cs : List Char) {m n : Nat} (hmn : m < n) (hn : n ≤ cs.length) :
    byteLength (cs.take m) < byteLength (cs.take n) := by
  induction cs generalizing m n with
  | nil => exact absurd (Nat.lt_of_lt_of_le hmn hn) (Nat.not_lt_zero m)
  | cons c rest ih =>
    obtain ⟨n, rfl⟩ := Nat.exists_eq_add_one.mpr (Nat.zero_lt_of_lt hmn)
    cases m with
    | zero => exact Nat.lt_of_lt_of_le c.utf8Size_pos (Nat.le_add_right _ _)
    | succ m =>
      exact Nat.add_lt_add_left (ih (Nat.lt_of_succ_lt_succ hmn) (Nat.le_of_succ_le_succ hn)) _

/-- **Bytes from the front of a text spell a text exactly if they end where some
number of characters end**; an end beyond the text is its own end. -/
theorem decode?_extract_eq_some_iff {cs : List Char} {stop : Nat} {s : String} :
    decode? ((encode cs).extract 0 stop) = some s
      ↔ ∃ n ≤ cs.length, min stop (byteLength cs) = byteLength (cs.take n)
          ∧ s = String.ofList (cs.take n) := by
  have hmin : (encode cs).extract 0 stop = (encode cs).extract 0 (min stop (byteLength cs)) := by
    rw [← size_encode]
    rcases Nat.le_total stop (encode cs).size with hle | hle
    · rw [Nat.min_eq_left hle]
    · rw [Nat.min_eq_right hle, ByteArray.extract_zero_size, ← Nat.max_eq_left hle,
        ByteArray.extract_zero_max_size]
  rw [hmin]
  refine ⟨fun h => ?_, ?_⟩
  · have hvalid : ((encode cs).extract 0 (min stop (byteLength cs))).IsValidUTF8 := by
      by_contra hinvalid
      simp [decode?, String.fromUTF8?, hinvalid] at h
    have hpos : String.Pos.Raw.IsValid (String.ofList cs) ⟨min stop (byteLength cs)⟩ := by
      rw [String.Pos.Raw.isValid_iff_isValidUTF8_extract_zero]
      refine ⟨?_, hvalid⟩
      show min stop (byteLength cs) ≤ (encode cs).size
      rw [size_encode]
      exact Nat.min_le_right _ _
    -- the cut is between two characters, and the bytes before it are those of the first ones
    obtain ⟨a, c, ha, hac⟩ := hpos.exists
    obtain rfl : a ++ c = cs := String.ofList_injective hac
    have hfront : encode a = (encode (a ++ c)).extract 0 (min stop (byteLength (a ++ c))) := by
      rw [encode, String.toUTF8_eq_toByteArray, String.toByteArray_ofList, ha]
      rfl
    have hsize := congrArg ByteArray.size hfront
    rw [size_encode, ByteArray.size_extract, size_encode, Nat.sub_zero, Nat.min_assoc,
      Nat.min_self] at hsize
    rw [← hfront, decode?_encode] at h
    refine ⟨a.length, by simp, ?_, ?_⟩
    · rw [List.take_left, ← hsize]
    · rw [List.take_left, Option.some.inj h]
  · rintro ⟨n, -, hstop, rfl⟩
    rw [hstop, extract_encode_take, decode?_encode]

end ParseKit.Text

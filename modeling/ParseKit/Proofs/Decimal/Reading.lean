import ParseKit.Decimal.Numeral
import Mathlib.Data.List.TakeWhile
import Mathlib.Tactic.IntervalCases

/-!
# Numerals and what they are read as

A numeral is some digits, and perhaps a point and more digits. Which
characters are digits is left open: a numeral may be written with decimal
digits of any script, and it is **plain** if they are those of ASCII.

Every numeral is read as a number, the one nearest to what its digits say;
blanks, underscores, signs, exponents and the words for numbers that have no
digits do not come into it (`readBinary64?_whole`, `readBinary64?_pointed`).
-/

namespace ParseKit

namespace Text

/-! ## Spaces, digits and word characters -/

/-- The code points of the spaces. -/
def spaceCodes : List Nat :=
  [9, 10, 11, 12, 13, 28, 29, 30, 31, 32, 133, 160, 5760, 8192, 8193, 8194, 8195, 8196, 8197,
    8198, 8199, 8200, 8201, 8202, 8232, 8233, 8239, 8287, 12288]

theorem mem_spaceCodes {c : Nat} (h : isSpace c = true) : c ∈ spaceCodes := by
  simp only [spaceCodes, List.mem_cons, List.not_mem_nil, or_false]
  unfold isSpace at h
  split at h
  · simp only [Bool.or_eq_true, Bool.and_eq_true, decide_eq_true_eq] at h
    omega
  · -- the table has few edges, so that looking a code point up is a few comparisons
    simp [RangeSet.contains, RangeSet.rank, spaces, RangeSet.bisect] at h
    split_ifs at h <;> omega

theorem spaceCodes_not_word : ∀ c ∈ spaceCodes, isWord c = false ∧ isDecimal c = false := by
  decide +kernel

/-- **A word character is no space.** -/
theorem isSpace_of_isWord {c : Nat} (h : isWord c = true) : isSpace c = false := by
  by_contra hspace
  have hnot := (spaceCodes_not_word c (mem_spaceCodes (Bool.of_not_eq_false hspace))).1
  exact Bool.false_ne_true (hnot.symm.trans h)

/-- **A digit is no space.** -/
theorem isSpace_of_isDecimal {c : Nat} (h : isDecimal c = true) : isSpace c = false := by
  by_contra hspace
  have hnot := (spaceCodes_not_word c (mem_spaceCodes (Bool.of_not_eq_false hspace))).2
  exact Bool.false_ne_true (hnot.symm.trans h)

end Text

/-- **The characters are a numeral**: some digits, and perhaps a point and more
digits. -/
inductive IsNumeral (digit : Char → Bool) : List Char → Prop where
  /-- Digits alone. -/
  | whole {ds : List Char} (hds : ds ≠ []) (hdigits : ∀ c ∈ ds, digit c = true) :
      IsNumeral digit ds
  /-- Digits around a point. -/
  | pointed {ds es : List Char} (hds : ds ≠ []) (hdigits : ∀ c ∈ ds, digit c = true)
      (hes : es ≠ []) (hmore : ∀ c ∈ es, digit c = true) : IsNumeral digit (ds ++ '.' :: es)

/-- A numeral is a numeral in more digits. -/
theorem IsNumeral.mono {digit digit' : Char → Bool} (hle : ∀ c, digit c = true → digit' c = true)
    {cs : List Char} (h : IsNumeral digit cs) : IsNumeral digit' cs := by
  cases h with
  | whole hds hdigits => exact .whole hds fun c hc => hle c (hdigits c hc)
  | pointed hds hdigits hes hmore =>
    exact .pointed hds (fun c hc => hle c (hdigits c hc)) hes fun c hc => hle c (hmore c hc)

namespace Numeral

/-! ## Digits -/

/-- Whether a character is a decimal digit of any script. -/
def isAnyDigit (c : Char) : Bool := Text.isDecimal c.toNat

theorem isDigit_iff {c : Char} : isDigit c = true ↔ 48 ≤ c.toNat ∧ c.toNat ≤ 57 := by
  simp [isDigit, Text.isAsciiDigit]

theorem isAnyDigit_of_isDigit {c : Char} (h : isDigit c = true) : isAnyDigit c = true := by
  obtain ⟨hlow, hhigh⟩ := isDigit_iff.mp h
  rw [isAnyDigit, Text.isDecimal, if_pos (by omega)]
  exact h

/-- The digits of ASCII. -/
def plainDigits : List Char := ['0', '1', '2', '3', '4', '5', '6', '7', '8', '9']

theorem mem_plainDigits {c : Char} (h : isDigit c = true) : c ∈ plainDigits := by
  obtain ⟨hlow, hhigh⟩ := isDigit_iff.mp h
  have hc : c = Char.ofNat c.toNat := (Char.ofNat_toNat c).symm
  generalize c.toNat = n at hlow hhigh hc
  subst hc
  interval_cases n <;> decide

theorem plainDigit_of_isDigit {c : Char} (h : isDigit c = true) : plainDigit c = c := by
  have hall : (plainDigits.all fun c => plainDigit c == c) = true := by decide +kernel
  exact beq_iff_eq.mp (List.all_eq_true.mp hall c (mem_plainDigits h))

theorem isDigit_plainDigit {c : Char} (h : isAnyDigit c = true) :
    isDigit (plainDigit c) = true := by
  have hdigits : ∀ v < 10, isDigit (Char.ofNat (48 + v)) = true := by decide
  have hdecimal : Text.isDecimal c.toNat = true := h
  rw [plainDigit, Text.decimalValue?, if_pos hdecimal]
  exact hdigits _ (Nat.mod_lt _ (by decide))

theorem isBlank_of_isAnyDigit {c : Char} (h : isAnyDigit c = true) : isBlank c = false := by
  have hspace := Text.isSpace_of_isDecimal h
  unfold isBlank
  dsimp only
  split
  · rename_i hlow
    rw [isAnyDigit, Text.isDecimal, if_pos (by omega)] at h
    simp only [Bool.and_eq_true, decide_eq_true_eq] at h
    rw [Bool.eq_false_iff]
    intro hblank
    simp only [Text.isAsciiSpace, Bool.or_eq_true, Bool.and_eq_true, decide_eq_true_eq, beq_iff_eq]
      at hblank
    omega
  · exact hspace

theorem isBlank_point : isBlank '.' = false := by decide

theorem plainDigit_point : plainDigit '.' = '.' := by decide +kernel

end Numeral

open Numeral

/-! ## The characters of a numeral -/

namespace IsNumeral

variable {cs : List Char}

theorem forall_mem {digit : Char → Bool} (h : IsNumeral digit cs) :
    ∀ c ∈ cs, digit c = true ∨ c = '.' := by
  cases h with
  | whole _ hdigits => exact fun c hc => .inl (hdigits c hc)
  | pointed _ hdigits _ hmore =>
    intro c hc
    rcases List.mem_append.mp hc with hc | hc
    · exact .inl (hdigits c hc)
    · exact (List.mem_cons.mp hc).symm.imp_left (hmore c)

theorem exists_head {digit : Char → Bool} (h : IsNumeral digit cs) :
    ∃ c rest, cs = c :: rest ∧ digit c = true := by
  cases h with
  | @whole ds hds hdigits =>
    obtain ⟨c, rest, rfl⟩ := List.exists_cons_of_ne_nil hds
    exact ⟨c, rest, rfl, hdigits c List.mem_cons_self⟩
  | @pointed ds es hds hdigits _ _ =>
    obtain ⟨c, rest, rfl⟩ := List.exists_cons_of_ne_nil hds
    exact ⟨c, rest ++ '.' :: es, rfl, hdigits c List.mem_cons_self⟩

/-- A numeral may be written in the digits of ASCII. -/
theorem plain (h : IsNumeral isAnyDigit cs) : IsNumeral isDigit (cs.map plainDigit) := by
  have hplain : ∀ {ds : List Char}, (∀ c ∈ ds, isAnyDigit c = true) →
      ∀ c ∈ ds.map plainDigit, isDigit c = true :=
    fun hds => List.forall_mem_map.mpr fun c hc => isDigit_plainDigit (hds c hc)
  cases h with
  | whole hds hdigits => exact .whole (by simpa using hds) (hplain hdigits)
  | pointed hds hdigits hes hmore =>
    rw [List.map_append, List.map_cons, plainDigit_point]
    exact .pointed (by simpa using hds) (hplain hdigits) (by simpa using hes) (hplain hmore)

end IsNumeral

namespace Numeral

/-! ## Reading -/

theorem strip_eq_self {cs : List Char} (h : ∀ c ∈ cs, isBlank c = false) : strip cs = cs := by
  have hdrop : ∀ {ds : List Char}, (∀ c ∈ ds, isBlank c = false) → ds.dropWhile isBlank = ds := by
    intro ds hds
    cases ds with
    | nil => rfl
    | cons c ds => simp [hds c List.mem_cons_self]
  rw [strip, hdrop h, hdrop fun c hc => h c (List.mem_reverse.mp hc), List.reverse_reverse]

theorem dropUnderscores?_eq_self {cs : List Char} (h : ∀ c ∈ cs, c ≠ '_') :
    ∀ prev, prev ≠ some '_' → dropUnderscores? prev cs = some cs := by
  induction cs with
  | nil =>
    intro prev hprev
    simp [dropUnderscores?, hprev]
  | cons c cs ih =>
    intro prev hprev
    obtain ⟨hc, hcs⟩ := List.forall_mem_cons.mp h
    have hrest := ih hcs (some c) (by simpa using hc)
    simp [dropUnderscores?, hc, hprev, hrest]

theorem splitSign_digit {c : Char} (h : isDigit c = true) (cs : List Char) :
    splitSign (c :: cs) = (false, c :: cs) := by
  have hsigns : isDigit '-' = false ∧ isDigit '+' = false := by decide
  unfold splitSign
  split
  · simp_all
  · simp_all
  · rfl

theorem readWord?_digit {c : Char} (h : isDigit c = true) (negative : Bool) (cs : List Char) :
    readWord? negative (c :: cs) = none := by
  have hall : (plainDigits.all fun c => c.toLower != 'i' && c.toLower != 'n') = true := by decide
  have hlower := List.all_eq_true.mp hall c (mem_plainDigits h)
  obtain ⟨hi, hn⟩ : c.toLower ≠ 'i' ∧ c.toLower ≠ 'n' := by simpa using hlower
  simp [readWord?, ← String.toList_inj, hi, hn]

/-- A text of a plain numeral is the decimal of its digits. -/
theorem readBinary64?_eq_readDecimal? {s : String} (h : IsNumeral isAnyDigit s.toList) :
    readBinary64? s = readDecimal? false (s.toList.map plainDigit) := by
  have hstrip : strip s.toList = s.toList := by
    refine strip_eq_self fun c hc => ?_
    rcases h.forall_mem c hc with hdigit | rfl
    · exact isBlank_of_isAnyDigit hdigit
    · exact isBlank_point
  have hunderscore : ∀ c ∈ s.toList.map plainDigit, c ≠ '_' := by
    rintro c hc rfl
    exact absurd (h.plain.forall_mem '_' hc) (by decide)
  obtain ⟨c, rest, hcs, hc⟩ := h.plain.exists_head
  have hread := dropUnderscores?_eq_self hunderscore none (Option.some_ne_none _).symm
  rw [hcs] at hread ⊢
  simp only [readBinary64?, hstrip, hcs, hread, Option.bind_eq_bind, Option.bind_some,
    splitSign_digit hc, readWord?_digit hc, Option.none_or]

theorem takeWhile_isDigit {ds : List Char} (h : ∀ c ∈ ds, isDigit c = true) (rest : List Char)
    (hrest : ∀ c ∈ rest.head?, isDigit c = false) :
    (ds ++ rest).takeWhile isDigit = ds ∧ (ds ++ rest).dropWhile isDigit = rest := by
  rw [List.takeWhile_append_of_pos h, List.dropWhile_append_of_pos h]
  cases rest with
  | nil => simp
  | cons c rest => simp [hrest c rfl]

/-- **Digits are read as the number that they spell.** -/
theorem readBinary64?_whole {s : String} {ds : List Char} (hs : s.toList = ds) (hds : ds ≠ [])
    (hdigits : ∀ c ∈ ds, isAnyDigit c = true) :
    readBinary64? s = some (.ofDecimal false (value (ds.map plainDigit)) 0) := by
  have hnumeral : IsNumeral isAnyDigit s.toList := hs ▸ .whole hds hdigits
  have hplain : ∀ c ∈ ds.map plainDigit, isDigit c = true :=
    List.forall_mem_map.mpr fun c hc => isDigit_plainDigit (hdigits c hc)
  have hsplit := takeWhile_isDigit hplain [] (by simp)
  rw [List.append_nil] at hsplit
  rw [readBinary64?_eq_readDecimal? hnumeral, hs, readDecimal?, hsplit.1, hsplit.2]
  simp [hds, readExponent?]

/-- **Digits around a point are read as the decimal that they spell.** -/
theorem readBinary64?_pointed {s : String} {ds es : List Char} (hs : s.toList = ds ++ '.' :: es)
    (hds : ds ≠ []) (hdigits : ∀ c ∈ ds, isAnyDigit c = true) (hes : es ≠ [])
    (hmore : ∀ c ∈ es, isAnyDigit c = true) :
    readBinary64? s
      = some (.ofDecimal false (value ((ds ++ es).map plainDigit)) (-(es.length : Int))) := by
  have hnumeral : IsNumeral isAnyDigit s.toList := hs ▸ .pointed hds hdigits hes hmore
  have hplain : ∀ {ds : List Char}, (∀ c ∈ ds, isAnyDigit c = true) →
      ∀ c ∈ ds.map plainDigit, isDigit c = true :=
    fun hds => List.forall_mem_map.mpr fun c hc => isDigit_plainDigit (hds c hc)
  have hwhole := takeWhile_isDigit (hplain hdigits) ('.' :: es.map plainDigit)
    (by simp; decide)
  have hfraction := takeWhile_isDigit (hplain hmore) [] (by simp)
  rw [List.append_nil] at hfraction
  rw [readBinary64?_eq_readDecimal? hnumeral, hs, List.map_append, List.map_cons, plainDigit_point,
    readDecimal?, hwhole.1, hwhole.2]
  simp [hfraction, hds, readExponent?]

/-- **Every numeral is read as a decimal**, which is not negative. -/
theorem exists_readBinary64? {s : String} (h : IsNumeral isAnyDigit s.toList) :
    ∃ digits exponent, readBinary64? s = some (.ofDecimal false digits exponent) := by
  generalize hs : s.toList = cs at h
  cases h with
  | whole hds hdigits => exact ⟨_, _, readBinary64?_whole hs hds hdigits⟩
  | pointed hds hdigits hes hmore => exact ⟨_, _, readBinary64?_pointed hs hds hdigits hes hmore⟩

end Numeral

end ParseKit

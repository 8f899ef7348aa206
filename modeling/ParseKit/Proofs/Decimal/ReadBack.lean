import ParseKit.Decimal.Shortest
import ParseKit.Proofs.Decimal.Reading
import ParseKit.Proofs.Decimal.Rounding
import Mathlib.Data.Nat.Cast.Order.Field

/-!
# The text of a number is read back

The text of a finite number has the digits of a decimal within the rounding
interval of the number (`within_shortest`). The search for one goes from grid
to grid, and on a grid whose points lie closer than half a unit of the number,
the point nearest to the number is within the interval; such a grid comes by
the seventeenth digit.

A text without an exponent is a numeral whose decimal is that one, or all the
digits of an integer. So it is read back as the same number
(`plainText_cases`). A text that is no numeral is that of an infinity or is in
scientific notation. The text of an integer has its digits after a sign
(`toList_toString_int`), and is read back too.
-/

namespace ParseKit

open Binary64

namespace Decimal

/-! ## The rounding interval in whole numbers -/

/-- **The interval is the rounding interval of a number.** -/
structure Interval.Spans (i : Interval) (mant : ℕ) (exp : ℤ) : Prop where
  /-- There is a denominator. -/
  den_pos : (0 : ℚ) < i.den
  /-- The lower end. -/
  low : (i.low : ℚ) = (mant - gapBelow mant exp) * 2 ^ exp * i.den
  /-- The number. -/
  mid : (i.mid : ℚ) = mant * 2 ^ exp * i.den
  /-- The upper end. -/
  high : (i.high : ℚ) = (mant + 1 / 2) * 2 ^ exp * i.den
  /-- The ends belong to the interval if the significand is even. -/
  closed : i.closed = true ↔ mant % 2 = 0

/-- A quarter of a unit of the number, over the denominator of its interval. -/
theorem Interval.quarter_eq (mant : ℕ) (exp : ℤ) :
    0 < (Interval.of mant exp).den ∧ ∀ n : ℕ,
      ((if 0 ≤ exp then n * Nat.pow 2 exp.toNat else n : ℕ) : ℚ)
        = n / 4 * 2 ^ exp * (Interval.of mant exp).den := by
  unfold Interval.of
  dsimp only
  by_cases hexp : 0 ≤ exp
  · simp only [if_pos hexp]
    refine ⟨by norm_num, fun n => ?_⟩
    rw [Nat.cast_mul, cast_pow_toNat 2 hexp]
    push_cast
    ring
  · simp only [if_neg hexp]
    refine ⟨Nat.mul_pos (by norm_num) (Nat.pow_pos two_pos), fun n => ?_⟩
    have hpos := two_zpow_pos exp
    rw [Nat.cast_mul, cast_pow_neg_toNat 2 hexp]
    push_cast
    field_simp

theorem Interval.spans_of {mant : ℕ} (hmant : 0 < mant) (exp : ℤ) :
    (Interval.of mant exp).Spans mant exp := by
  obtain ⟨hden, hquarter⟩ := quarter_eq mant exp
  have hgap : ((4 * mant - if (mant == Nat.pow 2 52 && decide (leastExp < exp)) = true
      then 1 else 2 : ℕ) : ℚ) = 4 * (mant - gapBelow mant exp) := by
    unfold gapBelow
    simp only [Nat.pow_eq, Bool.and_eq_true, beq_iff_eq, decide_eq_true_eq]
    rw [Nat.cast_sub (by split <;> omega)]
    push_cast
    split <;> ring
  refine ⟨by exact_mod_cast hden, (hquarter _).trans ?_, (hquarter _).trans ?_,
    (hquarter _).trans ?_, by simp [Interval.of]⟩
  · rw [hgap]
    ring
  · push_cast
    ring
  · push_cast
    ring

/-- The sides of a comparison with a decimal: a power of ten stands where it is
whole. -/
theorem Interval.exists_sides (i : Interval) (n : ℕ) (exponent : ℤ) :
    ∃ a k : ℕ, (if 0 ≤ exponent then (n * Nat.pow 10 exponent.toNat * i.den, 1)
        else (n * i.den, Nat.pow 10 (-exponent).toNat)) = (a, k)
      ∧ (0 : ℚ) < k ∧ (a : ℚ) = n * 10 ^ exponent * i.den * k := by
  by_cases hexp : 0 ≤ exponent
  · refine ⟨_, _, if_pos hexp, by norm_num, ?_⟩
    rw [Nat.cast_mul, Nat.cast_mul, cast_pow_toNat 10 hexp, Nat.cast_one, mul_one, Nat.cast_ofNat]
  · have hpos := ten_zpow_pos exponent
    have hpow := cast_pow_neg_toNat 10 hexp
    rw [Nat.cast_ofNat] at hpow
    refine ⟨_, _, if_neg hexp, hpow ▸ inv_pos.mpr hpos, ?_⟩
    rw [Nat.cast_mul, hpow]
    field_simp

namespace Interval.Spans

variable {i : Interval} {mant : ℕ} {exp : ℤ}

/-- **The comparisons in whole numbers are those of the rounding interval.** -/
theorem holds_iff (h : i.Spans mant exp) (n : ℕ) (exponent : ℤ) :
    i.holds n exponent = true ↔ Within (n * 10 ^ exponent) mant exp := by
  obtain ⟨a, k, hak, hk, ha⟩ := i.exists_sides n exponent
  have hpos : 0 < (i.den : ℚ) * k := mul_pos h.den_pos hk
  have hlow : (i.low : ℚ) * k = (mant - gapBelow mant exp) * 2 ^ exp * (i.den * k) := by
    rw [h.low, mul_assoc]
  have hhigh : (i.high : ℚ) * k = (mant + 1 / 2) * 2 ^ exp * (i.den * k) := by
    rw [h.high, mul_assoc]
  rw [mul_assoc] at ha
  unfold Interval.holds
  rw [hak]
  dsimp only
  by_cases heven : mant % 2 = 0
  · rw [if_pos (h.closed.mpr heven)]
    simp only [Bool.and_eq_true, decide_eq_true_eq]
    rw [← Nat.cast_le (α := ℚ), ← Nat.cast_le (α := ℚ), Nat.cast_mul, Nat.cast_mul, hlow, hhigh,
      ha, mul_le_mul_iff_of_pos_right hpos, mul_le_mul_iff_of_pos_right hpos]
    exact ⟨fun h => ⟨h.1, h.2, fun _ => heven⟩, fun h => ⟨h.low, h.high⟩⟩
  · rw [if_neg (mt h.closed.mp heven)]
    simp only [Bool.and_eq_true, decide_eq_true_eq]
    rw [← Nat.cast_lt (α := ℚ), ← Nat.cast_lt (α := ℚ), Nat.cast_mul, Nat.cast_mul, hlow, hhigh,
      ha, mul_lt_mul_iff_of_pos_right hpos, mul_lt_mul_iff_of_pos_right hpos]
    constructor
    · rintro ⟨hlt, hlt'⟩
      exact ⟨hlt.le, hlt'.le, fun hend =>
        hend.elim (fun heq => absurd heq hlt.ne') fun heq => absurd heq hlt'.ne⟩
    · intro hwithin
      obtain ⟨hne, hne'⟩ := not_or.mp (mt hwithin.tie heven)
      exact ⟨lt_of_le_of_ne hwithin.low (Ne.symm hne), lt_of_le_of_ne hwithin.high hne'⟩

/-! ## The search on the grids -/

/-- The number in units of a grid, as a quotient. -/
theorem exists_quotient (h : i.Spans mant exp) (exponent : ℤ) :
    ∃ num den : ℕ, (if 0 ≤ exponent then (i.mid, i.den * Nat.pow 10 exponent.toNat)
        else (i.mid * Nat.pow 10 (-exponent).toNat, i.den)) = (num, den)
      ∧ 0 < den ∧ (num : ℚ) / den = mant * 2 ^ exp / 10 ^ exponent := by
  have hden := h.den_pos
  obtain ⟨num, den, hpair, hpos, hquotient⟩ :=
    exists_divided (by norm_num : 0 < 10) i.mid (by exact_mod_cast hden) exponent
  refine ⟨num, den, hpair, hpos, ?_⟩
  rw [hquotient, h.mid, mul_div_cancel_right₀ _ hden.ne', Nat.cast_ofNat]

/-- What is found on a grid is within the interval. -/
theorem within_of_onGrid? (h : i.Spans mant exp) {exponent : ℤ} {n : ℕ}
    (hn : i.onGrid? exponent = some n) : Within (n * 10 ^ exponent) mant exp := by
  obtain ⟨num, den, hpair, -, -⟩ := h.exists_quotient exponent
  rw [← h.holds_iff]
  unfold Interval.onGrid? at hn
  rw [hpair] at hn
  dsimp only at hn
  split_ifs at hn with hnearest hbelow hother hother
  · cases hn
    exact hnearest
  · cases hn
    exact hother
  · cases hn
    exact hother

/-- **On a fine grid there is a point of the interval.** -/
theorem exists_onGrid? (h : i.Spans mant exp) {exponent : ℤ}
    (hfine : (10 : ℚ) ^ exponent * 2 < 2 ^ exp) : ∃ n, i.onGrid? exponent = some n := by
  obtain ⟨num, den, hpair, hden, hquotient⟩ := h.exists_quotient exponent
  have hten := ten_zpow_pos exponent
  have hnearest := nearestEven_divNearest num hden
  rw [hquotient] at hnearest
  -- the nearest point of the grid is at most half a step of the grid away
  have hlow := (le_div_iff₀ hten).mp hnearest.low
  have hhigh := (div_le_iff₀ hten).mp hnearest.high
  have hholds : i.holds (divNearest num den) exponent = true := by
    rw [h.holds_iff]
    exact .of_close (by linarith) (by linarith)
  unfold Interval.onGrid?
  rw [hpair]
  exact ⟨_, if_pos hholds⟩

/-- **The search ends with a decimal within the interval**, if it comes to a fine
grid. -/
theorem within_search (h : i.Spans mant exp) (fuel : ℕ) :
    ∀ exponent : ℤ, (10 : ℚ) ^ (exponent - fuel) * 2 < 2 ^ exp →
      Within ((search i fuel exponent).digits * 10 ^ (search i fuel exponent).exponent)
        mant exp := by
  induction fuel with
  | zero =>
    intro exponent hfine
    obtain ⟨n, hn⟩ := h.exists_onGrid? (by simpa using hfine)
    rw [search, hn]
    exact h.within_of_onGrid? hn
  | succ fuel ih =>
    intro exponent hfine
    rw [search]
    cases hn : i.onGrid? exponent with
    | some n => exact h.within_of_onGrid? hn
    | none =>
      refine ih (exponent - 1) ?_
      rwa [sub_sub, add_comm (1 : ℤ), ← Nat.cast_add_one]

end Interval.Spans

/-! ## The digits of the search -/

/-- The magnitude of a number is not too great. -/
theorem ten_zpow_magnitude_le {num den : ℕ} (hnum : 0 < num) (hden : 0 < den) :
    (10 : ℚ) ^ (magnitude num den - 1) ≤ (num : ℚ) / den := by
  have hpos : (0 : ℚ) < den := by exact_mod_cast hden
  unfold magnitude digitCount
  split
  case isTrue hle =>
    calc (10 : ℚ) ^ ((Nat.toDigits 10 (num / den)).length - 1 : ℤ) ≤ (num / den : ℕ) :=
          pow_length_toDigits_le (Nat.div_pos hle hden)
      _ ≤ (num : ℚ) / den := Nat.cast_div_le
  case isFalse hlt =>
    set m : ℤ := ((Nat.toDigits 10 num).length : ℤ)
    set n : ℤ := ((Nat.toDigits 10 den).length : ℤ)
    have hnumLow : (10 : ℚ) ^ (m - 1) ≤ num := pow_length_toDigits_le hnum
    have hdenHigh : (den : ℚ) < 10 ^ n := lt_pow_length_toDigits den
    dsimp only
    split
    case isTrue =>
      rw [le_div_iff₀ hpos]
      calc (10 : ℚ) ^ (m - n - 1) * den ≤ 10 ^ (m - n - 1) * 10 ^ n := by gcongr
        _ = 10 ^ (m - 1) := by
            rw [← zpow_add₀ (by norm_num)]
            congr 1
            ring
        _ ≤ num := hnumLow
    case isFalse hge =>
      -- there are not more digits above the line than below
      have hden' : den < 10 ^ (Nat.toDigits 10 den).length :=
        (Nat.length_toDigits_le_iff (by decide) Nat.length_toDigits_pos).mp le_rfl
      have hle : m ≤ n := Int.ofNat_le.mpr
        ((Nat.length_toDigits_le_iff (by decide) Nat.length_toDigits_pos).mpr (by omega))
      obtain ⟨k, hk⟩ := Int.eq_ofNat_of_zero_le (by omega : 0 ≤ -(m - n))
      rw [hk, Int.toNat_natCast, Nat.pow_eq, not_lt] at hge
      have hge' : (den : ℚ) ≤ num * 10 ^ k := by exact_mod_cast hge
      rw [show m - n + 1 - 1 = -(k : ℤ) by omega, zpow_neg, zpow_natCast, le_div_iff₀ hpos,
        inv_mul_le_iff₀ (by positivity), mul_comm]
      exact hge'

/-- Trimming keeps the value. -/
theorem trim_value (fuel : ℕ) (d : Decimal) :
    ((trim fuel d).digits : ℚ) * 10 ^ (trim fuel d).exponent = d.digits * 10 ^ d.exponent := by
  induction fuel generalizing d with
  | zero => rfl
  | succ fuel ih =>
    rw [trim]
    split
    case isTrue h =>
      simp only [Bool.and_eq_true, bne_iff_ne, beq_iff_eq] at h
      obtain ⟨k, hk⟩ := Nat.dvd_of_mod_eq_zero h.2
      rw [ih, hk, Nat.mul_div_cancel_left _ (by norm_num), zpow_add_one₀ (by norm_num)]
      push_cast
      ring
    case isFalse => rfl

/-- **The shortest decimal is within the rounding interval.** -/
theorem within_shortest {mant : ℕ} {exp : ℤ} (hmant : 0 < mant) (hbits : mant < 2 ^ 53) :
    Within ((shortest mant exp).digits * 10 ^ (shortest mant exp).exponent) mant exp := by
  have hspans := Interval.spans_of hmant exp
  have hden := hspans.den_pos
  have hvalue : ((Interval.of mant exp).mid : ℚ) / (Interval.of mant exp).den = mant * 2 ^ exp := by
    rw [hspans.mid, mul_div_cancel_right₀ _ hden.ne']
  have hmid : 0 < (Interval.of mant exp).mid := by
    have hmid' : (0 : ℚ) < (Interval.of mant exp).mid := by
      rw [hspans.mid]
      have hmant' : (0 : ℚ) < mant := by exact_mod_cast hmant
      have hpow := two_zpow_pos exp
      positivity
    exact_mod_cast hmid'
  have hmagnitude := ten_zpow_magnitude_le hmid (by exact_mod_cast hden)
  rw [hvalue] at hmagnitude
  rw [shortest, trim_value]
  refine hspans.within_search 17 _ ?_
  -- seventeen digits are finer than the 53 bits of the significand
  rw [zpow_sub₀ (by norm_num), div_mul_eq_mul_div, div_lt_iff₀ (ten_zpow_pos _)]
  calc (10 : ℚ) ^ (magnitude (Interval.of mant exp).mid (Interval.of mant exp).den - 1) * 2
      ≤ mant * 2 ^ exp * 2 := by gcongr
    _ = 2 ^ exp * (mant * 2) := by ring
    _ < 2 ^ exp * 10 ^ ((17 : ℕ) : ℤ) := by
        have hbits' : (mant : ℚ) < 2 ^ 53 := by exact_mod_cast hbits
        have hseventeen : (2 : ℚ) ^ 53 * 2 ≤ 10 ^ ((17 : ℕ) : ℤ) := by norm_num
        exact mul_lt_mul_of_pos_left (by linarith) (two_zpow_pos exp)

/-! ## Texts in positional notation -/

open Numeral

theorem isDigit_of_mem_toDigits {n : ℕ} : ∀ c ∈ Nat.toDigits 10 n, isDigit c = true := by
  intro c hc
  have hdigit := Nat.isDigit_of_mem_toDigits (by decide) (by decide) hc
  simp only [Char.isDigit, Bool.and_eq_true, decide_eq_true_eq, ge_iff_le, UInt32.le_iff_toNat_le]
    at hdigit
  exact isDigit_iff.mpr hdigit

theorem value_append (ds es : List Char) :
    value (ds ++ es) = 10 ^ es.length * value ds + value es :=
  (Nat.ofDigitChars_append 0).trans Nat.ofDigitChars_eq_ofDigitChars_zero

theorem value_toDigits (n : ℕ) : value (Nat.toDigits 10 n) = n := Nat.ofDigitChars_ten_toDigits

theorem value_zeros (k : ℕ) : value (List.replicate k '0') = 0 :=
  Nat.ofDigitChars_replicate_zero.trans (Nat.mul_zero _)

/-- **The text is in positional notation**, digits around a point, and this is the
number that it spells. -/
inductive Positional : List Char → ℚ → Prop where
  /-- Digits around a point. -/
  | intro {ds es : List Char} {q : ℚ} (hds : ds ≠ []) (hdigits : ∀ c ∈ ds, isDigit c = true)
      (hes : es ≠ []) (hmore : ∀ c ∈ es, isDigit c = true)
      (hvalue : (value (ds ++ es) : ℚ) * 10 ^ (-(es.length : ℤ)) = q) :
      Positional (ds ++ '.' :: es) q

theorem isDigit_zeros (k : ℕ) : ∀ c ∈ List.replicate k '0', isDigit c = true :=
  fun _ hc => List.eq_of_mem_replicate hc ▸ (by decide)

section

variable {ds : List Char} (hds : ds ≠ []) (hdigits : ∀ c ∈ ds, isDigit c = true)
include hds hdigits

/-- An integer has zeros up to the point and one after it. -/
theorem positional_integer (k : ℕ) :
    Positional (ds ++ List.replicate k '0' ++ ['.', '0']) (value ds * 10 ^ (k : ℤ)) := by
  refine .intro (by simp [hds]) (List.forall_mem_append.mpr ⟨hdigits, isDigit_zeros k⟩)
    (List.cons_ne_nil '0' []) (isDigit_zeros 1) ?_
  have hzero : Numeral.value ['0'] = 0 := rfl
  rw [value_append, value_append, value_zeros, hzero]
  push_cast
  rw [List.length_singleton, List.length_replicate, zpow_natCast, Nat.cast_one, zpow_neg_one]
  ring

omit hds in
/-- The point may stand among the digits. -/
theorem positional_among {k : ℕ} (hk : 0 < k) (hlt : k < ds.length) :
    Positional (ds.take k ++ '.' :: ds.drop k) (value ds * 10 ^ ((k : ℤ) - ds.length)) := by
  refine .intro ?_ (fun c hc => hdigits c (List.mem_of_mem_take hc)) ?_
    (fun c hc => hdigits c (List.mem_of_mem_drop hc)) ?_
  · rw [← List.length_pos_iff, List.length_take]
    omega
  · rw [← List.length_pos_iff, List.length_drop]
    omega
  · rw [List.take_append_drop, List.length_drop]
    congr 2
    omega

/-- A small number has zeros between the point and the digits. -/
theorem positional_small (k : ℕ) :
    Positional ('0' :: '.' :: List.replicate k '0' ++ ds)
      (value ds * 10 ^ (-((k : ℤ) + ds.length))) := by
  show Positional (['0'] ++ '.' :: (List.replicate k '0' ++ ds)) _
  refine .intro (List.cons_ne_nil '0' []) (isDigit_zeros 1) (by simp [hds])
    (List.forall_mem_append.mpr ⟨isDigit_zeros k, hdigits⟩) ?_
  rw [value_append, value_append, value_zeros, List.length_append, List.length_replicate]
  simp [Numeral.value]

end

/-- **The text is in scientific notation**: there is the sign of an exponent, and
nothing but digits, a point and the signs of an exponent. -/
structure Scientific (cs : List Char) : Prop where
  /-- The exponent has a sign. -/
  signed : '+' ∈ cs ∨ '-' ∈ cs
  /-- The characters. -/
  chars : ∀ c ∈ cs, isDigit c = true ∨ c ∈ ['.', 'e', '+', '-']

theorem scientific_append {front : List Char} (hfront : ∀ c ∈ front, isDigit c = true ∨ c = '.')
    {sign : Char} (hsign : sign = '+' ∨ sign = '-') (width n : ℕ) :
    Scientific (front ++ 'e' :: sign :: padded width n) := by
  have hpadded : ∀ c ∈ padded width n, isDigit c = true :=
    List.forall_mem_append.mpr ⟨isDigit_zeros _, isDigit_of_mem_toDigits⟩
  refine ⟨?_, ?_⟩
  · rcases hsign with rfl | rfl <;> simp
  · intro c hc
    simp only [List.mem_append, List.mem_cons] at hc
    rcases hc with hc | rfl | rfl | hc
    · exact (hfront c hc).imp_right fun hpoint => by simp [hpoint]
    · exact .inr (by decide)
    · rcases hsign with rfl | rfl <;> exact .inr (by decide)
    · exact .inl (hpadded c hc)

/-- **A text is in positional or in scientific notation.** -/
theorem text_cases (d : Decimal) :
    Positional (d.text .standard) (d.digits * 10 ^ d.exponent) ∨ Scientific (d.text .standard) := by
  have hdigits := isDigit_of_mem_toDigits (n := d.digits)
  have hds : Nat.toDigits 10 d.digits ≠ [] := Nat.toDigits_ne_nil
  have hvalue := value_toDigits d.digits
  unfold text
  generalize Nat.toDigits 10 d.digits = ds at *
  rw [← hvalue]
  dsimp only
  have hlength := List.length_pos_iff.mpr hds
  split_ifs with hpositional hexponent hlead hsign
  · obtain ⟨k, hk⟩ := Int.eq_ofNat_of_zero_le hexponent
    rw [hk]
    exact .inl (positional_integer hds hdigits k)
  · obtain ⟨k, hk⟩ := Int.eq_ofNat_of_zero_le (by omega : 0 ≤ d.exponent + ds.length)
    have hwhole : (d.exponent + ds.length - 1 + 1).toNat = k := by omega
    have hamong := positional_among hdigits (by omega : 0 < k) (by omega)
    rw [← hk, add_sub_cancel_right] at hamong
    rw [hwhole]
    exact .inl hamong
  · obtain ⟨k, hk⟩ := Int.eq_ofNat_of_zero_le (by omega : 0 ≤ -(d.exponent + ds.length - 1) - 1)
    have hsmall := positional_small hds hdigits k
    rw [show -((k : ℤ) + ds.length) = d.exponent by omega] at hsmall
    rw [hk]
    exact .inl hsmall
  · refine .inr (scientific_append ?_ (.inr rfl) _ _)
    split <;> simp_all
  · refine .inr (scientific_append ?_ (.inl rfl) _ _)
    split <;> simp_all

theorem Positional.isNumeral {cs : List Char} {q : ℚ} (h : Positional cs q) :
    IsNumeral isDigit cs := by
  cases h with
  | intro hds hdigits hes hmore _ => exact .pointed hds hdigits hes hmore

/-- The characters that decimals are written with. -/
theorem mem_text {d : Decimal} {c : Char} (h : c ∈ d.text .standard) :
    isDigit c = true ∨ c ∈ ['.', 'e', '+', '-'] := by
  rcases d.text_cases with hpositional | hscientific
  · generalize d.text .standard = cs at h hpositional
    cases hpositional with
    | intro _ hdigits _ hmore _ =>
      rw [List.mem_append, List.mem_cons] at h
      rcases h with h | rfl | h
      · exact .inl (hdigits c h)
      · exact .inr (by decide)
      · exact .inl (hmore c h)
  · exact hscientific.chars c h

theorem map_plainDigit {ds : List Char} (h : ∀ c ∈ ds, isDigit c = true) :
    ds.map plainDigit = ds :=
  (List.map_congr_left fun c hc => plainDigit_of_isDigit (h c hc)).trans (List.map_id ds)

/-- **A text in positional notation is read as the number whose rounding interval
its decimal is within.** -/
theorem Positional.readBinary64?_eq {s : String} {q : ℚ} (h : Positional s.toList q) {mant : ℕ}
    {exp : ℤ} (hmant : 0 < mant) (hcanonical : Canonical mant exp) (hwithin : Within q mant exp) :
    readBinary64? s = some (.finite false mant exp) := by
  generalize hs : s.toList = cs at h
  cases h with
  | @intro ds es q hds hdigits hes hmore hvalue =>
    subst hvalue
    have hany : ∀ {ds : List Char}, (∀ c ∈ ds, isDigit c = true) → ∀ c ∈ ds, isAnyDigit c = true :=
      fun h c hc => isAnyDigit_of_isDigit (h c hc)
    have hplain : (ds ++ es).map plainDigit = ds ++ es :=
      map_plainDigit (List.forall_mem_append.mpr ⟨hdigits, hmore⟩)
    rw [readBinary64?_pointed hs hds (hany hdigits) hes (hany hmore), hplain,
      ofDecimal_of_within hmant hcanonical hwithin]

end Decimal

/-! ## The text of a number -/

namespace Binary64

open Decimal Numeral

/-- What is an integer is one by its value. -/
theorem toInt?_finite {mant : ℕ} {exp n : ℤ} (h : toInt? (.finite false mant exp) = some n) :
    ∃ k : ℕ, n = k ∧ (k : ℚ) = mant * 2 ^ exp := by
  simp only [toInt?, Bool.false_eq_true, if_false] at h
  split_ifs at h with hexp hdvd
  · cases h
    refine ⟨_, rfl, ?_⟩
    rw [Nat.cast_mul, cast_pow_toNat 2 hexp, Nat.cast_ofNat]
  · cases h
    refine ⟨_, rfl, ?_⟩
    have hpow := cast_pow_neg_toNat 2 hexp
    have hpos : 0 < Nat.pow 2 (-exp).toNat := Nat.pow_pos two_pos
    obtain ⟨j, hj⟩ := Nat.dvd_of_mod_eq_zero (beq_iff_eq.mp hdvd)
    rw [Nat.cast_ofNat] at hpow
    rw [hj, Nat.mul_div_cancel_left j hpos, Nat.cast_mul, hpow, mul_right_comm,
      inv_mul_cancel₀ (two_zpow_pos exp).ne', one_mul]

theorem toInt?_zero (exp : ℤ) : toInt? (.finite false 0 exp) = some 0 := by
  simp [toInt?]

/-- The digits of a natural number are a numeral, and read as that number. -/
theorem readBinary64?_toDigits {s : String} {k : ℕ} (h : s.toList = Nat.toDigits 10 k) :
    IsNumeral isDigit s.toList ∧ readBinary64? s = some (ofDecimal false k 0) := by
  have hds : Nat.toDigits 10 k ≠ [] := Nat.toDigits_ne_nil
  have hdigits := isDigit_of_mem_toDigits (n := k)
  refine ⟨h ▸ .whole hds hdigits, ?_⟩
  rw [readBinary64?_whole h hds fun c hc => isAnyDigit_of_isDigit (hdigits c hc),
    map_plainDigit hdigits, value_toDigits]

/-- **The text of a number is a numeral that is read back as the number**, or it
is that of infinity, or it is in scientific notation. -/
theorem plainText_cases {x : Binary64} (h : IsRounded false x) :
    (IsNumeral isDigit x.plainText.toList ∧ readBinary64? x.plainText = some x)
      ∨ x.plainText = "inf" ∨ Scientific x.plainText.toList := by
  rcases h with rfl | ⟨mant, exp, rfl, hcanonical⟩
  · exact .inr (.inl rfl)
  · unfold plainText
    cases hint : toInt? (.finite false mant exp) with
    | some n =>
      obtain ⟨k, rfl, hk⟩ := toInt?_finite hint
      obtain ⟨hnumeral, hread⟩ := readBinary64?_toDigits (k := k) Nat.toList_repr
      refine .inl ⟨hnumeral, hread.trans ?_⟩
      rcases Nat.eq_zero_or_pos mant with rfl | hmant
      · obtain rfl : k = 0 := by simpa using hk
        rw [hcanonical.normal (by norm_num)]
        rfl
      · have hvalue : (k : ℚ) * 10 ^ (0 : ℤ) = mant * 2 ^ exp := by rw [hk, zpow_zero, mul_one]
        rw [ofDecimal_of_within hmant hcanonical (hvalue ▸ Within.self mant exp)]
    | none =>
      have hmant : 0 < mant := by
        refine Nat.pos_of_ne_zero fun hzero => ?_
        rw [hzero, toInt?_zero] at hint
        cases hint
      have htext : (text (.finite false mant exp)).toList = (shortest mant exp).text .standard := by
        simp [text, textWith, hmant.ne']
      dsimp only
      rw [htext]
      rcases text_cases (shortest mant exp) with hpositional | hscientific
      · rw [← htext] at hpositional
        have hread := hpositional.readBinary64?_eq hmant hcanonical
          (within_shortest hmant hcanonical.bits)
        exact .inl ⟨htext ▸ hpositional.isNumeral, hread⟩
      · exact .inr (.inr hscientific)

end Binary64

/-! ## The text of an integer -/

namespace Numeral

/-- The integer that digits spell after a sign, if there is one. -/
def signedValue (cs : List Char) : ℤ :=
  if (splitSign cs).1 then -(value (splitSign cs).2 : ℤ) else value (splitSign cs).2

end Numeral

namespace Decimal

open Numeral

/-- **The text of an integer**: the digits of its magnitude, after a sign if it is
negative. -/
theorem toList_toString_int (k : ℤ) :
    (toString k).toList = (if k < 0 then ['-'] else []) ++ Nat.toDigits 10 k.natAbs := by
  rw [Int.toString_eq_repr, Int.repr_eq_if]
  by_cases hk : 0 ≤ k
  · rw [if_pos hk, if_neg (by omega), Nat.toList_repr, List.nil_append,
      show k.toNat = k.natAbs by omega]
  · rw [if_neg hk, if_pos (by omega), String.toList_append, Nat.toList_repr,
      show (-k).toNat = k.natAbs by omega]
    rfl

/-- An integer is written with digits and a sign. -/
theorem mem_toString_int {k : ℤ} {c : Char} (h : c ∈ (toString k).toList) :
    isDigit c = true ∨ c = '-' := by
  rw [toList_toString_int, List.mem_append] at h
  rcases h with h | h
  · split at h
    · exact .inr (List.mem_singleton.mp h)
    · cases h
  · exact .inl (isDigit_of_mem_toDigits c h)

/-- **An integer is read back from its text.** -/
theorem signedValue_toString (k : ℤ) : signedValue (toString k).toList = k := by
  have hvalue := value_toDigits k.natAbs
  rw [toList_toString_int]
  split_ifs with hk
  · show -(value (Nat.toDigits 10 k.natAbs) : ℤ) = k
    rw [hvalue]
    omega
  · have hne : Nat.toDigits 10 k.natAbs ≠ [] := Nat.toDigits_ne_nil
    obtain ⟨c, cs, hcs⟩ := List.exists_cons_of_ne_nil hne
    have hdigit := isDigit_of_mem_toDigits c (hcs ▸ List.mem_cons_self)
    rw [hcs] at hvalue
    rw [List.nil_append, hcs, signedValue, splitSign_digit hdigit, if_neg Bool.false_ne_true,
      hvalue]
    omega

end Decimal

end ParseKit

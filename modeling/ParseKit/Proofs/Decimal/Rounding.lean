import ParseKit.Decimal.Binary64
import Mathlib.Algebra.Order.Field.Power
import Mathlib.Data.Rat.Cast.Order
import Mathlib.Tactic.FieldSimp
import Mathlib.Tactic.Linarith
import Mathlib.Tactic.NormNum
import Mathlib.Tactic.Ring

/-!
# Rounding to double precision

What rounding does is said here in rational numbers. A positive rational has
one **exponent** of the format, the one at which its significand has 53 bits
or the least one (`IsExponent`), and at this exponent one **nearest** natural
number, the even one on a tie (`NearestEven`). Both are unique, so that
`ofRatio` is known from these properties alone (`ofRatio_eq_pack`).

The finite numbers that rounding gives are `Canonical`. A rational number that
is within the **rounding interval** of a canonical number is rounded to that
number (`ofRatio_of_within`). The interval reaches half a unit up, and half a
unit down unless the significand is the least of its exponent: there the next
number below has the next smaller exponent, and the interval reaches down a
quarter of a unit.
-/

namespace ParseKit.Binary64

/-! ## The nearest natural number -/

/-- **The natural number is nearest** to the rational, and even on a tie. -/
structure NearestEven (q : ℚ) (m : ℕ) : Prop where
  /-- It is at most a half above. -/
  low : (m : ℚ) - 1 / 2 ≤ q
  /-- It is at most a half below. -/
  high : q ≤ m + 1 / 2
  /-- It is even if it is a half above or below. -/
  tie : q = m - 1 / 2 ∨ q = m + 1 / 2 → m % 2 = 0

/-- There is one nearest natural number. -/
theorem NearestEven.unique {q : ℚ} {m m' : ℕ} (h : NearestEven q m) (h' : NearestEven q m') :
    m = m' := by
  obtain ⟨hlow, hhigh, htie⟩ := h
  obtain ⟨hlow', hhigh', htie'⟩ := h'
  have hle : (m : ℚ) ≤ m' + 1 := by linarith
  have hle' : (m' : ℚ) ≤ m + 1 := by linarith
  norm_cast at hle hle'
  -- neighbours that are both nearest are both at a tie, and one of them is odd
  by_contra hne
  rcases Nat.lt_or_gt_of_ne hne with hlt | hgt
  · obtain rfl : m' = m + 1 := by omega
    push_cast at hlow'
    have hq : q = m + 1 / 2 := by linarith
    have heven := htie (.inr hq)
    have heven' := htie' (.inl (by push_cast; linarith))
    omega
  · obtain rfl : m = m' + 1 := by omega
    push_cast at hlow
    have hq : q = m' + 1 / 2 := by linarith
    have heven := htie (.inl (by push_cast; linarith))
    have heven' := htie' (.inr hq)
    omega

/-- A quotient is compared with halves by multiplying out. -/
theorem NearestEven.of_mul {num den m : ℕ} (hden : 0 < den)
    (hlow : 2 * (m * den) ≤ 2 * num + den) (hhigh : 2 * num ≤ 2 * (m * den) + den)
    (htie : 2 * (m * den) = 2 * num + den ∨ 2 * num = 2 * (m * den) + den → m % 2 = 0) :
    NearestEven ((num : ℚ) / den) m := by
  have hpos : (0 : ℚ) < den := by exact_mod_cast hden
  refine ⟨?_, ?_, fun h => htie (h.imp (fun h => ?_) fun h => ?_)⟩
  · rw [le_div_iff₀ hpos]
    have hlow' : 2 * ((m : ℚ) * den) ≤ 2 * num + den := by exact_mod_cast hlow
    linarith
  · rw [div_le_iff₀ hpos]
    have hhigh' : 2 * (num : ℚ) ≤ 2 * (m * den) + den := by exact_mod_cast hhigh
    linarith
  · rw [div_eq_iff hpos.ne'] at h
    have h' : 2 * ((m : ℚ) * den) = 2 * num + den := by linarith
    exact_mod_cast h'
  · rw [div_eq_iff hpos.ne'] at h
    have h' : 2 * (num : ℚ) = 2 * (m * den) + den := by linarith
    exact_mod_cast h'

/-- `divNearest` is the nearest natural number to the quotient. -/
theorem nearestEven_divNearest (num : ℕ) {den : ℕ} (hden : 0 < den) :
    NearestEven ((num : ℚ) / den) (divNearest num den) := by
  have hsplit : num / den * den + num % den = num := Nat.div_add_mod' num den
  have hmod : num % den < den := Nat.mod_lt num hden
  unfold divNearest
  dsimp only
  split
  case isTrue h =>
    simp only [Bool.or_eq_true, decide_eq_true_eq, Bool.and_eq_true, beq_iff_eq] at h
    have hsucc : (num / den + 1) * den = num / den * den + den := Nat.succ_mul _ _
    exact .of_mul hden (by omega) (by omega) (by omega)
  case isFalse h =>
    simp only [Bool.or_eq_true, decide_eq_true_eq, Bool.and_eq_true, beq_iff_eq, not_or,
      not_and] at h
    exact .of_mul hden (by omega) (by omega) (by omega)

/-! ## Powers and scaling -/

theorem two_zpow_pos (e : ℤ) : (0 : ℚ) < 2 ^ e := zpow_pos two_pos e

theorem ten_zpow_pos (e : ℤ) : (0 : ℚ) < 10 ^ e := zpow_pos (by norm_num) e

/-- A power whose exponent is not negative. -/
theorem cast_pow_toNat (b : ℕ) {e : ℤ} (h : 0 ≤ e) :
    ((Nat.pow b e.toNat : ℕ) : ℚ) = (b : ℚ) ^ e := by
  rw [Nat.pow_eq, Nat.cast_pow, ← zpow_natCast, Int.toNat_of_nonneg h]

/-- A power whose exponent is negative stands on the other side. -/
theorem cast_pow_neg_toNat (b : ℕ) {e : ℤ} (h : ¬ 0 ≤ e) :
    ((Nat.pow b (-e).toNat : ℕ) : ℚ) = ((b : ℚ) ^ e)⁻¹ := by
  rw [cast_pow_toNat b (by omega), zpow_neg]

/-- **A quotient divided by a power**, which stands below or above the line. -/
theorem exists_divided {b : ℕ} (hb : 0 < b) (num : ℕ) {den : ℕ} (hden : 0 < den) (e : ℤ) :
    ∃ n d : ℕ, (if 0 ≤ e then (num, den * Nat.pow b e.toNat)
        else (num * Nat.pow b (-e).toNat, den)) = (n, d)
      ∧ 0 < d ∧ (n : ℚ) / d = (num : ℚ) / den / (b : ℚ) ^ e := by
  by_cases he : 0 ≤ e
  · refine ⟨_, _, if_pos he, Nat.mul_pos hden (Nat.pow_pos hb), ?_⟩
    rw [Nat.cast_mul, cast_pow_toNat b he, div_div]
  · refine ⟨_, _, if_neg he, hden, ?_⟩
    rw [Nat.cast_mul, cast_pow_neg_toNat b he, mul_div_right_comm, ← div_eq_mul_inv]

/-- Scaling divides by the power of two. -/
theorem scaled_eq (num : ℕ) {den : ℕ} (hden : 0 < den) (e : ℤ) :
    0 < (scaled num den e).2
      ∧ ((scaled num den e).1 : ℚ) / (scaled num den e).2 = (num : ℚ) / den / 2 ^ e := by
  obtain ⟨n, d, heq, hd, hquotient⟩ := exists_divided two_pos num hden e
  rw [scaled, heq]
  exact ⟨hd, hquotient⟩

/-! ## The exponent -/

/-- **The exponent of a rational number** in the format: its significand has 53
bits there, or fewer at the least exponent. -/
structure IsExponent (q : ℚ) (e : ℤ) : Prop where
  /-- It is not less than the least exponent. -/
  least : leastExp ≤ e
  /-- The significand has at most 53 bits. -/
  below : q < 2 ^ 53 * 2 ^ e
  /-- It has 53 bits, unless the exponent is the least. -/
  above : e = leastExp ∨ 2 ^ 52 * 2 ^ e ≤ q

theorem IsExponent.le {q : ℚ} {e e' : ℤ} (h : IsExponent q e) (h' : IsExponent q e') :
    e' ≤ e := by
  by_contra hlt
  have habove : 2 ^ 52 * 2 ^ e' ≤ q := h'.above.resolve_left fun heq => by
    have := h.least
    omega
  have hpow : (2 : ℚ) ^ (e + 1) ≤ 2 ^ e' := zpow_le_zpow_right₀ one_le_two (by omega)
  rw [zpow_add_one₀ two_ne_zero] at hpow
  have hbelow := h.below
  linarith

/-- There is one exponent. -/
theorem IsExponent.unique {q : ℚ} {e e' : ℤ} (h : IsExponent q e) (h' : IsExponent q e') :
    e = e' :=
  le_antisymm (h'.le h) (h.le h')

/-- The quotient as it is scaled by the difference of the logarithms: it has 53 or
54 bits. -/
theorem log2_bounds {num den : ℕ} (hnum : 0 < num) (hden : 0 < den) {guess : ℤ}
    (hguess : guess = (num.log2 : ℤ) - den.log2 - 53) :
    2 ^ 52 * 2 ^ guess ≤ (num : ℚ) / den ∧ (num : ℚ) / den < 2 ^ 54 * 2 ^ guess := by
  have hpos : (0 : ℚ) < den := by exact_mod_cast hden
  have hnumLow : (2 : ℚ) ^ (num.log2 : ℤ) ≤ num := by exact_mod_cast Nat.log2_self_le hnum.ne'
  have hnumHigh : (num : ℚ) < 2 ^ ((num.log2 : ℤ) + 1) := by exact_mod_cast Nat.lt_log2_self
  have hdenLow : (2 : ℚ) ^ (den.log2 : ℤ) ≤ den := by exact_mod_cast Nat.log2_self_le hden.ne'
  have hdenHigh : (den : ℚ) < 2 ^ ((den.log2 : ℤ) + 1) := by exact_mod_cast Nat.lt_log2_self
  have hpow : ∀ (k : ℕ) (e : ℤ), (2 : ℚ) ^ k * 2 ^ guess * 2 ^ e = 2 ^ (k + guess + e) :=
    fun k e => by rw [zpow_add₀ two_ne_zero, zpow_add₀ two_ne_zero, zpow_natCast]
  constructor
  · rw [le_div_iff₀ hpos]
    calc (2 : ℚ) ^ 52 * 2 ^ guess * den ≤ 2 ^ 52 * 2 ^ guess * 2 ^ ((den.log2 : ℤ) + 1) := by
          gcongr
      _ = 2 ^ (num.log2 : ℤ) := by
          rw [hpow, hguess]
          congr 1
          push_cast
          ring
      _ ≤ num := hnumLow
  · rw [div_lt_iff₀ hpos]
    calc (num : ℚ) < 2 ^ ((num.log2 : ℤ) + 1) := hnumHigh
      _ = 2 ^ 54 * 2 ^ guess * 2 ^ (den.log2 : ℤ) := by
          rw [hpow, hguess]
          congr 1
          push_cast
          ring
      _ ≤ 2 ^ 54 * 2 ^ guess * den := by gcongr

/-- `exponentOf` is the exponent of the quotient. -/
theorem isExponent_exponentOf {num den : ℕ} (hnum : 0 < num) (hden : 0 < den) :
    IsExponent ((num : ℚ) / den) (exponentOf num den) := by
  obtain ⟨hlow, hhigh⟩ := log2_bounds hnum hden rfl
  unfold exponentOf
  dsimp only
  set guess : ℤ := (num.log2 : ℤ) - den.log2 - 53
  set q : ℚ := (num : ℚ) / den with hq
  obtain ⟨hpos, hscaled⟩ := scaled_eq num hden guess
  -- whether the scaled quotient has 53 bits or 54
  have hbits : (scaled num den guess).1 / (scaled num den guess).2 < Nat.pow 2 53
      ↔ q < 2 ^ 53 * 2 ^ guess := by
    have hpos' : (0 : ℚ) < (scaled num den guess).2 := by exact_mod_cast hpos
    rw [Nat.pow_eq, Nat.div_lt_iff_lt_mul hpos, ← div_lt_iff₀ (two_zpow_pos guess), ← hscaled,
      div_lt_iff₀ hpos']
    norm_cast
  have hnormal : ∃ e : ℤ, (if (scaled num den guess).1 / (scaled num den guess).2 < Nat.pow 2 53
      then guess else guess + 1) = e ∧ 2 ^ 52 * 2 ^ e ≤ q ∧ q < 2 ^ 53 * 2 ^ e := by
    split
    case isTrue h => exact ⟨guess, rfl, hlow, hbits.mp h⟩
    case isFalse h =>
      have hlow' := not_lt.mp (mt hbits.mpr h)
      refine ⟨guess + 1, rfl, ?_, ?_⟩ <;> rw [zpow_add_one₀ two_ne_zero] <;> linarith
  obtain ⟨e, he, hlow, hhigh⟩ := hnormal
  rw [he]
  refine ⟨le_max_left _ _, hhigh.trans_le ?_, ?_⟩
  · have hpow : (2 : ℚ) ^ e ≤ 2 ^ max leastExp e :=
      zpow_le_zpow_right₀ one_le_two (le_max_right _ _)
    linarith
  · rcases le_total leastExp e with hle | hle
    · rw [max_eq_right hle]
      exact .inr hlow
    · exact .inl (max_eq_left hle)

/-! ## Rounding -/

/-- A significand with its exponent as a number. A significand of 54 bits can only
be the least such, and an exponent may be too great for the format. -/
def pack (negative : Bool) (mant : ℕ) (exp : ℤ) : Binary64 :=
  if mant = 2 ^ 53 then
    if greatestExp < exp + 1 then .infinite negative else .finite negative (2 ^ 52) (exp + 1)
  else if greatestExp < exp then .infinite negative else .finite negative mant exp

/-- **Rounding by its properties**: with the exponent of the quotient, and the
natural number that is nearest to the quotient at this exponent. -/
theorem ofRatio_eq_pack {num den mant : ℕ} {exp : ℤ} (hnum : 0 < num) (hden : 0 < den)
    (hexp : IsExponent ((num : ℚ) / den) exp)
    (hmant : NearestEven ((num : ℚ) / den / 2 ^ exp) mant) (negative : Bool) :
    ofRatio negative num den = pack negative mant exp := by
  obtain rfl := (isExponent_exponentOf hnum hden).unique hexp
  obtain ⟨hpos, hscaled⟩ := scaled_eq num hden (exponentOf num den)
  have hnearest := nearestEven_divNearest (scaled num den (exponentOf num den)).1 hpos
  rw [hscaled] at hnearest
  obtain rfl := hnearest.unique hmant
  rw [ofRatio, if_neg (by simpa using hnum.ne'), pack]
  simp only [Nat.pow_eq, beq_iff_eq]
  split <;> rfl

/-- **A significand and an exponent of the format.** -/
structure Canonical (mant : ℕ) (exp : ℤ) : Prop where
  /-- The significand has at most 53 bits. -/
  bits : mant < 2 ^ 53
  /-- The exponent is not less than the least. -/
  least : leastExp ≤ exp
  /-- The exponent is not greater than the greatest. -/
  greatest : exp ≤ greatestExp
  /-- The significand has 53 bits unless the exponent is the least. -/
  normal : mant < 2 ^ 52 → exp = leastExp

/-- **The number is an infinity or canonical**, of the given sign. -/
def IsRounded (negative : Bool) (x : Binary64) : Prop :=
  x = .infinite negative ∨ ∃ mant exp, x = .finite negative mant exp ∧ Canonical mant exp

theorem isRounded_pack {q : ℚ} {mant : ℕ} {exp : ℤ} (hexp : IsExponent q exp)
    (hmant : NearestEven (q / 2 ^ exp) mant) (negative : Bool) :
    IsRounded negative (pack negative mant exp) := by
  have hle : mant ≤ 2 ^ 53 := by
    by_contra hlt
    have hlt' : (2 ^ 53 + 1 : ℚ) ≤ mant := by exact_mod_cast not_le.mp hlt
    have hbelow := (div_lt_iff₀ (two_zpow_pos exp)).mpr hexp.below
    have hlow := hmant.low
    linarith
  have hnormal : mant < 2 ^ 52 → exp = leastExp := by
    intro hlt
    refine hexp.above.resolve_right fun habove => ?_
    have hlt' : (mant + 1 : ℚ) ≤ 2 ^ 52 := by exact_mod_cast hlt
    have habove' := (le_div_iff₀ (two_zpow_pos exp)).mpr habove
    have hhigh := hmant.high
    linarith
  have hleast := hexp.least
  unfold pack
  split_ifs with h53 hgreat hgreat
  · exact .inl rfl
  · exact .inr ⟨_, _, rfl, by norm_num, by omega, by omega, fun h => absurd h (by norm_num)⟩
  · exact .inl rfl
  · exact .inr ⟨_, _, rfl, by omega, hleast, by omega, hnormal⟩

theorem isRounded_zero (negative : Bool) : IsRounded negative (zero negative) :=
  .inr ⟨0, leastExp, rfl, by norm_num, le_rfl, by decide, fun _ => rfl⟩

/-- **Rounding gives canonical numbers**, or an infinity. -/
theorem isRounded_ofRatio (negative : Bool) (num : ℕ) {den : ℕ} (hden : 0 < den) :
    IsRounded negative (ofRatio negative num den) := by
  rcases Nat.eq_zero_or_pos num with rfl | hnum
  · exact isRounded_zero negative
  · have hexp := isExponent_exponentOf hnum hden
    obtain ⟨hpos, hscaled⟩ := scaled_eq num hden (exponentOf num den)
    have hmant := nearestEven_divNearest (scaled num den (exponentOf num den)).1 hpos
    rw [hscaled] at hmant
    rw [ofRatio_eq_pack hnum hden hexp hmant]
    exact isRounded_pack hexp hmant negative

/-! ## The rounding interval -/

/-- How far the rounding interval reaches down, in units of the number. -/
def gapBelow (mant : ℕ) (exp : ℤ) : ℚ := if mant = 2 ^ 52 ∧ leastExp < exp then 1 / 4 else 1 / 2

/-- **The rational number is within the rounding interval.** The ends are so if the
significand is even. -/
structure Within (q : ℚ) (mant : ℕ) (exp : ℤ) : Prop where
  /-- It is not below the interval. -/
  low : (mant - gapBelow mant exp) * 2 ^ exp ≤ q
  /-- It is not above the interval. -/
  high : q ≤ (mant + 1 / 2) * 2 ^ exp
  /-- It is an end only if the significand is even. -/
  tie : q = (mant - gapBelow mant exp) * 2 ^ exp ∨ q = (mant + 1 / 2) * 2 ^ exp → mant % 2 = 0

theorem gapBelow_le (mant : ℕ) (exp : ℤ) : gapBelow mant exp ≤ 1 / 2 := by
  unfold gapBelow
  split <;> norm_num

theorem le_gapBelow (mant : ℕ) (exp : ℤ) : 1 / 4 ≤ gapBelow mant exp := by
  unfold gapBelow
  split <;> norm_num

namespace Within

variable {q : ℚ} {mant : ℕ} {exp : ℤ}

/-- What is less than a quarter of a unit away is within the interval. -/
theorem of_close (hlow : (mant - 1 / 4) * 2 ^ exp < q) (hhigh : q < (mant + 1 / 4) * 2 ^ exp) :
    Within q mant exp := by
  have hpos := two_zpow_pos exp
  have hend : ((mant : ℚ) - gapBelow mant exp) * 2 ^ exp < q :=
    lt_of_le_of_lt (mul_le_mul_of_nonneg_right (by linarith [le_gapBelow mant exp]) hpos.le) hlow
  have hend' : q < ((mant : ℚ) + 1 / 2) * 2 ^ exp :=
    lt_of_lt_of_le hhigh (mul_le_mul_of_nonneg_right (by linarith) hpos.le)
  refine ⟨hend.le, hend'.le, ?_⟩
  rintro (heq | heq)
  · exact absurd heq hend.ne'
  · exact absurd heq hend'.ne

/-- The number is within its own interval. -/
theorem self (mant : ℕ) (exp : ℤ) : Within (mant * 2 ^ exp) mant exp :=
  of_close (mul_lt_mul_of_pos_right (by linarith) (two_zpow_pos exp))
    (mul_lt_mul_of_pos_right (by linarith) (two_zpow_pos exp))

theorem half_le (h : Within q mant exp) (hmant : 0 < mant) : 1 / 2 * 2 ^ exp ≤ q := by
  have hone : (1 : ℚ) ≤ mant := by exact_mod_cast hmant
  have hgap := gapBelow_le mant exp
  refine le_trans ?_ h.low
  exact mul_le_mul_of_nonneg_right (by linarith) (two_zpow_pos exp).le

theorem pos (h : Within q mant exp) (hmant : 0 < mant) : 0 < q :=
  lt_of_lt_of_le (mul_pos (by norm_num) (two_zpow_pos exp)) (h.half_le hmant)

theorem below (h : Within q mant exp) (hbits : mant < 2 ^ 53) : q < 2 ^ 53 * 2 ^ exp := by
  have hbits' : (mant + 1 : ℚ) ≤ 2 ^ 53 := by exact_mod_cast hbits
  have hlt : ((mant : ℚ) + 1 / 2) * 2 ^ exp < 2 ^ 53 * 2 ^ exp :=
    mul_lt_mul_of_pos_right (by linarith) (two_zpow_pos exp)
  exact h.high.trans_lt hlt

/-- At the exponent of the number, the number has the nearest significand. -/
theorem nearestEven (h : Within q mant exp) : NearestEven (q / 2 ^ exp) mant := by
  have hpos := two_zpow_pos exp
  have hgap := gapBelow_le mant exp
  have hlow := (le_div_iff₀ hpos).mpr h.low
  refine ⟨by linarith, (div_le_iff₀ hpos).mpr h.high, ?_⟩
  rintro (htie | htie)
  · -- so far below the number only the wider interval reaches
    have hgap' : gapBelow mant exp = 1 / 2 := by linarith
    refine h.tie (.inl ?_)
    rw [hgap']
    exact (div_eq_iff hpos.ne').mp htie
  · exact h.tie (.inr ((div_eq_iff hpos.ne').mp htie))

/-- Where the number has a greater exponent than the rational, its significand is
the least one, and the rational is rounded up to it. -/
theorem nearestEven_of_lt (h : Within q mant exp) (hnormal : 2 ^ 52 ≤ mant)
    (hleast : leastExp < exp) (hlt : q < 2 ^ 52 * 2 ^ exp) :
    mant = 2 ^ 52 ∧ IsExponent q (exp - 1) ∧ NearestEven (q / 2 ^ (exp - 1)) (2 ^ 53) := by
  have hpos := two_zpow_pos (exp - 1)
  have hpow : (2 : ℚ) ^ exp = 2 ^ (exp - 1) * 2 := by
    rw [← zpow_add_one₀ two_ne_zero, sub_add_cancel]
  have hmant : mant = 2 ^ 52 := by
    by_contra hne
    have hgreater : (2 ^ 52 + 1 : ℚ) ≤ mant := by
      exact_mod_cast (show 2 ^ 52 + 1 ≤ mant by omega)
    have hgap := gapBelow_le mant exp
    have hlow := (le_div_iff₀ (two_zpow_pos exp)).mpr h.low
    have hhigh := (div_lt_iff₀ (two_zpow_pos exp)).mpr hlt
    linarith
  have hlow : ((2 : ℚ) ^ 53 - 1 / 2) * 2 ^ (exp - 1) ≤ q := by
    have hend := h.low
    rw [gapBelow, if_pos ⟨hmant, hleast⟩, hmant, hpow] at hend
    push_cast at hend
    linarith
  have hhigh : q < 2 ^ 53 * 2 ^ (exp - 1) := by
    rw [hpow] at hlt
    linarith
  refine ⟨hmant, ⟨by omega, hhigh, .inr ?_⟩, ⟨?_, ?_, fun _ => by norm_num⟩⟩
  · linarith
  · rw [le_div_iff₀ hpos]
    exact_mod_cast hlow
  · rw [div_le_iff₀ hpos]
    push_cast
    linarith

end Within

/-- **What is within the rounding interval is rounded to the number.** -/
theorem ofRatio_of_within {num den mant : ℕ} {exp : ℤ} (hden : 0 < den) (hmant : 0 < mant)
    (hcanonical : Canonical mant exp) (h : Within ((num : ℚ) / den) mant exp) (negative : Bool) :
    ofRatio negative num den = .finite negative mant exp := by
  have hgreatest := hcanonical.greatest
  have hnum : 0 < num := by
    by_contra hzero
    have hpos := h.pos hmant
    rw [Nat.eq_zero_of_not_pos hzero] at hpos
    simp at hpos
  by_cases hexp : exp = leastExp ∨ 2 ^ 52 * 2 ^ exp ≤ (num : ℚ) / den
  · have hexponent : IsExponent ((num : ℚ) / den) exp :=
      ⟨hcanonical.least, h.below hcanonical.bits, hexp⟩
    rw [ofRatio_eq_pack hnum hden hexponent h.nearestEven, pack, if_neg hcanonical.bits.ne,
      if_neg (by omega)]
  · obtain ⟨hne, hlt⟩ := not_or.mp hexp
    have hnormal : 2 ^ 52 ≤ mant := not_lt.mp (mt hcanonical.normal hne)
    have hleast : leastExp < exp := lt_of_le_of_ne hcanonical.least (Ne.symm hne)
    obtain ⟨rfl, hexponent, hnearest⟩ := h.nearestEven_of_lt hnormal hleast (not_le.mp hlt)
    rw [ofRatio_eq_pack hnum hden hexponent hnearest, pack, if_pos rfl, sub_add_cancel,
      if_neg (by omega)]

/-! ## Decimals -/

/-- A number is below the power of ten that has as many zeros as it has digits. -/
theorem lt_pow_length_toDigits (n : ℕ) : (n : ℚ) < 10 ^ ((Nat.toDigits 10 n).length : ℤ) := by
  have hlt := (Nat.length_toDigits_le_iff (by decide) Nat.length_toDigits_pos).mp
    (le_refl (Nat.toDigits 10 n).length)
  exact_mod_cast hlt

/-- A number is not below the power of ten that has as many digits. -/
theorem pow_length_toDigits_le {n : ℕ} (hn : 0 < n) :
    (10 : ℚ) ^ ((Nat.toDigits 10 n).length - 1 : ℤ) ≤ n := by
  obtain ⟨k, hk⟩ := Nat.exists_eq_add_one.mpr (Nat.length_toDigits_pos (b := 10) (n := n))
  have hle : 10 ^ k ≤ n := by
    rcases Nat.eq_zero_or_pos k with rfl | hpos
    · exact hn
    · refine not_lt.mp fun hlt => ?_
      have := (Nat.length_toDigits_le_iff (by decide) hpos).mpr hlt
      omega
  rw [hk]
  push_cast
  rw [add_sub_cancel_right]
  exact_mod_cast hle

/-- Within the range of the format a decimal is rounded as the quotient that it is. -/
theorem ofDecimal_eq_ofRatio (negative : Bool) {digits : ℕ} {exponent : ℤ} (hdigits : 0 < digits)
    (hlow : (10 : ℚ) ^ (-400 : ℤ) ≤ digits * 10 ^ exponent)
    (hhigh : (digits : ℚ) * 10 ^ exponent < 10 ^ (400 : ℤ)) :
    ∃ num den : ℕ, 0 < den ∧ (num : ℚ) / den = digits * 10 ^ exponent
      ∧ ofDecimal negative digits exponent = ofRatio negative num den := by
  have hten : (1 : ℚ) < 10 := by norm_num
  set length : ℤ := ((Nat.toDigits 10 digits).length : ℤ)
  have hfar : ¬ 400 < length + exponent := by
    intro hlt
    have hle : (10 : ℚ) ^ (length - 1 + exponent) ≤ digits * 10 ^ exponent := by
      rw [zpow_add₀ (by norm_num)]
      exact mul_le_mul_of_nonneg_right (pow_length_toDigits_le hdigits) (ten_zpow_pos _).le
    have hexp := (zpow_lt_zpow_iff_right₀ hten).mp (hle.trans_lt hhigh)
    omega
  have hsmall : ¬ length + exponent < -400 := by
    intro hlt
    have hlt' : (digits : ℚ) * 10 ^ exponent < 10 ^ (length + exponent) := by
      rw [zpow_add₀ (by norm_num)]
      exact mul_lt_mul_of_pos_right (lt_pow_length_toDigits digits) (ten_zpow_pos _)
    have hexp := (zpow_lt_zpow_iff_right₀ hten).mp (hlow.trans_lt hlt')
    omega
  unfold ofDecimal
  dsimp only
  rw [if_neg (by simpa using hdigits.ne'), if_neg hfar, if_neg hsmall]
  split
  case isTrue h =>
    refine ⟨_, _, one_pos, ?_, rfl⟩
    rw [Nat.cast_mul, cast_pow_toNat 10 h, Nat.cast_one, div_one, Nat.cast_ofNat]
  case isFalse h =>
    refine ⟨digits, Nat.pow 10 (-exponent).toNat, Nat.pow_pos (by norm_num), ?_, rfl⟩
    rw [cast_pow_neg_toNat 10 h, div_inv_eq_mul, Nat.cast_ofNat]

/-- **A decimal is read as a canonical number**, or as an infinity. -/
theorem isRounded_ofDecimal (negative : Bool) (digits : ℕ) (exponent : ℤ) :
    IsRounded negative (ofDecimal negative digits exponent) := by
  unfold ofDecimal
  dsimp only
  split_ifs
  · exact isRounded_zero negative
  · exact .inl rfl
  · exact isRounded_zero negative
  · exact isRounded_ofRatio negative _ one_pos
  · exact isRounded_ofRatio negative _ (Nat.pow_pos (by norm_num))

/-- The least numbers of the format are far above this power of ten. -/
theorem ten_zpow_le_half_leastExp : (10 : ℚ) ^ (-400 : ℤ) ≤ 1 / 2 * 2 ^ leastExp := by
  calc (10 : ℚ) ^ (-400 : ℤ) = ((10 ^ 16) ^ 25)⁻¹ := by
        rw [← pow_mul, ← zpow_natCast, ← zpow_neg]
        rfl
    _ ≤ ((2 ^ 43) ^ 25)⁻¹ := by gcongr; norm_num
    _ = 2 ^ (leastExp - 1) := by
        rw [← pow_mul, ← zpow_natCast, ← zpow_neg]
        rfl
    _ = 1 / 2 * 2 ^ leastExp := by rw [zpow_sub_one₀ two_ne_zero, mul_comm, one_div]

/-- The greatest numbers of the format are far below this power of ten. -/
theorem greatestExp_lt_ten_zpow : 2 ^ 53 * 2 ^ greatestExp < (10 : ℚ) ^ (400 : ℤ) := by
  calc (2 : ℚ) ^ 53 * 2 ^ greatestExp = (2 ^ 32) ^ 32 := by
        rw [← pow_mul, ← zpow_natCast, ← zpow_natCast, ← zpow_add₀ two_ne_zero]
        rfl
    _ < (10 ^ 10) ^ 32 := by gcongr; norm_num
    _ = 10 ^ (320 : ℤ) := by
        rw [← pow_mul, ← zpow_natCast]
        rfl
    _ < 10 ^ (400 : ℤ) := zpow_lt_zpow_right₀ (by norm_num) (by norm_num)

/-- **A decimal within the rounding interval is read as the number.** -/
theorem ofDecimal_of_within {digits mant : ℕ} {exponent exp : ℤ} (hmant : 0 < mant)
    (hcanonical : Canonical mant exp) (h : Within (digits * 10 ^ exponent) mant exp)
    (negative : Bool) : ofDecimal negative digits exponent = .finite negative mant exp := by
  have hdigits : 0 < digits := by
    by_contra hzero
    have hpos := h.pos hmant
    rw [Nat.eq_zero_of_not_pos hzero] at hpos
    simp at hpos
  have hlow : (10 : ℚ) ^ (-400 : ℤ) ≤ digits * 10 ^ exponent := by
    calc (10 : ℚ) ^ (-400 : ℤ) ≤ 1 / 2 * 2 ^ leastExp := ten_zpow_le_half_leastExp
      _ ≤ 1 / 2 * 2 ^ exp := by gcongr; exacts [one_le_two, hcanonical.least]
      _ ≤ digits * 10 ^ exponent := h.half_le hmant
  have hhigh : (digits : ℚ) * 10 ^ exponent < 10 ^ (400 : ℤ) := by
    calc (digits : ℚ) * 10 ^ exponent < 2 ^ 53 * 2 ^ exp := h.below hcanonical.bits
      _ ≤ 2 ^ 53 * 2 ^ greatestExp := by gcongr; exacts [one_le_two, hcanonical.greatest]
      _ < 10 ^ (400 : ℤ) := greatestExp_lt_ten_zpow
  obtain ⟨num, den, hden, hq, heq⟩ := ofDecimal_eq_ofRatio negative hdigits hlow hhigh
  rw [heq]
  exact ofRatio_of_within hden hmant hcanonical (hq ▸ h) negative

end ParseKit.Binary64

import ChoiceTemplate.Number.Decimal
import Mathlib

/-
  Which decimal numbers are finite, and which become zero.

  A ratio is rounded to some significant bits, so whether the result stays below a power of two is
  decided halfway below that power, and whether it is zero at one half.

    1. `roundDiv_le_iff` says where rounding to the nearest natural number goes up; a half goes to
       the even number.
    2. From it, `roundRatio_lt_iff` and `roundRatio_eq_zero_iff` say when a rounded ratio is below a
       power of two, and when it is zero.
    3. For decimal numbers these bounds are `2 ^ 1024 - 2 ^ 970` (`Decimal.isFinite_toDouble`) and
       `2 ^ -1075` (`Decimal.isZero_toDouble`). The exponents that settle a number without rounding
       it never settle it wrongly (`two_pow_le_size`, `two_pow_mul_size_lt`).
-/
namespace ChoiceTemplate

-- Powers are the core library's, as in the definitions.
attribute [local instance (high)] instPowNat

/-! ## Rounding to the nearest natural number -/

section
variable {num den m p e : Nat}

/-- Halves go to even, so a half above `m` is rounded to `m` only if `m` is even. -/
theorem roundDiv_le_iff (hden : 0 < den) :
    roundDiv num den ≤ m ↔
      2 * num < (2 * m + 1) * den ∨ (2 * num = (2 * m + 1) * den ∧ m % 2 = 0) := by
  have hsplit : den * (num / den) + num % den = num := Nat.div_add_mod num den
  have hrest : num % den < den := Nat.mod_lt num hden
  rw [roundDiv]
  generalize num / den = q at *
  generalize num % den = r at *
  rcases Nat.lt_trichotomy q m with hq | rfl | hq
  · have hmul : den * (q + 1) ≤ den * m := Nat.mul_le_mul_left den hq
    have hnum : 2 * num < (2 * m + 1) * den := by linarith
    have hle : (if den < 2 * r ∨ den = 2 * r ∧ q % 2 = 1 then q + 1 else q) ≤ m := by
      split <;> omega
    simp only [hle, hnum, true_or]
  · have hnum : 2 * num = 2 * (den * q) + 2 * r := by omega
    have hbound : (2 * q + 1) * den = 2 * (den * q) + den := by ring
    rw [hnum, hbound]
    split <;> omega
  · have hmul : den * (m + 1) ≤ den * q := Nat.mul_le_mul_left den hq
    have hnum : (2 * m + 1) * den < 2 * num := by linarith
    have hlt : m < (if den < 2 * r ∨ den = 2 * r ∧ q % 2 = 1 then q + 1 else q) := by
      split <;> omega
    omega

theorem div_le_roundDiv (num den : Nat) : num / den ≤ roundDiv num den := by
  rw [roundDiv]
  split <;> omega

/-! ## Rounding to some significant bits -/

/-- What is rounded has at least as many bits as the quotient. -/
theorem pow_log2_le_roundRatio (hp : 0 < p) (hquotient : num / den ≠ 0) :
    2 ^ (num / den).log2 ≤ roundRatio p num den := by
  have hk : lowBits p (num / den) ≤ (num / den).log2 := by
    unfold lowBits
    omega
  have hpow : 2 ^ (num / den).log2 =
      2 ^ ((num / den).log2 - lowBits p (num / den)) * 2 ^ lowBits p (num / den) := by
    rw [← Nat.pow_add, Nat.sub_add_cancel hk]
  have hdiv : 2 ^ ((num / den).log2 - lowBits p (num / den)) ≤
      num / (den * 2 ^ lowBits p (num / den)) := by
    rw [← Nat.div_div_eq_div_mul, Nat.le_div_iff_mul_le (Nat.two_pow_pos _), ← hpow]
    exact Nat.log2_self_le hquotient
  rw [hpow, roundRatio]
  exact Nat.mul_le_mul_right _ (Nat.le_trans hdiv (div_le_roundDiv _ _))

theorem roundRatio_le (p num den : Nat) :
    roundRatio p num den ≤ 2 ^ (p + lowBits p (num / den)) := by
  rw [roundRatio, Nat.pow_add]
  have hquotient := quotient_lt p num den
  have hround := roundDiv_le_succ num (den * 2 ^ lowBits p (num / den))
  exact Nat.mul_le_mul_right _ (by omega)

theorem lt_of_lowBits (num : Nat) (hden : 0 < den) (p : Nat) :
    num < 2 ^ (p + lowBits p (num / den)) * den := by
  have hlog : (num / den).log2 < p + lowBits p (num / den) := by
    unfold lowBits
    omega
  have hlt : num / den < 2 ^ (p + lowBits p (num / den)) :=
    Nat.lt_of_lt_of_le Nat.lt_log2_self (Nat.pow_le_pow_right (by decide) hlog)
  exact (Nat.div_lt_iff_lt_mul hden).mp hlt

/-- With fewer than `e` bits to clear, a ratio and what it is rounded to are both below the power. -/
theorem lt_of_lowBits_lt (hden : 0 < den) (hk : lowBits p (num / den) < e) :
    roundRatio p num den < 2 ^ (p + e) ∧ 2 * num < (2 ^ (p + 1) - 1) * 2 ^ e * den := by
  constructor
  · calc roundRatio p num den ≤ 2 ^ (p + lowBits p (num / den)) := roundRatio_le p num den
      _ < 2 ^ (p + e) := Nat.pow_lt_pow_right (by decide) (by omega)
  · have hlt := lt_of_lowBits num hden p
    have hpos : 0 < 2 ^ p := Nat.two_pow_pos p
    have hsucc : 2 ^ (p + 1) = 2 * 2 ^ p := by rw [Nat.pow_succ, Nat.mul_comm]
    calc 2 * num < 2 * (2 ^ (p + lowBits p (num / den)) * den) := by omega
      _ = 2 ^ (p + (lowBits p (num / den) + 1)) * den := by
          rw [← Nat.add_assoc, Nat.pow_succ, Nat.mul_comm _ 2, Nat.mul_assoc]
      _ ≤ 2 ^ (p + e) * den :=
          Nat.mul_le_mul_right den (Nat.pow_le_pow_right (by decide) (by omega))
      _ ≤ (2 ^ (p + 1) - 1) * 2 ^ e * den := by
          rw [Nat.pow_add]
          exact Nat.mul_le_mul_right den (Nat.mul_le_mul_right _ (by omega))

/-- With more than `e` bits to clear, a number has more than `p + e` bits. -/
theorem two_pow_le_of_lt_lowBits {n : Nat} (hp : 0 < p) (hk : e < lowBits p n) :
    n ≠ 0 ∧ 2 ^ (p + e) ≤ 2 ^ n.log2 := by
  have hlog : p + e ≤ n.log2 := by
    unfold lowBits at hk
    omega
  constructor
  · rintro rfl
    rw [Nat.log2_zero] at hlog
    omega
  · exact Nat.pow_le_pow_right (by decide) hlog

theorem two_pow_mul_le (hp : 0 < p) (hden : 0 < den) (hk : e < lowBits p (num / den)) :
    2 ^ (p + e) * den ≤ num := by
  obtain ⟨hquotient, hpow⟩ := two_pow_le_of_lt_lowBits hp hk
  exact (Nat.le_div_iff_mul_le hden).mp (Nat.le_trans hpow (Nat.log2_self_le hquotient))

/-- With more than `e` bits to clear, neither is. -/
theorem le_of_lt_lowBits (hp : 0 < p) (hden : 0 < den) (hk : e < lowBits p (num / den)) :
    2 ^ (p + e) ≤ roundRatio p num den ∧ (2 ^ (p + 1) - 1) * 2 ^ e * den ≤ 2 * num := by
  obtain ⟨hquotient, hpow⟩ := two_pow_le_of_lt_lowBits hp hk
  constructor
  · exact Nat.le_trans hpow (pow_log2_le_roundRatio hp hquotient)
  · have hsucc : 2 ^ (p + 1) = 2 * 2 ^ p := by rw [Nat.pow_succ, Nat.mul_comm]
    calc (2 ^ (p + 1) - 1) * 2 ^ e * den ≤ 2 ^ (p + 1) * 2 ^ e * den :=
          Nat.mul_le_mul_right den (Nat.mul_le_mul_right _ (Nat.sub_le _ 1))
      _ = 2 * (2 ^ (p + e) * den) := by
          rw [hsucc, Nat.pow_add, Nat.mul_assoc 2, Nat.mul_assoc 2]
      _ ≤ 2 * num := Nat.mul_le_mul_left 2 (two_pow_mul_le hp hden hk)

/-- With `e` bits to clear, the significand decides. -/
theorem roundRatio_lt_of_lowBits_eq (hp : 0 < p) (hden : 0 < den)
    (hk : lowBits p (num / den) = e) :
    roundRatio p num den < 2 ^ (p + e) ↔ 2 * num < (2 ^ (p + 1) - 1) * 2 ^ e * den := by
  have hpos : 0 < 2 ^ p := Nat.two_pow_pos p
  have hodd : (2 ^ p - 1) % 2 = 1 := by
    obtain ⟨q, rfl⟩ : ∃ q, p = q + 1 := ⟨p - 1, by omega⟩
    rw [Nat.pow_succ] at hpos ⊢
    omega
  have hbound : 2 * (2 ^ p - 1) + 1 = 2 ^ (p + 1) - 1 := by
    rw [Nat.pow_succ]
    omega
  calc roundRatio p num den < 2 ^ (p + e)
      ↔ roundDiv num (den * 2 ^ e) ≤ 2 ^ p - 1 := by
        rw [roundRatio, hk, Nat.pow_add, Nat.mul_lt_mul_right (Nat.two_pow_pos e)]
        omega
    _ ↔ 2 * num < (2 ^ (p + 1) - 1) * 2 ^ e * den := by
        rw [roundDiv_le_iff (Nat.mul_pos hden (Nat.two_pow_pos e)), hbound, Nat.mul_assoc,
          Nat.mul_comm den]
        omega

/-- A ratio is rounded to less than `2 ^ (p + e)` exactly if it is less than half a unit below that:
the number halfway is rounded up, for its neighbour above is the even one. -/
theorem roundRatio_lt_iff (hp : 0 < p) (hden : 0 < den) :
    roundRatio p num den < 2 ^ (p + e) ↔ 2 * num < (2 ^ (p + 1) - 1) * 2 ^ e * den := by
  rcases Nat.lt_trichotomy (lowBits p (num / den)) e with hk | hk | hk
  · obtain ⟨hround, hnum⟩ := lt_of_lowBits_lt hden hk
    exact iff_of_true hround hnum
  · exact roundRatio_lt_of_lowBits_eq hp hden hk
  · obtain ⟨hround, hnum⟩ := le_of_lt_lowBits hp hden hk
    exact iff_of_false (Nat.not_lt.mpr hround) (Nat.not_lt.mpr hnum)

/-- A ratio of at most one half is rounded to zero. -/
theorem roundRatio_eq_zero_iff (hp : 0 < p) (hden : 0 < den) :
    roundRatio p num den = 0 ↔ 2 * num ≤ den := by
  by_cases hquotient : num / den = 0
  · have hk : lowBits p (num / den) = 0 := by
      rw [hquotient, lowBits, Nat.log2_zero]
      omega
    rw [roundRatio, hk, Nat.pow_zero, Nat.mul_one, Nat.mul_one, ← Nat.le_zero,
      roundDiv_le_iff hden]
    omega
  · have hround : roundRatio p num den ≠ 0 := by
      have := pow_log2_le_roundRatio hp hquotient
      have := Nat.two_pow_pos (num / den).log2
      omega
    have hnum : ¬2 * num ≤ den := by
      have hle : den ≤ num := by
        by_contra hlt
        exact hquotient (Nat.div_eq_of_lt (Nat.not_le.mp hlt))
      omega
    exact iff_of_false hround hnum

end

theorem unitLimit_eq : unitLimit = 2 ^ (53 + 2045) := by decide +kernel

namespace Double

theorem one_eq : one = 2 ^ 1074 := by decide +kernel

/-- Zero, of either sign. -/
def IsZero : Double → Prop
  | .finite _ size => size.units = 0
  | _ => False

theorem isZero_zero (negative : Bool) : (zero negative).IsZero := rfl

theorem isFinite_ofRatio (negative : Bool) (num den : Nat) :
    (ofRatio negative num den).isFinite = true ↔ roundRatio 53 num den < unitLimit := by
  rw [ofRatio]
  split
  · next h => exact iff_of_true rfl h
  · next h => exact iff_of_false Bool.false_ne_true h

theorem isZero_ofRatio (negative : Bool) (num den : Nat) :
    (ofRatio negative num den).IsZero ↔ roundRatio 53 num den = 0 := by
  rw [ofRatio]
  split
  · exact Iff.rfl
  · next h =>
    have hpos := unitLimit_pos
    exact iff_of_false id (by omega)

end Double

/-! ## Decimal numbers -/

namespace Decimal

/-- The size of a decimal number, without its sign. -/
def size (d : Decimal) : ℚ := d.digits * 10 ^ d.exponent

/-- The number halfway between the largest finite number and the next power of two. -/
def overflowLimit : ℚ := (2 ^ 54 - 1) * 2 ^ 970

/-- A decimal number is too large for a finite number. -/
def Overflows (d : Decimal) : Prop := overflowLimit ≤ d.size

/-- A decimal number is at most half of the smallest positive number. -/
def Vanishes (d : Decimal) : Prop := 2 ^ 1075 * d.size ≤ 1

theorem one_lt_overflowLimit : 1 < overflowLimit := by
  have hpow : (1 : ℚ) ≤ 2 ^ 970 := one_le_pow₀ one_le_two
  calc (1 : ℚ) < (2 ^ 54 - 1) * 1 := by norm_num
    _ ≤ overflowLimit := mul_le_mul_of_nonneg_left hpow (by norm_num)

theorem overflowLimit_le : overflowLimit ≤ 2 ^ 1024 := by
  have hpow : (0 : ℚ) ≤ 2 ^ 970 := pow_nonneg zero_le_two 970
  calc overflowLimit ≤ 2 ^ 54 * 2 ^ 970 := mul_le_mul_of_nonneg_right (by norm_num) hpow
    _ = 2 ^ 1024 := by rw [← pow_add]

section
variable (d : Decimal)

theorem numerator_eq (scale : Nat) : (d.numerator scale : ℚ) = d.size * scale * d.denominator := by
  rw [numerator, denominator, size]
  rcases Int.le_total 0 d.exponent with h | h
  · obtain ⟨n, hn⟩ := Int.eq_ofNat_of_zero_le h
    have hneg : (-(n : Int)).toNat = 0 := by omega
    rw [hn, Int.toNat_natCast, hneg, zpow_natCast]
    push_cast
    ring
  · obtain ⟨n, hn⟩ : ∃ n : Nat, d.exponent = -n := ⟨(-d.exponent).toNat, by omega⟩
    have hneg : (-(n : Int)).toNat = 0 := by omega
    rw [hn, neg_neg, Int.toNat_natCast, hneg, zpow_neg, zpow_natCast]
    push_cast
    field_simp

theorem denominator_pos : 0 < d.denominator := Nat.pow_pos (by decide)

/-- Eight is a power of two below ten, so the exponents alone bound a decimal number. -/
theorem two_pow_le_ten_pow (n : Nat) : 2 ^ (3 * n) ≤ 10 ^ n := by
  rw [Nat.pow_mul]
  exact Nat.pow_le_pow_left (by decide) n

theorem two_pow_le_size {k : Nat} (hpos : 0 < d.exponent)
    (hk : k ≤ Double.binaryScale d.digits d.exponent) (hdigits : d.digits ≠ 0) :
    2 ^ k ≤ d.size := by
  obtain ⟨n, hn⟩ := Int.eq_ofNat_of_zero_le (Int.le_of_lt hpos)
  rw [Double.binaryScale] at hk
  have hnat : 2 ^ k ≤ d.digits * 10 ^ n :=
    calc 2 ^ k ≤ 2 ^ (d.digits.log2 + 3 * n) := Nat.pow_le_pow_right (by decide) (by omega)
      _ = 2 ^ d.digits.log2 * 2 ^ (3 * n) := Nat.pow_add 2 _ _
      _ ≤ d.digits * 10 ^ n := Nat.mul_le_mul (Nat.log2_self_le hdigits) (two_pow_le_ten_pow n)
  rw [size, hn, zpow_natCast]
  exact_mod_cast hnat

theorem two_pow_mul_size_lt {k : Nat} (hneg : d.exponent < 0)
    (hk : Double.binaryScale d.digits d.exponent + k < 0) : 2 ^ k * d.size < 1 := by
  obtain ⟨n, hn⟩ : ∃ n : Nat, d.exponent = -n := ⟨(-d.exponent).toNat, by omega⟩
  rw [Double.binaryScale] at hk
  have hnat : 2 ^ k * d.digits < 10 ^ n :=
    calc 2 ^ k * d.digits < 2 ^ k * 2 ^ (d.digits.log2 + 1) :=
          Nat.mul_lt_mul_of_pos_left Nat.lt_log2_self (Nat.two_pow_pos k)
      _ = 2 ^ (k + (d.digits.log2 + 1)) := (Nat.pow_add 2 _ _).symm
      _ ≤ 2 ^ (3 * n) := Nat.pow_le_pow_right (by decide) (by omega)
      _ ≤ 10 ^ n := two_pow_le_ten_pow n
  have hcast : (2 : ℚ) ^ k * d.digits < 10 ^ n := by exact_mod_cast hnat
  rw [size, hn, zpow_neg, zpow_natCast, ← mul_assoc, ← div_eq_mul_inv, div_lt_one (by positivity)]
  exact hcast

/-! ## Rounding decimal numbers -/

theorem roundRatio_numerator_lt (k e : Nat) :
    roundRatio 53 (d.numerator (2 ^ k)) d.denominator < 2 ^ (53 + e) ↔
      2 * (d.size * 2 ^ k) < (2 ^ 54 - 1) * 2 ^ e := by
  have hden : (0 : ℚ) < d.denominator := by exact_mod_cast d.denominator_pos
  have hbound : ((2 ^ (53 + 1) - 1 : Nat) : ℚ) = 2 ^ 54 - 1 := by norm_num
  rw [roundRatio_lt_iff (by decide) d.denominator_pos, ← mul_lt_mul_iff_left₀ hden,
    ← Nat.cast_lt (α := ℚ), Nat.cast_mul, Nat.cast_mul, Nat.cast_mul, hbound, numerator_eq]
  push_cast
  rw [mul_assoc 2]

theorem roundRatio_numerator_eq_zero (k : Nat) :
    roundRatio 53 (d.numerator (2 ^ k)) d.denominator = 0 ↔ 2 * (d.size * 2 ^ k) ≤ 1 := by
  have hden : (0 : ℚ) < d.denominator := by exact_mod_cast d.denominator_pos
  rw [roundRatio_eq_zero_iff (by decide) d.denominator_pos, ← mul_le_mul_iff_left₀ hden, one_mul,
    ← Nat.cast_le (α := ℚ), Nat.cast_mul, numerator_eq]
  push_cast
  rw [mul_assoc 2]

theorem size_nonneg : 0 ≤ d.size := by
  rw [size]
  positivity

/-- What is settled by its exponents to be zero is much smaller than what is rounded to zero. -/
theorem size_le_of_settled (h : d.digits = 0 ∨ d.isTiny = true) : 2 ^ 1075 * d.size ≤ 1 := by
  rcases h with h | h
  · have hzero : d.size = 0 := by rw [size, h, Nat.cast_zero, zero_mul]
    rw [hzero, mul_zero]
    exact zero_le_one
  · rw [isTiny, Bool.and_eq_true, decide_eq_true_eq, decide_eq_true_eq] at h
    have hlt : 2 ^ 1076 * d.size < 1 := d.two_pow_mul_size_lt h.1 (by omega)
    have hpow : (2 : ℚ) ^ 1075 ≤ 2 ^ 1076 := pow_le_pow_right₀ one_le_two (by omega)
    exact (mul_le_mul_of_nonneg_right hpow d.size_nonneg).trans hlt.le

/-- What is settled to be an infinity is larger than what is rounded to one. -/
theorem le_size_of_settled (hdigits : d.digits ≠ 0) (h : d.isHuge = true) : 2 ^ 1024 ≤ d.size := by
  rw [isHuge, Bool.and_eq_true, decide_eq_true_eq, decide_eq_true_eq] at h
  exact d.two_pow_le_size h.1 h.2 hdigits

theorem not_overflows_of_vanishes (h : d.Vanishes) : ¬d.Overflows := by
  have hpow : (1 : ℚ) ≤ 2 ^ 1075 := one_le_pow₀ one_le_two
  have hle : d.size ≤ 1 := (le_mul_of_one_le_left d.size_nonneg hpow).trans h
  exact not_le.mpr (hle.trans_lt one_lt_overflowLimit)

theorem overflows_of_settled (hdigits : d.digits ≠ 0) (h : d.isHuge = true) : d.Overflows :=
  overflowLimit_le.trans (d.le_size_of_settled hdigits h)

/-- **A decimal number is finite unless it overflows.** -/
theorem isFinite_toDouble : d.toDouble.isFinite = true ↔ ¬d.Overflows := by
  rw [toDouble]
  split
  · next h => exact iff_of_true rfl (d.not_overflows_of_vanishes (d.size_le_of_settled h))
  · next h =>
    obtain ⟨hdigits, -⟩ := not_or.mp h
    split
    · next hhuge =>
      exact iff_of_false Bool.false_ne_true (not_not_intro (d.overflows_of_settled hdigits hhuge))
    · -- One unit of the rounded count is `2 ^ -1074`.
      have hunit : ∀ u : ℚ, 0 < u →
          (2 * (d.size * u) < (2 ^ 54 - 1) * (2 ^ 970 * (2 * u)) ↔ d.size < overflowLimit) := by
        intro u hu
        rw [mul_left_comm, ← mul_assoc _ (2 ^ 970), mul_lt_mul_iff_left₀ (mul_pos two_pos hu),
          overflowLimit]
      have hpow : (2 : ℚ) ^ 2045 = 2 ^ 970 * (2 * 2 ^ 1074) := by rw [← pow_succ', ← pow_add]
      rw [Double.isFinite_ofRatio, unitLimit_eq, Double.one_eq, d.roundRatio_numerator_lt 1074 2045,
        hpow, hunit _ (pow_pos two_pos 1074), Overflows, not_le]

/-- **A decimal number becomes zero exactly if it vanishes.** -/
theorem isZero_toDouble : d.toDouble.IsZero ↔ d.Vanishes := by
  rw [toDouble]
  split
  · next h => exact iff_of_true rfl (d.size_le_of_settled h)
  · next h =>
    obtain ⟨hdigits, -⟩ := not_or.mp h
    split
    · next hhuge =>
      have hover := d.overflows_of_settled hdigits hhuge
      exact iff_of_false id fun hvanishes => d.not_overflows_of_vanishes hvanishes hover
    · have hpow : (2 : ℚ) ^ 1075 = 2 * 2 ^ 1074 := pow_succ' 2 1074
      rw [Double.isZero_ofRatio, Double.one_eq, d.roundRatio_numerator_eq_zero 1074, Vanishes, hpow,
        mul_assoc, mul_comm d.size]

end

end Decimal

end ChoiceTemplate

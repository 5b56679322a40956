import ChoiceTemplate.Proofs.ExactIntegers

/-
  Decimal numbers become the nearest floating-point number.

  Rounding works on a grid of multiples of a power of two, which the size of the ratio picks. The
  nearest multiple is nearest among all numbers of so many bits, because the numbers that are not on
  the grid are below a number on it that is itself below the ratio.

    1. On the grid of the natural numbers, rounding errs by one half at most, and by one half only to
       an even number (`roundDiv_error`). So no natural number is nearer, and one that is as near
       leaves an even result (`roundDiv_nearest`).
    2. The same holds for numbers of `p` bits, where a result is even if its significand is
       (`roundRatio_nearest`).
    3. A decimal number that does not overflow therefore becomes the nearest finite number with its
       sign, and of two nearest ones the even one (`Decimal.toDouble_nearest`).
-/
namespace ChoiceTemplate

-- Powers are the core library's, as in the definitions.
attribute [local instance (high)] instPowNat

/-- A number whose significand is even: it has `p` bits, unless it counts single units. -/
def HasEvenBits (p n : Nat) : Prop :=
  ∃ m k : Nat, n = m * 2 ^ k ∧ m < 2 ^ p ∧ m % 2 = 0 ∧ (k = 0 ∨ 2 ^ (p - 1) ≤ m)

section
variable {p n num den : Nat}

/-! ## The nearest natural number -/

theorem roundDiv_upper (num : Nat) (hden : 0 < den) :
    2 * num ≤ (2 * roundDiv num den + 1) * den ∧
      (2 * num = (2 * roundDiv num den + 1) * den → roundDiv num den % 2 = 0) := by
  have h := (roundDiv_le_iff hden).mp (Nat.le_refl (roundDiv num den))
  omega

theorem roundDiv_lower (num : Nat) (hden : 0 < den) :
    2 * roundDiv num den * den ≤ 2 * num + den ∧
      (2 * roundDiv num den * den = 2 * num + den → roundDiv num den % 2 = 0) := by
  cases hr : roundDiv num den with
  | zero => simp
  | succ r =>
    have h : ¬roundDiv num den ≤ r := by omega
    rw [roundDiv_le_iff hden] at h
    have hsplit : 2 * (r + 1) * den = (2 * r + 1) * den + den := by ring
    omega

/-- Rounding errs by at most one half, and a half goes to an even number. -/
theorem roundDiv_error (num : Nat) (hden : 0 < den) :
    2 * |(roundDiv num den : ℚ) - num / den| ≤ 1 ∧
      (2 * |(roundDiv num den : ℚ) - num / den| = 1 → roundDiv num den % 2 = 0) := by
  obtain ⟨hupper, htie⟩ := roundDiv_upper num hden
  obtain ⟨hlower, htie'⟩ := roundDiv_lower num hden
  have hden' : (0 : ℚ) < den := by exact_mod_cast hden
  generalize roundDiv num den = r at *
  have hupper' : (num : ℚ) / den - r ≤ 1 / 2 := by
    rw [sub_le_iff_le_add, div_le_iff₀ hden']
    have : (2 : ℚ) * num ≤ (2 * r + 1) * den := by exact_mod_cast hupper
    linarith
  have hlower' : (r : ℚ) - num / den ≤ 1 / 2 := by
    rw [sub_le_comm, le_div_iff₀ hden']
    have : (2 : ℚ) * r * den ≤ 2 * num + den := by exact_mod_cast hlower
    linarith
  constructor
  · have : |(r : ℚ) - num / den| ≤ 1 / 2 := abs_sub_le_iff.mpr ⟨hlower', hupper'⟩
    linarith
  · intro h
    have hnum : (num : ℚ) / den * den = num := div_mul_cancel₀ _ hden'.ne'
    -- A half is the difference in one direction or in the other.
    rcases abs_cases ((r : ℚ) - num / den) with ⟨habs, -⟩ | ⟨habs, -⟩
    · apply htie'
      have : (2 : ℚ) * r * den = 2 * num + den := by
        rw [habs] at h
        linear_combination den * h + 2 * hnum
      exact_mod_cast this
    · apply htie
      have : (2 : ℚ) * num = (2 * r + 1) * den := by
        rw [habs] at h
        linear_combination den * h - 2 * hnum
      exact_mod_cast this

/-- No natural number is nearer to a ratio than what it is rounded to, and if another one is as near,
the result is even. -/
theorem roundDiv_nearest (num : Nat) (hden : 0 < den) (j : Nat) :
    |(roundDiv num den : ℚ) - num / den| ≤ |(j : ℚ) - num / den| ∧
      (|(roundDiv num den : ℚ) - num / den| = |(j : ℚ) - num / den| →
        j = roundDiv num den ∨ roundDiv num den % 2 = 0) := by
  obtain ⟨herror, htie⟩ := roundDiv_error num hden
  by_cases hj : j = roundDiv num den
  · rw [hj]
    exact ⟨le_refl _, fun _ => Or.inl rfl⟩
  · have hapart : (1 : ℚ) ≤ |(j : ℚ) - roundDiv num den| := by
      have hne : ((j : Int) - roundDiv num den) ≠ 0 := by omega
      exact_mod_cast Int.one_le_abs hne
    have hsum : |(j : ℚ) - roundDiv num den| ≤
        |(j : ℚ) - num / den| + |(roundDiv num den : ℚ) - num / den| := by
      rw [abs_sub_comm (roundDiv num den : ℚ)]
      exact abs_sub_le _ _ _
    refine ⟨by linarith, fun hequal => Or.inr (htie ?_)⟩
    linarith

/-! ## The nearest number of some significant bits -/

/-- What is rounded is nearest on its own grid. -/
theorem roundRatio_nearest_of_multiple (p num : Nat) (hden : 0 < den) (j : Nat) :
    |(roundRatio p num den : ℚ) - num / den| ≤
        |(j * 2 ^ lowBits p (num / den) : ℚ) - num / den| ∧
      (|(roundRatio p num den : ℚ) - num / den| =
          |(j * 2 ^ lowBits p (num / den) : ℚ) - num / den| →
        j * 2 ^ lowBits p (num / den) = roundRatio p num den ∨
          roundDiv num (den * 2 ^ lowBits p (num / den)) % 2 = 0) := by
  rw [roundRatio]
  generalize lowBits p (num / den) = k
  have hgrid : 0 < den * 2 ^ k := Nat.mul_pos hden (Nat.two_pow_pos k)
  have hpow : (0 : ℚ) < 2 ^ k := pow_pos two_pos k
  obtain ⟨hnearest, htie⟩ := roundDiv_nearest num hgrid j
  have hscale : ∀ i : Nat, |(i * 2 ^ k : ℚ) - num / den| =
      2 ^ k * |(i : ℚ) - num / (den * 2 ^ k : Nat)| := by
    intro i
    have hden' : (den : ℚ) ≠ 0 := by exact_mod_cast hden.ne'
    rw [← abs_of_pos hpow, ← abs_mul, abs_of_pos hpow]
    congr 1
    push_cast
    field_simp
  push_cast
  rw [hscale, hscale]
  refine ⟨mul_le_mul_of_nonneg_left hnearest hpow.le, fun hequal => ?_⟩
  rcases htie (mul_left_cancel₀ hpow.ne' hequal) with rfl | heven
  · exact Or.inl rfl
  · exact Or.inr heven

/-- An even number on the grid has an even significand. -/
theorem hasEvenBits_roundRatio (hp : 1 < p) (hden : 0 < den)
    (heven : roundDiv num (den * 2 ^ lowBits p (num / den)) % 2 = 0) :
    HasEvenBits p (roundRatio p num den) := by
  have hlt := quotient_lt p num den
  have hle := roundDiv_le_succ num (den * 2 ^ lowBits p (num / den))
  have hlow : lowBits p (num / den) = 0 ∨
      2 ^ (p - 1) ≤ roundDiv num (den * 2 ^ lowBits p (num / den)) := by
    cases hk : lowBits p (num / den) with
    | zero => exact Or.inl rfl
    | succ e =>
      right
      apply le_roundDiv (Nat.mul_pos hden (Nat.two_pow_pos _))
      have hsum : p + e = p - 1 + (e + 1) := by omega
      calc 2 ^ (p - 1) * (den * 2 ^ (e + 1)) = 2 ^ (p + e) * den := by
            rw [hsum, Nat.pow_add]
            ring
        _ ≤ num := two_pow_mul_le (Nat.lt_of_succ_lt hp) hden (by omega)
  rw [roundRatio]
  by_cases h : roundDiv num (den * 2 ^ lowBits p (num / den)) < 2 ^ p
  · exact ⟨_, _, rfl, h, heven, hlow⟩
  · -- Rounding has reached the next power of two, of which the significand is another one.
    have hfull : roundDiv num (den * 2 ^ lowBits p (num / den)) = 2 ^ p := by omega
    obtain ⟨q, rfl⟩ : ∃ q, p = q + 2 := ⟨p - 2, by omega⟩
    refine ⟨2 ^ (q + 1), lowBits (q + 2) (num / den) + 1, ?_, ?_, ?_, Or.inr (Nat.le_refl _)⟩
    · rw [hfull]
      ring
    · exact Nat.pow_lt_pow_right (by decide) (by omega)
    · rw [Nat.pow_succ]
      omega

/-- **No number of `p` bits is nearer to a ratio than what it is rounded to**, and if another one is
as near, the significand of the result is even. -/
theorem roundRatio_nearest (hp : 1 < p) (hden : 0 < den) (hn : HasBits p n) :
    |(roundRatio p num den : ℚ) - num / den| ≤ |(n : ℚ) - num / den| ∧
      (|(roundRatio p num den : ℚ) - num / den| = |(n : ℚ) - num / den| →
        n = roundRatio p num den ∨ HasEvenBits p (roundRatio p num den)) := by
  have hmultiple := roundRatio_nearest_of_multiple p num hden
  obtain ⟨m, k, hm, rfl⟩ := hn
  by_cases hk : lowBits p (num / den) ≤ k
  · obtain ⟨hnearest, htie⟩ := hmultiple (m * 2 ^ (k - lowBits p (num / den)))
    rw [mul_two_pow_eq hk]
    push_cast at hnearest htie ⊢
    refine ⟨hnearest, fun hequal => ?_⟩
    rcases htie hequal with h | h
    · exact Or.inl h
    · exact Or.inr (hasEvenBits_roundRatio hp hden h)
  · -- All numbers with the exponent `k` are below a number on the grid that is below the ratio.
    obtain ⟨e, he⟩ : ∃ e, lowBits p (num / den) = e + 1 :=
      ⟨lowBits p (num / den) - 1, by omega⟩
    obtain ⟨hnearest, -⟩ := hmultiple (2 ^ (p - 1))
    have hle : (2 ^ (p + e) : ℚ) ≤ num / den := by
      have hmul : 2 ^ (p + e) * den ≤ num :=
        two_pow_mul_le (Nat.lt_of_succ_lt hp) hden (by omega)
      rw [le_div_iff₀ (by exact_mod_cast hden)]
      exact_mod_cast hmul
    have hgrid : (2 ^ (p - 1) : ℚ) * 2 ^ (e + 1) = 2 ^ (p + e) := by
      rw [← pow_add]
      congr 1
      omega
    have hlt : (m : ℚ) * 2 ^ k < 2 ^ (p + e) := by
      calc (m : ℚ) * 2 ^ k < 2 ^ p * 2 ^ k :=
            mul_lt_mul_of_pos_right (by exact_mod_cast hm) (pow_pos two_pos k)
        _ = 2 ^ (p + k) := (pow_add 2 p k).symm
        _ ≤ 2 ^ (p + e) := pow_le_pow_right₀ one_le_two (by omega)
    rw [he] at hnearest
    push_cast at hnearest ⊢
    rw [hgrid, abs_of_nonpos (by linarith : (2 ^ (p + e) : ℚ) - num / den ≤ 0)] at hnearest
    rw [abs_of_nonpos (by linarith : (m * 2 ^ k : ℚ) - num / den ≤ 0)]
    constructor
    · linarith
    · intro hequal
      linarith

end

/-! ## Decimal numbers -/

namespace Magnitude

/-- The size of a finite number, counted in ones. -/
def value (a : Magnitude) : ℚ := a.units / 2 ^ 1074

/-- The finite size that is nearest to a number, and even if another one is as near. -/
def IsNearest (a : Magnitude) (x : ℚ) : Prop :=
  ∀ b : Magnitude, |a.value - x| ≤ |b.value - x| ∧
    (|a.value - x| = |b.value - x| → b = a ∨ HasEvenBits 53 a.units)

theorem eq_of_units {a b : Magnitude} (h : a.units = b.units) : a = b := by
  cases a
  cases b
  cases h
  rfl

/-- Zero is nearest to what is at most half of the smallest positive number. -/
theorem isNearest_zero {x : ℚ} (hx : 0 ≤ x) (h : 2 ^ 1075 * x ≤ 1) :
    IsNearest ⟨0, fits_zero⟩ x := by
  intro b
  have hunit : (0 : ℚ) < 2 ^ 1074 := pow_pos two_pos 1074
  have hzero : value ⟨0, fits_zero⟩ = 0 := by simp [value]
  have heven : HasEvenBits 53 0 := ⟨0, 0, rfl, Nat.two_pow_pos 53, rfl, Or.inl rfl⟩
  refine ⟨?_, fun _ => Or.inr heven⟩
  rw [hzero, zero_sub, abs_neg, abs_of_nonneg hx]
  rcases Nat.eq_zero_or_pos b.units with hb | hb
  · rw [value, hb, Nat.cast_zero, zero_div, zero_sub, abs_neg, abs_of_nonneg hx]
  · have hone : 1 / 2 ^ 1074 ≤ b.value :=
      div_le_div_of_nonneg_right (by exact_mod_cast hb) hunit.le
    have hhalf : 2 * x ≤ 1 / 2 ^ 1074 := by
      rw [le_div_iff₀ hunit, mul_right_comm, ← pow_succ']
      exact h
    have htwice : 2 * x ≤ b.value := hhalf.trans hone
    calc x ≤ b.value - x := by linarith only [htwice]
      _ ≤ |b.value - x| := le_abs_self _

/-- A rounded count of units is nearest to what it is rounded from. -/
theorem isNearest_of_roundRatio {a : Magnitude} {num den : Nat} {x : ℚ} (hden : 0 < den)
    (hx : (num : ℚ) / den = x * 2 ^ 1074) (ha : a.units = roundRatio 53 num den) :
    a.IsNearest x := by
  intro b
  have hunit : (0 : ℚ) < 2 ^ 1074 := pow_pos two_pos 1074
  have hscale : ∀ c : Magnitude, |(c.units : ℚ) - num / den| = |c.value - x| * 2 ^ 1074 := by
    intro c
    rw [hx, ← abs_of_pos hunit, ← abs_mul, abs_of_pos hunit, sub_mul, value,
      div_mul_cancel₀ _ hunit.ne']
  obtain ⟨hnearest, htie⟩ := roundRatio_nearest (by decide : 1 < 53) hden b.fits.2
  rw [← ha, hscale, hscale] at hnearest htie
  refine ⟨le_of_mul_le_mul_right hnearest hunit, fun hequal => ?_⟩
  rcases htie (by rw [hequal]) with h | h
  · exact Or.inl (eq_of_units h)
  · exact Or.inr h

end Magnitude

/-- **A decimal number that does not overflow becomes the nearest finite number, with its sign.** -/
theorem Decimal.toDouble_nearest {d : Decimal} (h : ¬d.Overflows) :
    ∃ a, d.toDouble = .finite d.negative a ∧ a.IsNearest d.size := by
  have hfinite := d.isFinite_toDouble.mpr h
  rw [toDouble] at hfinite ⊢
  split
  · next hsettled =>
    exact ⟨_, rfl, Magnitude.isNearest_zero d.size_nonneg (d.size_le_of_settled hsettled)⟩
  · next hrounded =>
    rw [if_neg hrounded] at hfinite
    split
    · next hhuge =>
      rw [if_pos hhuge] at hfinite
      cases hfinite
    · next hhuge =>
      rw [if_neg hhuge, Double.isFinite_ofRatio] at hfinite
      have hden : (d.denominator : ℚ) ≠ 0 := by exact_mod_cast d.denominator_pos.ne'
      refine ⟨_, by rw [Double.ofRatio, dif_pos hfinite], ?_⟩
      apply Magnitude.isNearest_of_roundRatio d.denominator_pos _ rfl
      rw [numerator_eq, mul_div_cancel_right₀ _ hden, Double.one_eq, Nat.cast_pow, Nat.cast_ofNat]

end ChoiceTemplate

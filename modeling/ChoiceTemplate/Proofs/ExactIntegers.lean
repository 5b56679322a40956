import ChoiceTemplate.Proofs.NumberRange
import ChoiceTemplate.Selector.Numeric

/-
  Arithmetic on integers.

  A finite number has 53 significant bits, so the integers up to `2 ^ 53` are numbers, and between
  them nothing is lost.

    1. Rounding never takes a ratio across a number of few significant bits (`le_roundRatio`,
       `roundRatio_le_of_le`), so it leaves such a number alone (`roundRatio_eq`).
    2. Integers up to `2 ^ 53` therefore compare as integers do (`lt_ofInt`, `le_ofInt`). Their
       distance and their product are the integers that they should be, rounded once
       (`distance_ofInt`, `mul_ofNat`), and a rounded integer still compares as before with an
       integer below `2 ^ 53` (`le_ofNat`).
    3. So whether two integers are close is a question about integers (`close_ofInt`).
-/
namespace ChoiceTemplate

-- Powers are the core library's, as in the definitions.
attribute [local instance (high)] instPowNat

/-! ## Numbers that rounding leaves alone -/

/-- `n` has at most `p` significant bits. -/
def HasBits (p n : Nat) : Prop := ∃ m k : Nat, m < 2 ^ p ∧ n = m * 2 ^ k

section
variable {p n m k num den : Nat}

theorem hasBits_of_le (hp : 0 < p) (h : n ≤ 2 ^ p) : HasBits p n := by
  rcases Nat.lt_or_eq_of_le h with hlt | rfl
  · exact ⟨n, 0, hlt, by simp⟩
  · exact ⟨1, p, Nat.one_lt_two_pow (by omega), by simp⟩

theorem HasBits.mul_two_pow (h : HasBits p n) (k : Nat) : HasBits p (n * 2 ^ k) := by
  obtain ⟨m, j, hm, rfl⟩ := h
  exact ⟨m, j + k, hm, by rw [Nat.pow_add, Nat.mul_assoc]⟩

theorem le_roundDiv (hden : 0 < den) (h : m * den ≤ num) : m ≤ roundDiv num den :=
  Nat.le_trans ((Nat.le_div_iff_mul_le hden).mpr h) (div_le_roundDiv num den)

theorem roundDiv_le (hden : 0 < den) (h : num ≤ m * den) : roundDiv num den ≤ m := by
  rw [roundDiv_le_iff hden, Nat.add_mul, Nat.mul_assoc]
  omega

/-- With at most `k` bits to clear, `m * 2 ^ k` is on the grid that is rounded to. -/
theorem mul_two_pow_eq (h : lowBits p (num / den) ≤ k) :
    m * 2 ^ k = m * 2 ^ (k - lowBits p (num / den)) * 2 ^ lowBits p (num / den) := by
  rw [Nat.mul_assoc, ← Nat.pow_add, Nat.sub_add_cancel h]

/-- A number of `p` bits that is at most a ratio is at most what the ratio is rounded to. -/
theorem le_roundRatio (hp : 0 < p) (hden : 0 < den) (hn : HasBits p n) (h : n * den ≤ num) :
    n ≤ roundRatio p num den := by
  obtain ⟨m, k, hm, rfl⟩ := hn
  by_cases hk : lowBits p (num / den) ≤ k
  · rw [mul_two_pow_eq hk] at h ⊢
    apply Nat.mul_le_mul_right
    apply le_roundDiv (Nat.mul_pos hden (Nat.two_pow_pos _))
    rwa [Nat.mul_assoc, Nat.mul_comm _ den] at h
  · -- The ratio is beyond all numbers with the exponent `k`.
    calc m * 2 ^ k ≤ 2 ^ p * 2 ^ k := Nat.mul_le_mul_right _ hm.le
      _ = 2 ^ (p + k) := (Nat.pow_add 2 p k).symm
      _ ≤ roundRatio p num den := (le_of_lt_lowBits hp hden (Nat.not_le.mp hk)).1

/-- A number of `p` bits that is at least a ratio is at least what the ratio is rounded to. -/
theorem roundRatio_le_of_le (hp : 0 < p) (hden : 0 < den) (hn : HasBits p n)
    (h : num ≤ n * den) : roundRatio p num den ≤ n := by
  obtain ⟨m, k, hm, rfl⟩ := hn
  by_cases hk : lowBits p (num / den) ≤ k
  · rw [mul_two_pow_eq hk] at h ⊢
    apply Nat.mul_le_mul_right
    apply roundDiv_le (Nat.mul_pos hden (Nat.two_pow_pos _))
    rwa [Nat.mul_assoc, Nat.mul_comm _ den] at h
  · exfalso
    have hbeyond := (le_of_lt_lowBits hp hden (Nat.not_le.mp hk)).2
    have hpos : 0 < 2 ^ k * den := Nat.mul_pos (Nat.two_pow_pos k) hden
    have hle : (2 ^ (p + 1) - 1) * (2 ^ k * den) ≤ 2 * m * (2 ^ k * den) := by
      rw [← Nat.mul_assoc, Nat.mul_assoc 2, ← Nat.mul_assoc m]
      omega
    have := Nat.le_of_mul_le_mul_right hle hpos
    rw [Nat.pow_succ] at this
    omega

theorem roundRatio_eq (hp : 0 < p) (hden : 0 < den) (hn : HasBits p n) :
    roundRatio p (n * den) den = n := by
  apply Nat.le_antisymm
  · exact roundRatio_le_of_le hp hden hn (Nat.le_refl _)
  · exact le_roundRatio hp hden hn (Nat.le_refl _)

/-- Rounding is about the ratio, not about how it is written. -/
theorem roundDiv_mul_right {c : Nat} (hc : 0 < c) (num den : Nat) :
    roundDiv (num * c) (den * c) = roundDiv num den := by
  have hlt : den * c < 2 * (num % den * c) ↔ den < 2 * (num % den) := by
    rw [← Nat.mul_assoc, Nat.mul_lt_mul_right hc]
  have heq : den * c = 2 * (num % den * c) ↔ den = 2 * (num % den) := by
    rw [← Nat.mul_assoc, Nat.mul_right_cancel_iff hc]
  simp only [roundDiv, Nat.mul_div_mul_right _ _ hc, Nat.mul_mod_mul_right, hlt, heq]

theorem roundRatio_mul_right {c : Nat} (hc : 0 < c) (p num den : Nat) :
    roundRatio p (num * c) (den * c) = roundRatio p num den := by
  simp only [roundRatio, Nat.mul_div_mul_right _ _ hc, Nat.mul_right_comm den c,
    roundDiv_mul_right hc]

end

namespace Double

/-! ## Integers as numbers -/

section
variable {i j : Int} {m n : Nat}

theorem one_pos : 0 < one := by decide +kernel

theorem hasBits_integer (h : n ≤ 2 ^ 53) : HasBits 53 (n * one) := by
  obtain ⟨k, hk⟩ : ∃ k : Nat, one = 2 ^ k := ⟨_, one_eq⟩
  rw [hk]
  exact (hasBits_of_le (by decide) h).mul_two_pow k

theorem fits_integer (h : n ≤ 2 ^ 53) : Fits (n * one) := by
  refine ⟨?_, hasBits_integer h⟩
  calc n * one ≤ 2 ^ 53 * one := Nat.mul_le_mul_right _ h
    _ < unitLimit := by decide +kernel

theorem ofRatio_eq {den : Nat} (hden : 0 < den) (hn : Fits n) (negative : Bool) :
    ofRatio negative (n * den) den = .finite negative ⟨n, hn⟩ := by
  have hround : roundRatio 53 (n * den) den = n := roundRatio_eq (by decide) hden hn.2
  simp only [ofRatio, hround, hn.1, dif_pos]

theorem ofRatio_mul_right {c : Nat} (hc : 0 < c) (negative : Bool) (num den : Nat) :
    ofRatio negative (num * c) (den * c) = ofRatio negative num den := by
  simp only [ofRatio, roundRatio_mul_right hc]

/-- An integer up to `2 ^ 53` is a number as it stands. -/
theorem ofInt_eq (h : i.natAbs ≤ 2 ^ 53) :
    ofInt i = .finite (decide (i < 0)) ⟨i.natAbs * one, fits_integer h⟩ := by
  have := ofRatio_eq Nat.one_pos (fits_integer h) (decide (i < 0))
  rwa [Nat.mul_one] at this

theorem ofNat_eq_ofInt (n : Nat) : ofNat n = ofInt n := by
  have : decide ((n : Int) < 0) = false := by simp
  rw [ofInt, this]
  rfl

theorem ofNat_eq (h : n ≤ 2 ^ 53) : ofNat n = .finite false ⟨n * one, fits_integer h⟩ := by
  have := ofRatio_eq Nat.one_pos (fits_integer h) false
  rwa [Nat.mul_one] at this

theorem signedUnits_ofInt (h : i.natAbs ≤ 2 ^ 53) :
    signedUnits (decide (i < 0)) ⟨i.natAbs * one, fits_integer h⟩ = i * one := by
  rw [signedUnits]
  split
  · next hneg =>
    have hsize : (i.natAbs : Int) = -i := Int.ofNat_natAbs_of_nonpos (of_decide_eq_true hneg).le
    rw [Int.natCast_mul, hsize, Int.neg_mul, Int.neg_neg]
  · next hneg =>
    have hsize : (i.natAbs : Int) = i := Int.natAbs_of_nonneg (by simpa using hneg)
    rw [Int.natCast_mul, hsize]

/-! ## Comparing integers -/

theorem lt_ofInt (hi : i.natAbs ≤ 2 ^ 53) (hj : j.natAbs ≤ 2 ^ 53) :
    lt (ofInt i) (ofInt j) = decide (i < j) := by
  have hone : (0 : Int) < one := Int.natCast_pos.mpr one_pos
  rw [ofInt_eq hi, ofInt_eq hj, lt, signedUnits_ofInt hi, signedUnits_ofInt hj, decide_eq_decide]
  exact Int.mul_lt_mul_right hone

theorem le_ofInt (hi : i.natAbs ≤ 2 ^ 53) (hj : j.natAbs ≤ 2 ^ 53) :
    le (ofInt i) (ofInt j) = decide (i ≤ j) := by
  have hnumber : ∀ {k : Int}, k.natAbs ≤ 2 ^ 53 → (ofInt k).isNaN = false := by
    intro k hk
    rw [ofInt_eq hk]
    rfl
  rw [le, hnumber hi, hnumber hj, lt_ofInt hj hi]
  simp [← decide_not]

theorem le_of_sizes (a b : Magnitude) :
    le (.finite false a) (.finite false b) = decide (a.units ≤ b.units) := by
  simp [le, lt, isNaN, signedUnits, ← decide_not]

/-- A rounded ratio is at most a number if its units are, for an infinity stands for too many. -/
theorem le_ofRatio (num den : Nat) (b : Magnitude) :
    le (ofRatio false num den) (.finite false b) = decide (roundRatio 53 num den ≤ b.units) := by
  rw [ofRatio]
  split
  · exact le_of_sizes _ b
  · next hlarge =>
    have hbeyond : ¬roundRatio 53 num den ≤ b.units := by
      have := b.fits.1
      omega
    rw [decide_eq_false hbeyond]
    rfl

/-- An integer of any size is still rounded to the same side of an integer below `2 ^ 53`. -/
theorem le_ofNat (hn : n < 2 ^ 53) : le (ofNat m) (ofNat n) = decide (m ≤ n) := by
  rw [ofNat_eq hn.le, ofNat, le_ofRatio, decide_eq_decide]
  show roundRatio 53 (m * one) 1 ≤ n * one ↔ m ≤ n
  constructor
  · intro hle
    by_contra hlt
    have hnext : (n + 1) * one ≤ roundRatio 53 (m * one) 1 := by
      apply le_roundRatio (by decide) Nat.one_pos (hasBits_integer hn)
      rw [Nat.mul_one]
      exact Nat.mul_le_mul_right _ (Nat.not_le.mp hlt)
    have := one_pos
    rw [Nat.add_mul] at hnext
    omega
  · intro hle
    apply roundRatio_le_of_le (by decide) Nat.one_pos (hasBits_integer hn.le)
    rw [Nat.mul_one]
    exact Nat.mul_le_mul_right _ hle

/-! ## Distances and products -/

theorem abs_ofRatio (negative : Bool) (num den : Nat) :
    (ofRatio negative num den).abs = ofRatio false num den := by
  rw [ofRatio, ofRatio]
  split <;> rfl

theorem abs_ofInt (i : Int) : (ofInt i).abs = ofNat i.natAbs := abs_ofRatio _ _ _

theorem lesser_ofNat (hm : m ≤ 2 ^ 53) (hn : n ≤ 2 ^ 53) :
    lesser (ofNat m) (ofNat n) = ofNat (min m n) := by
  have hlt : lt (ofNat n) (ofNat m) = decide (n < m) := by
    rw [ofNat_eq_ofInt, ofNat_eq_ofInt, lt_ofInt (by simpa using hn) (by simpa using hm)]
    simp
  have hnumber : ∀ {k : Nat}, k ≤ 2 ^ 53 → (ofNat k).isNaN = false := by
    intro k hk
    rw [ofNat_eq hk]
    rfl
  rw [lesser, hnumber hm, hnumber hn, hlt]
  by_cases h : n < m
  · simp [h, Nat.min_eq_right h.le]
  · simp [h, Nat.min_eq_left (Nat.not_lt.mp h)]

theorem distance_ofInt (hi : i.natAbs ≤ 2 ^ 53) (hj : j.natAbs ≤ 2 ^ 53) :
    distance (ofInt i) (ofInt j) = ofNat (i - j).natAbs := by
  rw [ofInt_eq hi, ofInt_eq hj, distance, signedUnits_ofInt hi, signedUnits_ofInt hj,
    ← Int.sub_mul, Int.natAbs_mul, Int.natAbs_natCast, ofNat]

theorem mul_ofNat (hm : m ≤ 2 ^ 53) (hn : n ≤ 2 ^ 53) :
    mul (ofNat m) (ofNat n) = ofNat (m * n) := by
  rw [ofNat_eq hm, ofNat_eq hn, mul, ofNat, ← ofRatio_mul_right one_pos false (m * n * one) 1,
    Nat.one_mul]
  simp only [Nat.mul_mul_mul_comm m, Nat.mul_assoc, bne_self_eq_false]

end

end Double

/-! ## Close integers -/

/-- Two integers differ by at most one part in `10 ^ 12` of the smaller one. -/
def NearlyEqual (i j : Int) : Prop := (i - j).natAbs * 10 ^ 12 ≤ min i.natAbs j.natAbs

instance (i j : Int) : Decidable (NearlyEqual i j) := Nat.decLe _ _

section
variable {i j : Int}

theorem nearlyEqual_self (i : Int) : NearlyEqual i i := by simp [NearlyEqual]

/-- An integer below `10 ^ 12` is nearly equal to itself only. -/
theorem eq_of_nearlyEqual (h : NearlyEqual i j)
    (hsmall : i.natAbs < 10 ^ 12 ∨ j.natAbs < 10 ^ 12) : i = j := by
  unfold NearlyEqual at h
  omega

/-- **No rounding changes whether two integers are close.** The difference is exact. If the product
with `10 ^ 12` is rounded, it is far above the smaller integer, and it stays above it. -/
theorem NumericSelector.close_ofInt (h : i.natAbs + j.natAbs < 2 ^ 53) :
    NumericSelector.close (Double.ofInt i) (Double.ofInt j) = decide (NearlyEqual i j) := by
  have hi : i.natAbs ≤ 2 ^ 53 := by omega
  have hj : j.natAbs ≤ 2 ^ 53 := by omega
  have hdistance : (i - j).natAbs ≤ 2 ^ 53 := by omega
  rw [close, Double.distance_ofInt hi hj, Double.mul_ofNat hdistance (by decide),
    Double.abs_ofInt, Double.abs_ofInt, Double.lesser_ofNat hi hj, Double.le_ofNat (by omega)]
  rfl

end

end ChoiceTemplate

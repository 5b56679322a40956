/-
  Rounding a ratio of natural numbers to a given count of significant bits.

  `roundRatio p num den` is the number nearest to `num / den` among the natural numbers with at
  most `p` significant bits, and of two nearest ones the one with an even significand. The one
  fact that the number formats rest on is `roundRatio_form`: the result is a significand below
  `2 ^ p` times a power of two.
-/
namespace ChoiceTemplate

-- Powers are the core library's, whatever else is imported.
attribute [local instance (high)] instPowNat

/-- How many low bits of `n` lie below its `p` highest ones. -/
def lowBits (p n : Nat) : Nat := n.log2 + 1 - p

/-- `num / den` to the nearest natural number, and a half to the even one. -/
def roundDiv (num den : Nat) : Nat :=
  let quotient := num / den
  let remainder := num % den
  if den < 2 * remainder ∨ (den = 2 * remainder ∧ quotient % 2 = 1) then quotient + 1
  else quotient

/-- `num / den` to the nearest natural number of at most `p` significant bits. -/
def roundRatio (p num den : Nat) : Nat :=
  let k := lowBits p (num / den)
  roundDiv num (den * 2 ^ k) * 2 ^ k

theorem roundDiv_le_succ (num den : Nat) : roundDiv num den ≤ num / den + 1 := by
  unfold roundDiv
  simp only
  split <;> omega

theorem quotient_lt (p num den : Nat) : num / (den * 2 ^ lowBits p (num / den)) < 2 ^ p := by
  have hk : (num / den).log2 + 1 ≤ lowBits p (num / den) + p := by
    unfold lowBits
    omega
  have hn : num / den < 2 ^ (lowBits p (num / den) + p) :=
    Nat.lt_of_lt_of_le Nat.lt_log2_self (Nat.pow_le_pow_right (by decide) hk)
  rw [← Nat.div_div_eq_div_mul]
  exact Nat.div_lt_of_lt_mul (by rwa [Nat.pow_add] at hn)

/-- A rounded ratio is a significand of at most `p` bits times a power of two. -/
theorem roundRatio_form {p : Nat} (hp : 0 < p) (num den : Nat) :
    ∃ m k : Nat, m < 2 ^ p ∧ roundRatio p num den = m * 2 ^ k := by
  have hq := quotient_lt p num den
  have hr := roundDiv_le_succ num (den * 2 ^ lowBits p (num / den))
  by_cases h : roundDiv num (den * 2 ^ lowBits p (num / den)) < 2 ^ p
  · exact ⟨_, _, h, rfl⟩
  · have he : roundDiv num (den * 2 ^ lowBits p (num / den)) = 2 ^ p := by omega
    obtain ⟨q, rfl⟩ : ∃ q, p = q + 1 := ⟨p - 1, by omega⟩
    refine ⟨2 ^ q, lowBits (q + 1) (num / den) + 1, Nat.pow_lt_pow_right (by decide) (by omega), ?_⟩
    simp only [roundRatio, he]
    rw [Nat.pow_succ, Nat.pow_succ, Nat.mul_assoc, Nat.mul_comm 2]

end ChoiceTemplate

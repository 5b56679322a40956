import ChoiceTemplate.Proofs.SelectorForms

/-
  References that only comparisons can reach.

  Ranges and single integers are about natural numbers: a range begins at zero or above, an integer
  is not negative (`NumericSelector.bounded_parse`). What is left of all references are the negative
  numbers, the two infinities, and NaN.

    1. NaN is accepted by nothing (`accepts_nan`).
    2. An infinity compares with every bound as it should, for bounds are finite, and it is close to
       no number (`accepts_infinity`).
    3. A negative number is close to no natural number, however the distance and the product are
       rounded (`close_of_negative`), and lies before every range (`not_le_of_negative`).

  So every one of these references resolves to the default where nothing compares
  (`only_comparisons_reach_outside`).
-/
namespace ChoiceTemplate

-- Powers are the core library's, as in the definitions.
attribute [local instance (high)] instPowNat

namespace Double

/-- A number below zero, or an infinity. -/
def Outside (r : Double) : Prop := r = .infinity false ∨ lt r (zero false) = true

/-- An infinity, or a finite number with a minus sign that is no zero. -/
theorem cases_of_outside {r : Double} (h : r.Outside) :
    (∃ negative, r = .infinity negative) ∨ ∃ a : Magnitude, r = .finite true a ∧ 0 < a.units := by
  rcases h with rfl | h
  · exact Or.inl ⟨false, rfl⟩
  · cases r with
    | nan => cases h
    | infinity negative => exact Or.inl ⟨negative, rfl⟩
    | finite negative a =>
      right
      cases negative with
      | false => simp [lt, zero, signedUnits] at h; omega
      | true => exact ⟨a, rfl, by simpa [lt, zero, signedUnits] using h⟩

theorem le_nan_left (b : Double) : le .nan b = false := rfl

theorem le_nan_right (b : Double) : le b .nan = false := by
  rw [le, isNaN.eq_1, Bool.not_true, Bool.and_false, Bool.false_and]

theorem infinity_not_le (negative : Bool) (a : Magnitude) :
    le (.infinity false) (.finite negative a) = false := rfl

theorem not_le_infinity (negative : Bool) (a : Magnitude) :
    le (.finite negative a) (.infinity true) = false := rfl

theorem not_le_of_negative {a b : Magnitude} (h : 0 < a.units) :
    le (.finite false b) (.finite true a) = false := by
  simp [le, lt, isNaN, signedUnits]
  omega

theorem lesser_of_sizes (a b : Magnitude) :
    ∃ c, lesser (.finite false a) (.finite false b) = .finite false c ∧ c.units ≤ a.units := by
  by_cases h : b.units < a.units
  · exact ⟨b, by simp [lesser, isNaN, lt, signedUnits, h], h.le⟩
  · exact ⟨a, by simp [lesser, isNaN, lt, signedUnits, h], Nat.le_refl _⟩

theorem exists_ofInt_of_nonneg {i : Int} (hi : 0 ≤ i) (h : i.natAbs ≤ 2 ^ 53) :
    ∃ size, ofInt i = .finite false size := by
  have hplus : decide (i < 0) = false := by simpa using hi
  rw [ofInt_eq h, hplus]
  exact ⟨_, rfl⟩

end Double

namespace NumericSelector

/-! ## Closeness -/

theorem close_nan (b : Double) : close .nan b = false := by
  have hdistance : Double.distance .nan b = .nan := rfl
  have hproduct : ∀ c, Double.mul .nan c = .nan := fun _ => rfl
  rw [close, hdistance, hproduct, Double.le_nan_left]

theorem close_infinity (negative : Bool) (b : Magnitude) :
    close (.infinity negative) (.finite false b) = false := by
  have hfactor : 1000000000000 ≤ 2 ^ 53 := by decide
  have hpos : ¬1000000000000 * Double.one = 0 := by
    have := Double.one_pos
    omega
  rw [close, Double.ofNat_eq hfactor, Double.distance, Double.mul, if_neg hpos]
  rfl

/-- The distance of a negative number from a natural one covers each of the two, rounded or not, and
the product, which is rounded again, is at least twice the distance. -/
theorem close_of_negative {a b : Magnitude} (h : 0 < a.units) :
    close (.finite true a) (.finite false b) = false := by
  have hfactor : 1000000000000 ≤ 2 ^ 53 := by decide
  have hone := Double.one_pos
  obtain ⟨c, hlesser, hc⟩ := Double.lesser_of_sizes a b
  have hdifference :
      (Double.signedUnits true a - Double.signedUnits false b).natAbs = a.units + b.units := by
    simp [Double.signedUnits]
    omega
  rw [close, Double.ofNat_eq hfactor, Double.abs, Double.abs, hlesser, Double.distance, hdifference,
    Double.ofRatio]
  split
  · obtain ⟨u, hu⟩ : ∃ u, roundRatio 53 (a.units + b.units) 1 = u := ⟨_, rfl⟩
    have hcovers : a.units ≤ u := by
      rw [← hu]
      apply le_roundRatio (by decide) Nat.one_pos a.fits.2
      omega
    have htwice : u * 2 ^ 1 ≤ roundRatio 53 (u * (1000000000000 * Double.one)) Double.one := by
      have hbits : HasBits 53 u := hu ▸ roundRatio_form (by decide) _ _
      apply le_roundRatio (by decide) hone (hbits.mul_two_pow 1)
      rw [Nat.mul_assoc]
      exact Nat.mul_le_mul_left u (Nat.mul_le_mul_right _ (by decide))
    simp only [Double.mul, hu, bne_self_eq_false]
    rw [Double.le_ofRatio, decide_eq_false_iff_not]
    omega
  · have hpos : ¬1000000000000 * Double.one = 0 := by omega
    rw [Double.mul, if_neg hpos]
    rfl

theorem close_of_outside {r : Double} (hr : r.Outside) (b : Magnitude) :
    close r (.finite false b) = false := by
  obtain ⟨negative, rfl⟩ | ⟨a, rfl, ha⟩ := Double.cases_of_outside hr
  · exact close_infinity negative b
  · exact close_of_negative ha

/-! ## Forms -/

/-- A selector compares with a bound. -/
def isComparison : NumericSelector → Bool
  | .compare _ _ => true
  | _ => false

section
variable {form : NumericSelector} {r : Double}

theorem accepts_nan (form : NumericSelector) : form.accepts .nan = false := by
  cases form with
  | default => rfl
  | compare comparison bound =>
    cases comparison with
    | atMost => exact Double.le_nan_left bound
    | atLeast => exact Double.le_nan_right bound
    | lessThan => rfl
    | greaterThan => cases bound <;> rfl
  | range first last => rw [accepts, Double.le_nan_left, Bool.and_false]
  | boolean value => exact close_nan _
  | exact value => exact close_nan _

/-- No range holds an infinity or a negative number. -/
theorem not_accepts_range {first last : Int} (hform : (range first last).Bounded) (hr : r.Outside) :
    (range first last).accepts r = false := by
  have hlimit := Double.integerLimit_le
  obtain ⟨hnonneg, hfirst, hlast⟩ := hform
  obtain ⟨b, hb⟩ := Double.exists_ofInt_of_nonneg hnonneg (by omega)
  rw [accepts, hb, Double.ofInt_eq (by omega : last.natAbs ≤ 2 ^ 53)]
  obtain ⟨negative, rfl⟩ | ⟨a, rfl, ha⟩ := Double.cases_of_outside hr
  · cases negative
    · rw [Double.infinity_not_le, Bool.and_false]
    · rw [Double.not_le_infinity, Bool.false_and]
  · rw [Double.not_le_of_negative ha, Bool.false_and]

/-- **What accepts an infinity or a negative number is a comparison.** -/
theorem isComparison_of_accepts (hform : form.Bounded) (hr : r.Outside)
    (h : form.accepts r = true) : form.isComparison = true := by
  have hlimit := Double.integerLimit_le
  cases form with
  | default => cases h
  | compare comparison bound => rfl
  | range first last =>
    rw [not_accepts_range hform hr] at h
    cases h
  | boolean value =>
    have hvalue : (if value then 1 else 0 : Nat) ≤ 2 ^ 53 := by cases value <;> decide
    rw [accepts, Double.ofNat_eq hvalue, close_of_outside hr] at h
    cases h
  | exact value =>
    obtain ⟨hnonneg, hvalue⟩ := hform
    obtain ⟨b, hb⟩ := Double.exists_ofInt_of_nonneg hnonneg (by omega)
    rw [accepts, hb, close_of_outside hr] at h
    cases h

/-- The bound of a comparison is finite, so it does not decide how an infinity compares with it. -/
theorem holds_infinity {comparison : Comparison} {bound : Double} (h : bound.isFinite = true) :
    (comparison.holds (.infinity false) bound = true ↔
      comparison = .greaterThan ∨ comparison = .atLeast) ∧
    (comparison.holds (.infinity true) bound = true ↔
      comparison = .lessThan ∨ comparison = .atMost) := by
  cases bound with
  | nan => cases h
  | infinity negative => cases h
  | finite negative size =>
    cases comparison <;> simp [Comparison.holds, Double.le, Double.lt, Double.isNaN]

/-- An infinity is accepted by the comparisons that hold for it, and by no other form. -/
theorem accepts_infinity {negative : Bool} {p : Comparison → Prop} (hform : form.Bounded)
    (hp : ∀ {comparison bound}, bound.isFinite = true →
      (Comparison.holds comparison (.infinity negative) bound = true ↔ p comparison)) :
    form.accepts (.infinity negative) = true ↔
      ∃ comparison bound, form = .compare comparison bound ∧ p comparison := by
  constructor
  · intro h
    have hr : (Double.infinity negative).Outside := by
      cases negative
      · exact Or.inl rfl
      · exact Or.inr rfl
    have hcomparison := isComparison_of_accepts hform hr h
    cases form with
    | compare comparison bound => exact ⟨comparison, bound, rfl, (hp hform).mp h⟩
    | _ => cases hcomparison
  · rintro ⟨comparison, bound, rfl, h⟩
    exact (hp hform).mpr h

end

end NumericSelector

/-! ## Templates -/

theorem Choices.selectNumeric_of_none {c : Choices} {r : Double}
    (h : ∀ i ∈ c.items, (NumericSelector.parse i.selector).accepts r = false) :
    c.selectNumeric r = c.defaultText := by
  have hnone : (c.items.find? fun i => (NumericSelector.parse i.selector).accepts r) = none := by
    rw [List.find?_eq_none]
    intro i hi
    rw [h i hi]
    exact Bool.false_ne_true
  rw [selectNumeric, select, hnone]

section
variable {c : Choices} {r : Double}

theorem Choices.selectNumeric_nan (c : Choices) : c.selectNumeric .nan = c.defaultText := by
  apply selectNumeric_of_none
  intro i _
  rw [NumericSelector.accepts_nan]

theorem Choices.selectNumeric_of_outside (hr : r.Outside)
    (h : ∀ i ∈ c.items, (NumericSelector.parse i.selector).isComparison = false) :
    c.selectNumeric r = c.defaultText := by
  apply selectNumeric_of_none
  intro i hi
  rw [Bool.eq_false_iff]
  intro haccepts
  have hform := NumericSelector.bounded_parse i.selector
  have hcomparison := NumericSelector.isComparison_of_accepts hform hr haccepts
  rw [h i hi] at hcomparison
  cases hcomparison

end

open NumericSelector in
/-- **Only comparisons reach negative numbers and infinities, and nothing reaches NaN.** No selector
accepts NaN. A selector that accepts a negative number or an infinity is a comparison; infinity is
accepted by exactly the comparisons with `>` and `>=`, minus infinity by those with `<` and `<=`. So
choices without a comparison give all these references the default text. -/
theorem only_comparisons_reach_outside :
    (∀ s, (parse s).accepts .nan = false) ∧
    (∀ c : Choices, c.selectNumeric .nan = c.defaultText) ∧
    (∀ s r, Double.Outside r → (parse s).accepts r = true → (parse s).isComparison = true) ∧
    (∀ s, (parse s).accepts (.infinity false) = true ↔
      ∃ comparison bound, parse s = .compare comparison bound ∧
        (comparison = .greaterThan ∨ comparison = .atLeast)) ∧
    (∀ s, (parse s).accepts (.infinity true) = true ↔
      ∃ comparison bound, parse s = .compare comparison bound ∧
        (comparison = .lessThan ∨ comparison = .atMost)) ∧
    ∀ c : Choices, (∀ i ∈ c.items, (parse i.selector).isComparison = false) →
      ∀ r, r = .nan ∨ Double.Outside r → c.selectNumeric r = c.defaultText := by
  refine ⟨?_, Choices.selectNumeric_nan, ?_, ?_, ?_, ?_⟩
  · intro s
    exact accepts_nan (parse s)
  · intro s r hr haccepts
    exact isComparison_of_accepts (bounded_parse s) hr haccepts
  · intro s
    apply accepts_infinity (bounded_parse s)
    intro comparison bound hfinite
    exact (holds_infinity hfinite).1
  · intro s
    apply accepts_infinity (bounded_parse s)
    intro comparison bound hfinite
    exact (holds_infinity hfinite).2
  · intro c hc r hr
    rcases hr with rfl | hr
    · exact Choices.selectNumeric_nan c
    · exact Choices.selectNumeric_of_outside hr hc

/-- What looks like a negative number is a range that begins at zero. -/
def dashTemplate : Text := "-5#dash|1-3#few|0#none|No#no|#other".toList

theorem dashTemplate_outside :
    (∀ i ∈ (Choices.parse dashTemplate).items,
      (NumericSelector.parse i.selector).isComparison = false) ∧
    (Double.ofInt (-5)).Outside ∧
    (Choices.parse dashTemplate).selectNumeric (Double.ofInt (-5)) = "other".toList ∧
    (Choices.parse dashTemplate).selectNumeric (.infinity true) = "other".toList ∧
    (NumericSelector.parse "<=x".toList).accepts (Double.ofInt (-5)) = true ∧
    (NumericSelector.parse "<=x".toList).isComparison = true := by
  obtain ⟨-, -, hcomparison, -, -, hdefault⟩ := only_comparisons_reach_outside
  have hitems : ∀ i ∈ (Choices.parse dashTemplate).items,
      (NumericSelector.parse i.selector).isComparison = false := by decide +kernel
  have hnegative : (Double.ofInt (-5)).Outside := Or.inr (by decide +kernel)
  have haccepts : (NumericSelector.parse "<=x".toList).accepts (Double.ofInt (-5)) = true := by
    decide +kernel
  exact ⟨hitems, hnegative, hdefault _ hitems _ (Or.inr hnegative),
    hdefault _ hitems _ (Or.inr (Or.inr rfl)), haccepts,
    hcomparison _ _ hnegative haccepts⟩

end ChoiceTemplate

import ChoiceTemplate.Proofs.OutsideReferences
import ChoiceTemplate.Proofs.SelectorGrammar

/-
  Templates of keywords, for booleans and for numbers.

  A boolean selects by the keyword itself. A number first asks whether the selector compares or is a
  range, and then whether the number is close to one or to zero.

    1. No keyword begins with a sign of comparison and none has a minus sign, so a number reads each
       keyword as one, also `1` and `0` (`parse_eq_boolean_iff_classify`).
    2. Only a zero is close to zero, and no zero is close to one (`close_zero_iff`,
       `not_close_one_of_isZero`). So a number is close to at most one of the two
       (`nearBoolean?_eq_some_iff`).
    3. A number therefore accepts the keywords of one boolean or none at all (`accepts_keyword`), and
       resolves like that boolean, or to the default (`selectNumeric_of_onlyKeywords`).
-/
namespace ChoiceTemplate

-- Powers are the core library's, as in the definitions.
attribute [local instance (high)] instPowNat

/-! ## Keywords as numbers read them -/

namespace Keyword

/-- Nothing that makes a comparison or a range stands in a keyword, in whatever case. -/
theorem not_mem_of_classify {s : Text} {value : Bool} (h : classify s = some value) :
    '-' ∉ s ∧ '<' ∉ s ∧ '>' ∉ s := by
  have hwords : ∀ word ∈ words value, '-' ∉ word ∧ '<' ∉ word ∧ '>' ∉ word := by
    cases value <;> decide
  have hlower : ∀ c : Char, c ∈ s → c.toLower ∈ Text.lowercase s := by
    intro c hc
    exact List.mem_map_of_mem hc
  obtain ⟨hminus, hless, hgreater⟩ := hwords _ (classify_eq_some_iff.mp h)
  refine ⟨?_, ?_, ?_⟩
  · intro hmem
    exact hminus (hlower '-' hmem)
  · intro hmem
    exact hless (hlower '<' hmem)
  · intro hmem
    exact hgreater (hlower '>' hmem)

end Keyword

namespace NumericSelector

theorem parse_eq_boolean_iff_classify {s : Text} {value : Bool} :
    parse s = .boolean value ↔ Keyword.classify s = some value := by
  rw [parse_eq_boolean_iff, ← Keyword.classify_eq_some_iff]
  constructor
  · intro h
    exact h.2.2
  · intro h
    obtain ⟨hminus, hless, hgreater⟩ := Keyword.not_mem_of_classify h
    refine ⟨?_, hminus, h⟩
    intro hbegins
    rcases hbegins.1 with hhead | hhead
    · exact hless (List.mem_of_head? hhead)
    · exact hgreater (List.mem_of_head? hhead)

/-! ## Zero and one -/

section
variable {r : Double} {value : Bool}

/-- The tolerance of a distance is at least the distance, so only the distance zero tolerates zero. -/
theorem le_zero_iff {a c : Magnitude} (hc : c.units = 0) :
    Double.le (Double.mul (.finite false a) (Double.ofNat 1000000000000)) (.finite false c) = true ↔
      a.units = 0 := by
  have hfactor : 1000000000000 ≤ 2 ^ 53 := by decide
  have hproduct : Double.mul (.finite false a) (Double.ofNat 1000000000000) =
      Double.ofRatio false (a.units * 1000000000000) 1 := by
    rw [Double.ofNat_eq hfactor, ← Double.ofRatio_mul_right Double.one_pos, Nat.one_mul,
      Nat.mul_assoc]
    rfl
  rw [hproduct, Double.le_ofRatio, decide_eq_true_eq, hc, Nat.le_zero,
    roundRatio_eq_zero_iff (by decide) Nat.one_pos]
  omega

/-- A difference that is itself a number is not rounded. -/
theorem distance_eq {s t : Bool} {a b c : Magnitude}
    (h : (Double.signedUnits s a - Double.signedUnits t b).natAbs = c.units) :
    Double.distance (.finite s a) (.finite t b) = .finite false c := by
  have hround := Double.ofRatio_eq Nat.one_pos c.fits false
  rw [Nat.mul_one] at hround
  rw [Double.distance, h, hround]

theorem distance_of_isZero (negative : Bool) {a : Magnitude} (ha : a.units = 0) (b : Magnitude) :
    Double.distance (.finite negative a) (.finite false b) = .finite false b := by
  apply distance_eq
  simp [Double.signedUnits, ha]

theorem distance_zero (negative : Bool) (a : Magnitude) {b : Magnitude} (hb : b.units = 0) :
    Double.distance (.finite negative a) (.finite false b) = .finite false a := by
  apply distance_eq
  cases negative <;> simp [Double.signedUnits, hb]

theorem lesser_zero (a : Magnitude) {b : Magnitude} (hb : b.units = 0) :
    ∃ c, Double.lesser (.finite false a) (.finite false b) = .finite false c ∧ c.units = 0 := by
  by_cases h : b.units < a.units
  · exact ⟨b, by simp [Double.lesser, Double.isNaN, Double.lt, Double.signedUnits, h], hb⟩
  · have ha : a.units = 0 := by omega
    exact ⟨a, by simp [Double.lesser, Double.isNaN, Double.lt, Double.signedUnits, h], ha⟩

/-- Only a zero is close to zero. -/
theorem close_zero_iff (r : Double) : close r (Double.ofNat 0) = true ↔ r.IsZero := by
  obtain ⟨b, hb, hunits⟩ : ∃ b : Magnitude, Double.ofNat 0 = .finite false b ∧ b.units = 0 :=
    ⟨_, Double.ofNat_eq (by decide), Nat.zero_mul _⟩
  rw [hb]
  cases r with
  | nan => simp [close_nan, Double.IsZero]
  | infinity negative => simp [close_infinity, Double.IsZero]
  | finite negative a =>
    obtain ⟨c, hlesser, hc⟩ := lesser_zero a hunits
    rw [close, distance_zero negative a hunits, Double.abs, Double.abs, hlesser, le_zero_iff hc,
      Double.IsZero]

/-- No zero is close to one. -/
theorem not_close_one_of_isZero (h : r.IsZero) : close r (Double.ofNat 1) = false := by
  obtain ⟨b, hb, hunits⟩ : ∃ b : Magnitude, Double.ofNat 1 = .finite false b ∧ 0 < b.units :=
    ⟨_, Double.ofNat_eq (by decide), Nat.mul_pos Nat.one_pos Double.one_pos⟩
  rw [hb, Bool.eq_false_iff]
  cases r with
  | nan => cases h
  | infinity negative => cases h
  | finite negative a =>
    have ha : a.units = 0 := h
    obtain ⟨c, hlesser, hc⟩ := Double.lesser_of_sizes a b
    have hzero : c.units = 0 := by omega
    rw [close, distance_of_isZero negative ha, Double.abs, Double.abs, hlesser, ne_eq,
      le_zero_iff hzero]
    omega

/-- The boolean that a number is close to: true for one, false for zero. -/
def nearBoolean? (r : Double) : Option Bool :=
  if close r (Double.ofNat 1) then some true
  else if close r (Double.ofNat 0) then some false
  else none

/-- A number is close to at most one of one and zero. -/
theorem nearBoolean?_eq_some_iff :
    nearBoolean? r = some value ↔ close r (Double.ofNat (if value then 1 else 0)) = true := by
  have hapart : close r (Double.ofNat 0) = true → close r (Double.ofNat 1) = false := by
    intro h
    exact not_close_one_of_isZero ((close_zero_iff r).mp h)
  rw [nearBoolean?]
  cases hone : close r (Double.ofNat 1) <;> cases hzero : close r (Double.ofNat 0) <;>
    cases value <;> simp_all

theorem nearBoolean?_eq_none_iff :
    nearBoolean? r = none ↔
      close r (Double.ofNat 1) = false ∧ close r (Double.ofNat 0) = false := by
  rw [nearBoolean?]
  cases close r (Double.ofNat 1) <;> cases close r (Double.ofNat 0) <;> simp

theorem nearBoolean?_one : nearBoolean? (Double.ofNat 1) = some true := by
  rw [nearBoolean?_eq_some_iff, if_pos rfl, Double.ofNat_eq_ofInt, close_ofInt (by decide)]
  rfl

theorem nearBoolean?_zero : nearBoolean? (Double.ofNat 0) = some false := by
  rw [nearBoolean?_eq_some_iff, if_neg Bool.false_ne_true, Double.ofNat_eq_ofInt,
    close_ofInt (by decide)]
  rfl

/-- A number accepts a keyword for the boolean that it is close to. -/
theorem accepts_keyword {s : Text} (h : Keyword.classify s = some value) (r : Double) :
    (parse s).accepts r = (nearBoolean? r == some value) := by
  rw [parse_eq_boolean_iff_classify.mpr h, accepts, Bool.eq_iff_iff, beq_iff_eq,
    nearBoolean?_eq_some_iff]

end

end NumericSelector

/-! ## Templates -/

namespace Choices

open NumericSelector

/-- Every selector that is not empty is a keyword, in any letter case. -/
def OnlyKeywords (c : Choices) : Prop :=
  ∀ s ∈ c.selectors, s ≠ [] → ∃ value, Text.lowercase s ∈ Keyword.words value

section
variable {c : Choices}

/-- A number finds in such choices what the boolean finds that it is close to. -/
theorem accepts_eq_of_onlyKeywords (h : c.OnlyKeywords) (r : Double) :
    ∀ i ∈ c.items, (NumericSelector.parse i.selector).accepts r =
      match nearBoolean? r with
      | some value => Keyword.classify i.selector == some value
      | none => false := by
  intro i hi
  by_cases hempty : i.selector = []
  · rw [hempty]
    cases nearBoolean? r <;> rfl
  · obtain ⟨value, hword⟩ := h i.selector (selector_mem_of_mem_items hi) hempty
    have hkeyword := Keyword.classify_eq_some_iff.mpr hword
    rw [accepts_keyword hkeyword, hkeyword]
    cases nearBoolean? r with
    | none => rfl
    | some near => rw [Bool.eq_iff_iff, beq_iff_eq, beq_iff_eq, eq_comm]

theorem selectNumeric_of_near (h : c.OnlyKeywords) {r : Double} {value : Bool}
    (hnear : nearBoolean? r = some value) : c.selectNumeric r = c.selectBoolean value := by
  have haccepts := accepts_eq_of_onlyKeywords h r
  rw [hnear] at haccepts
  exact select_congr haccepts

theorem selectNumeric_of_far (h : c.OnlyKeywords) {r : Double} (hfar : nearBoolean? r = none) :
    c.selectNumeric r = c.defaultText := by
  have haccepts := accepts_eq_of_onlyKeywords h r
  rw [hfar] at haccepts
  exact selectNumeric_of_none haccepts

end

/-- **Numbers resolve keywords as booleans do.** If every selector that is not empty is a keyword, one
selects what true selects, zero what false selects, and every number that is close to neither the
default text. A number that is close to one or to zero, of which it can only be one, selects what this
one selects. -/
theorem numbers_resolve_keywords_as_booleans (c : Choices) (h : c.OnlyKeywords) :
    c.selectBoolean true = c.selectNumeric (Double.ofNat 1) ∧
    c.selectBoolean false = c.selectNumeric (Double.ofNat 0) ∧
    (∀ r, close r (Double.ofNat 1) = false → close r (Double.ofNat 0) = false →
      c.selectNumeric r = c.defaultText) ∧
    ∀ r value, close r (Double.ofNat (if value then 1 else 0)) = true →
      c.selectNumeric r = c.selectBoolean value := by
  refine ⟨?_, ?_, ?_, ?_⟩
  · exact (selectNumeric_of_near h nearBoolean?_one).symm
  · exact (selectNumeric_of_near h nearBoolean?_zero).symm
  · intro r hone hzero
    exact selectNumeric_of_far h (nearBoolean?_eq_none_iff.mpr ⟨hone, hzero⟩)
  · intro r value hclose
    exact selectNumeric_of_near h (nearBoolean?_eq_some_iff.mpr hclose)

/-- Keywords that are numbers and others, in mixed case, with defaults around them. -/
def keywordTemplate : Text := "#a|oFF#no|1#one|#b|YES#yes|0#zero".toList

theorem keywordTemplate_resolved :
    (parse keywordTemplate).OnlyKeywords ∧
    (parse keywordTemplate).selectNumeric (Double.ofNat 1) = "one".toList ∧
    (parse keywordTemplate).selectNumeric (Double.zero true) = "no".toList ∧
    (parse keywordTemplate).selectNumeric (Double.ofNat 2) = ['b'] := by
  have h : (parse keywordTemplate).OnlyKeywords := by
    unfold OnlyKeywords
    decide
  obtain ⟨hone, -, hfar, hnear⟩ := numbers_resolve_keywords_as_booleans _ h
  refine ⟨h, hone.symm, ?_, ?_⟩
  · exact hnear (Double.zero true) false ((close_zero_iff _).mpr rfl)
  · exact hfar (Double.ofNat 2) (by decide +kernel) (by decide +kernel)

end Choices

end ChoiceTemplate

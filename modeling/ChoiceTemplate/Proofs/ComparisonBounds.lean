import ChoiceTemplate.Proofs.NumberRange
import ChoiceTemplate.Proofs.Separators

/-
  Comparison bounds that compare as zero.

  A selector that compares takes the number that its bound begins with, and zero if there is none or
  if it is too large. The warning about a bound is given by another test: whether all of the bound is
  a number. The two differ in both directions.

    1. A bound that is warned about may begin with a number, and then this number is compared with.
       The warning says that the bound compares as zero, and `bound_warning_right_iff` says when it
       does: exactly if the number, where there is one, is too large or so small that it vanishes.
    2. A bound that is a number may be too large, and then zero is compared with and nothing is said
       about it. `silent_zero_iff_overflows` says that this is the only way for a bound to be given up
       without a warning.

  What the comparison does is decided by its bound up to the sign of a zero
  (`holds_of_isZero`, `isZero_of_holds`).
-/
namespace ChoiceTemplate

/-! ## Reading a bound -/

namespace Double

/-- The decimal number that a text begins with, after white space. -/
def leading? (t : Text) : Option Decimal :=
  (floatLiteral? (dropLeadingSpace t)).map fun cut => Decimal.ofLiteral cut.1

/-- A text is given up as a number: it begins with none, or with one that is not finite. -/
def GivenUp (t : Text) : Prop := ∀ d, leading? t = some d → d.toDouble.isFinite = false

section
variable {t : Text} {d : Decimal}

theorem readLenient_of_none (h : leading? t = none) : readLenient t = zero false := by
  rw [leading?, Option.map_eq_none_iff] at h
  rw [readLenient, h]

theorem readLenient_of_some (h : leading? t = some d) :
    readLenient t = if d.toDouble.isFinite then d.toDouble else zero false := by
  obtain ⟨⟨literal, rest⟩, hliteral, rfl⟩ := Option.map_eq_some_iff.mp h
  rw [readLenient, hliteral]

theorem readLenient_of_givenUp (h : GivenUp t) : readLenient t = zero false := by
  cases hleading : leading? t with
  | none => exact readLenient_of_none hleading
  | some d => rw [readLenient_of_some hleading, h d hleading, if_neg Bool.false_ne_true]

theorem isFinite_readLenient (t : Text) : (readLenient t).isFinite = true := by
  cases hleading : leading? t with
  | none =>
    rw [readLenient_of_none hleading]
    rfl
  | some d =>
    rw [readLenient_of_some hleading]
    split
    · next h => exact h
    · rfl

/-- What is read is zero if nothing is there, and otherwise if it is too large or vanishes. -/
theorem isZero_readLenient :
    (readLenient t).IsZero ↔ ∀ d, leading? t = some d → d.Overflows ∨ d.Vanishes := by
  cases hleading : leading? t with
  | none =>
    rw [readLenient_of_none hleading]
    exact iff_of_true (isZero_zero false) nofun
  | some d =>
    rw [readLenient_of_some hleading]
    simp only [Option.some.injEq, forall_eq']
    split
    · next hfinite =>
      have hsmall := d.isFinite_toDouble.mp hfinite
      rw [d.isZero_toDouble, or_iff_right hsmall]
    · next hfinite =>
      have hover : d.Overflows := by
        by_contra h
        exact hfinite (d.isFinite_toDouble.mpr h)
      exact iff_of_true (isZero_zero false) (Or.inl hover)

theorem exists_leading_of_isNumber (h : isNumber t = true) : ∃ d, leading? t = some d := by
  rw [isNumber] at h
  rw [leading?]
  cases hliteral : floatLiteral? (dropLeadingSpace t) with
  | none =>
    rw [hliteral] at h
    cases h
  | some cut => exact ⟨_, rfl⟩

end

end Double

/-! ## Comparing -/

namespace Double

theorem signedUnits_eq_zero (negative : Bool) (size : Magnitude) :
    signedUnits negative size = 0 ↔ size.units = 0 := by
  cases negative <;> simp [signedUnits]

/-- The order does not tell a zero from another one. -/
theorem lt_of_isZero {b : Double} (h : b.IsZero) (r : Double) :
    lt r b = lt r (zero false) ∧ lt b r = lt (zero false) r := by
  cases b with
  | nan => exact h.elim
  | infinity negative => exact h.elim
  | finite negative size =>
    have hb : signedUnits negative size = 0 := (signedUnits_eq_zero negative size).mpr h
    have hzero : signedUnits false ⟨0, fits_zero⟩ = 0 := rfl
    cases r with
    | nan => exact ⟨rfl, rfl⟩
    | infinity negative => exact ⟨rfl, rfl⟩
    | finite => simp only [zero, lt, hb, hzero, and_self]

theorem not_isNaN_of_isZero {b : Double} (h : b.IsZero) : b.isNaN = false := by
  cases b with
  | nan => exact h.elim
  | infinity negative => rfl
  | finite negative size => rfl

end Double

namespace Comparison

section
variable {comparison : Comparison} {b : Double}

theorem holds_of_isZero (h : b.IsZero) (r : Double) :
    comparison.holds r b = comparison.holds r (Double.zero false) := by
  obtain ⟨hbelow, habove⟩ := Double.lt_of_isZero h r
  have hnan : b.isNaN = (Double.zero false).isNaN := Double.not_isNaN_of_isZero h
  cases comparison with
  | atMost => rw [holds, holds, Double.le, Double.le, habove, hnan]
  | atLeast => rw [holds, holds, Double.le, Double.le, hbelow, hnan]
  | lessThan => exact hbelow
  | greaterThan => exact habove

/-- A finite bound that compares as zero does with every reference is zero: it is enough to compare
the bound and zero with each other and with themselves. -/
theorem isZero_of_holds (hb : b.isFinite = true)
    (h : ∀ r, comparison.holds r b = comparison.holds r (Double.zero false)) : b.IsZero := by
  cases b with
  | nan => cases hb
  | infinity negative => cases hb
  | finite negative size =>
    have hself := h (.finite negative size)
    have hzero := h (Double.zero false)
    have hunits : Double.signedUnits false ⟨0, fits_zero⟩ = 0 := rfl
    apply (Double.signedUnits_eq_zero negative size).mp
    -- Neither of the two is below the other, whichever way they are compared.
    cases comparison <;>
      simp only [holds, Double.le, Double.lt, Double.isNaN, Double.zero, hunits] at hself hzero <;>
      simp at hself hzero <;> omega

end

end Comparison

/-! ## Selectors and their warnings -/

section
variable {options : MatchOptions} {template entry selector text bound : Text}
  {comparison : Comparison} {i : Nat}

theorem Comparison.ne_nil_of_split (h : split selector = some (comparison, bound)) :
    selector ≠ [] := by
  rintro rfl
  cases h

theorem NumericSelector.parse_of_split (h : Comparison.split selector = some (comparison, bound)) :
    parse selector = .compare comparison (Double.readLenient bound) := by
  rw [parse, if_neg (Comparison.ne_nil_of_split h), h]

namespace Lint

theorem of_unparsableBound_mem_lint [PatternEngine]
    (h : .unparsableBound i selector ∈ lint template options) :
    (Choices.parse template).selectors[i]? = some selector ∧
      ∃ comparison bound, Comparison.split selector = some (comparison, bound) ∧
        Double.isNumber bound = false := by
  obtain ⟨s, hselector, -, habout⟩ := aboutSelector_of_mem_lint h trivial
  cases habout with
  | bound hcomparison hnumber => exact ⟨hselector, _, _, hcomparison, hnumber⟩

/-- At an entry with a comparison, the bound is warned about unless all of it is a number. -/
theorem unparsableBound_mem_lint [PatternEngine]
    (hentry : (Choices.entries template)[i]? = some entry)
    (hsplit : Text.splitOnce '#' entry = some (selector, text))
    (hcomparison : Comparison.split selector = some (comparison, bound)) :
    .unparsableBound i selector ∈ lint template options ↔ Double.isNumber bound = false := by
  constructor
  · intro h
    obtain ⟨-, comparison', bound', hcomparison', hnumber⟩ := of_unparsableBound_mem_lint h
    rw [hcomparison, Option.some.injEq] at hcomparison'
    obtain ⟨-, rfl⟩ := Prod.mk.inj hcomparison'
    exact hnumber
  · intro hnumber
    exact mem_lint_of_aboutSelector hentry hsplit (Comparison.ne_nil_of_split hcomparison)
      (.bound hcomparison hnumber)

end Lint

end

/-- **The warning about a bound is right where there is no number to compare with.** A selector that is
warned about compares, and the warning says that its bound compares as zero. The bound is zero, and
the selector accepts what zero in its place would accept, exactly if the bound begins with no number,
with one that is too large or with one that vanishes. -/
theorem bound_warning_right_iff [PatternEngine] (template : Text) (options : MatchOptions)
    (i : Nat) (selector : Text) (h : .unparsableBound i selector ∈ lint template options) :
    ∃ comparison bound, Comparison.split selector = some (comparison, bound) ∧
      NumericSelector.parse selector = .compare comparison (Double.readLenient bound) ∧
      ((Double.readLenient bound).IsZero ↔
        ∀ d, Double.leading? bound = some d → d.Overflows ∨ d.Vanishes) ∧
      ((∀ r, (NumericSelector.parse selector).accepts r =
          comparison.holds r (Double.zero false)) ↔
        ∀ d, Double.leading? bound = some d → d.Overflows ∨ d.Vanishes) := by
  obtain ⟨-, comparison, bound, hcomparison, -⟩ := Lint.of_unparsableBound_mem_lint h
  have hparse := NumericSelector.parse_of_split hcomparison
  refine ⟨comparison, bound, hcomparison, hparse, Double.isZero_readLenient, ?_⟩
  rw [← Double.isZero_readLenient, hparse]
  constructor
  · exact Comparison.isZero_of_holds (Double.isFinite_readLenient bound)
  · exact fun hzero r => Comparison.holds_of_isZero hzero r

/-- `<1e-400kg#light|#heavy`, whose bound begins with a number that vanishes. -/
def lightTemplate : Text := "<1e-400kg#light|#heavy".toList

theorem lightTemplate_warning_right :
    .unparsableBound 0 "<1e-400kg".toList ∈ lint lightTemplate .standard ∧
    ∀ r, (NumericSelector.parse "<1e-400kg".toList).accepts r =
      Comparison.lessThan.holds r (Double.zero false) := by
  have hwarned : .unparsableBound 0 "<1e-400kg".toList ∈ lint lightTemplate .standard := by
    decide +kernel
  obtain ⟨comparison, bound, hcomparison, -, -, hiff⟩ :=
    bound_warning_right_iff lightTemplate .standard 0 "<1e-400kg".toList hwarned
  have hsplit : Comparison.split "<1e-400kg".toList = some (.lessThan, "1e-400kg".toList) := rfl
  rw [hsplit, Option.some.injEq] at hcomparison
  obtain ⟨rfl, rfl⟩ := Prod.mk.inj hcomparison
  refine ⟨hwarned, hiff.mpr ?_⟩
  intro d hd
  have hleading : Double.leading? "1e-400kg".toList = some ⟨false, 1, -400⟩ := rfl
  rw [hleading, Option.some.injEq] at hd
  rw [← hd]
  exact Or.inr ((Decimal.isZero_toDouble _).mp rfl)

/-- `<10kg#light|#heavy`, whose bound begins with ten. -/
def tenTemplate : Text := "<10kg#light|#heavy".toList

theorem bound_warned_about_compares_as_ten :
    .unparsableBound 0 "<10kg".toList ∈ lint tenTemplate .standard ∧
    NumericSelector.parse "<10kg".toList = .compare .lessThan (Double.ofNat 10) ∧
    (NumericSelector.parse "<10kg".toList).accepts (Double.ofNat 5) = true ∧
    Comparison.lessThan.holds (Double.ofNat 5) (Double.zero false) = false := by
  decide +kernel

/-- **A bound is given up without a warning exactly if it is one number that is too large.** At an
entry with a `#` whose selector compares, a bound that is given up becomes zero. This is warned about
unless all of the bound is a number, and then that number overflows. -/
theorem silent_zero_iff_overflows [PatternEngine] (template : Text) (options : MatchOptions)
    (i : Nat) (entry selector text bound : Text) (comparison : Comparison)
    (hentry : (Choices.entries template)[i]? = some entry)
    (hsplit : Text.splitOnce '#' entry = some (selector, text))
    (hcomparison : Comparison.split selector = some (comparison, bound)) :
    (Double.GivenUp bound →
      NumericSelector.parse selector = .compare comparison (Double.zero false)) ∧
    ((Double.GivenUp bound ∧ .unparsableBound i selector ∉ lint template options) ↔
      Double.isNumber bound = true ∧ ∃ d, Double.leading? bound = some d ∧ d.Overflows) := by
  have hwarned : .unparsableBound i selector ∉ lint template options ↔
      Double.isNumber bound = true := by
    rw [Lint.unparsableBound_mem_lint hentry hsplit hcomparison, Bool.not_eq_false]
  constructor
  · intro hgiven
    rw [NumericSelector.parse_of_split hcomparison, Double.readLenient_of_givenUp hgiven]
  · rw [hwarned]
    constructor
    · rintro ⟨hgiven, hnumber⟩
      obtain ⟨d, hd⟩ := Double.exists_leading_of_isNumber hnumber
      refine ⟨hnumber, d, hd, ?_⟩
      by_contra hover
      have hfinite := d.isFinite_toDouble.mpr hover
      rw [hgiven d hd] at hfinite
      cases hfinite
    · rintro ⟨hnumber, d, hd, hover⟩
      refine ⟨?_, hnumber⟩
      intro d' hd'
      rw [hd, Option.some.injEq] at hd'
      subst hd'
      rw [Bool.eq_false_iff]
      exact fun hfinite => d.isFinite_toDouble.mp hfinite hover

/-- Bounds that are given up: too large a number with more after it, and too large a number. -/
def givenUpTemplate : Text := ">=-1e999kg#a|>1e999#b|#c".toList

theorem givenUpTemplate_silent_where_overflows :
    Double.GivenUp "-1e999kg".toList ∧
    .unparsableBound 0 ">=-1e999kg".toList ∈ lint givenUpTemplate .standard ∧
    Double.GivenUp "1e999".toList ∧
    .unparsableBound 1 ">1e999".toList ∉ lint givenUpTemplate .standard := by
  have hgiven : Double.GivenUp "-1e999kg".toList := by
    intro d hd
    cases hd
    rfl
  have hweight := (silent_zero_iff_overflows givenUpTemplate .standard 0 ">=-1e999kg#a".toList
    ">=-1e999kg".toList ['a'] "-1e999kg".toList .atLeast rfl rfl rfl).2
  have hplain := (silent_zero_iff_overflows givenUpTemplate .standard 1 ">1e999#b".toList
    ">1e999".toList ['b'] "1e999".toList .greaterThan rfl rfl rfl).2
  have hover : Decimal.Overflows ⟨false, 1, 999⟩ := by
    by_contra h
    exact Bool.false_ne_true ((Decimal.isFinite_toDouble ⟨false, 1, 999⟩).mpr h)
  obtain ⟨hgiven', hsilent⟩ := hplain.mpr ⟨rfl, _, rfl, hover⟩
  refine ⟨hgiven, ?_, hgiven', hsilent⟩
  by_contra hunwarned
  exact Bool.false_ne_true (hweight.mp ⟨hgiven, hunwarned⟩).1

/-- `<1e999#x|#d`, whose bound is a number beyond all finite ones. -/
def hugeTemplate : Text := "<1e999#x|#d".toList

theorem huge_bound_becomes_zero_unwarned :
    (Choices.entries hugeTemplate)[0]? = some "<1e999#x".toList ∧
    Comparison.split "<1e999".toList = some (.lessThan, "1e999".toList) ∧
    NumericSelector.parse "<1e999".toList = .compare .lessThan (Double.zero false) ∧
    lint hugeTemplate .standard = [] := by
  decide +kernel

end ChoiceTemplate

import ChoiceTemplate.Proofs.ComparisonBounds
import ChoiceTemplate.Proofs.IgnoringCase
import ChoiceTemplate.Proofs.Numerals

/-
  The forms of numeric selectors.

    1. A keyword is one of eight words, in lower case (`classify_eq_some_iff`).
    2. `written_parse` says by which of five forms a selector is read, and what the others leave to
       it. Later files split on these forms and do not look into the reader. A selector is written in
       one form only (`parse_eq_iff`).
    3. The numbers of a selector are bounded (`bounded_parse`): a bound is finite, and integers stay
       in their window. No range begins below zero and no single integer is negative, because a minus
       sign cuts a range.
    4. Selectors made of numerals have the forms that one expects (`parse_sign`, `parse_range`), and the
       two keywords that are numerals stand for these numbers (`digitsValue_of_classify`).
-/
namespace ChoiceTemplate

/-! ## Keywords -/

namespace Keyword

/-- The words for a boolean, in lower case. -/
def words (value : Bool) : List Text := if value then trueWords else falseWords

theorem any_equalsIgnoreCase {s : Text} {words : List Text}
    (h : ∀ word ∈ words, Text.lowercase word = word) :
    words.any (equalsIgnoreCase s) = true ↔ Text.lowercase s ∈ words := by
  rw [List.any_eq_true]
  constructor
  · intro hany
    obtain ⟨word, hmem, hequal⟩ := hany
    rw [equalsIgnoreCase_iff, h word hmem] at hequal
    rw [hequal]
    exact hmem
  · intro hmem
    refine ⟨Text.lowercase s, hmem, ?_⟩
    rw [equalsIgnoreCase_iff, Text.lowercase_lowercase]

theorem classify_eq_some_iff {s : Text} {value : Bool} :
    classify s = some value ↔ Text.lowercase s ∈ words value := by
  have htrue : trueWords.any (equalsIgnoreCase s) = true ↔ Text.lowercase s ∈ trueWords :=
    any_equalsIgnoreCase (by decide)
  have hfalse : falseWords.any (equalsIgnoreCase s) = true ↔ Text.lowercase s ∈ falseWords :=
    any_equalsIgnoreCase (by decide)
  have hdisjoint : ∀ word ∈ trueWords, word ∉ falseWords := by decide
  rw [classify]
  split
  · next h =>
    have hmem := htrue.mp h
    cases value <;> simp [words, hmem, hdisjoint _ hmem]
  · next h =>
    have hnot := mt htrue.mpr h
    cases value <;> simp [words, hnot, hfalse]

theorem classify_eq_none_iff {s : Text} :
    classify s = none ↔ ∀ value, Text.lowercase s ∉ words value := by
  simp only [← classify_eq_some_iff, Option.eq_none_iff_forall_ne_some, ne_eq]

end Keyword

/-! ## Forms -/

namespace NumericSelector

/-- The form that a selector is written in. -/
inductive Written (selector : Text) : NumericSelector → Prop
  | default : selector = [] → Written selector .default
  | compare {comparison : Comparison} {bound : Text} :
      Comparison.split selector = some (comparison, bound) →
      Written selector (.compare comparison (Double.readLenient bound))
  | range {first last : Text} : selector ≠ [] → Comparison.split selector = none →
      Text.splitOnce '-' selector = some (first, last) →
      Written selector (.range (Double.readInteger first) (Double.readInteger last))
  | boolean {value : Bool} : selector ≠ [] → Comparison.split selector = none →
      Text.splitOnce '-' selector = none → Keyword.classify selector = some value →
      Written selector (.boolean value)
  | exact : selector ≠ [] → Comparison.split selector = none →
      Text.splitOnce '-' selector = none → Keyword.classify selector = none →
      Written selector (.exact (Double.readInteger selector))

theorem written_parse (selector : Text) : Written selector (parse selector) := by
  unfold parse
  split
  · next hempty => exact .default hempty
  · next hne =>
    split
    · next hsplit => exact .compare hsplit
    · next hsplit =>
      split
      · next hcut => exact .range hne hsplit hcut
      · next hcut =>
        split
        · next hkeyword => exact .boolean hne hsplit hcut hkeyword
        · next hkeyword => exact .exact hne hsplit hcut hkeyword

/-- A selector is written in one form only: the one by which it is read. -/
theorem parse_eq_iff {selector : Text} {form : NumericSelector} :
    parse selector = form ↔ Written selector form := by
  constructor
  · rintro rfl
    exact written_parse selector
  · intro h
    cases h with
    | default hempty => rw [parse, if_pos hempty]
    | compare hsplit => exact parse_of_split hsplit
    | range hne hsplit hcut => rw [parse, if_neg hne, hsplit, hcut]
    | boolean hne hsplit hcut hkeyword => rw [parse, if_neg hne, hsplit, hcut, hkeyword]
    | exact hne hsplit hcut hkeyword => rw [parse, if_neg hne, hsplit, hcut, hkeyword]

/-! ## Bounds of the numbers -/

/-- The numbers of a selector are those that a selector can have. -/
def Bounded : NumericSelector → Prop
  | .default => True
  | .compare _ bound => bound.isFinite = true
  | .range first last =>
    0 ≤ first ∧ first.natAbs ≤ Double.integerLimit ∧ last.natAbs ≤ Double.integerLimit
  | .boolean _ => True
  | .exact value => 0 ≤ value ∧ value.natAbs ≤ Double.integerLimit

/-- What stands before the first minus sign has none, and neither has a selector without a cut. -/
theorem Written.bounded {selector : Text} {form : NumericSelector} (h : Written selector form) :
    form.Bounded := by
  cases h with
  | default _ => trivial
  | compare _ => exact Double.isFinite_readLenient _
  | @range first last _ _ hcut =>
    have hminus : '-' ∉ first := (Text.splitOnce_eq_some.mp hcut).2
    exact ⟨Double.readInteger_nonneg hminus, Double.natAbs_readInteger_le first,
      Double.natAbs_readInteger_le last⟩
  | boolean _ _ _ _ => trivial
  | exact _ _ hcut _ =>
    have hminus : '-' ∉ selector := Text.splitOnce_eq_none.mp hcut
    exact ⟨Double.readInteger_nonneg hminus, Double.natAbs_readInteger_le selector⟩

theorem bounded_parse (selector : Text) : (parse selector).Bounded :=
  (written_parse selector).bounded

end NumericSelector

/-! ## Signs and numerals -/

section
variable {t digits first last : Text}

theorem Comparison.split_of_head (h : ∀ c ∈ t.head?, c ≠ '<' ∧ c ≠ '>') : split t = none := by
  cases t with
  | nil => rfl
  | cons c t =>
    obtain ⟨hless, hgreater⟩ := h c rfl
    have hless' : ¬ '<' = c := Ne.symm hless
    have hgreater' : ¬ '>' = c := Ne.symm hgreater
    simp [split, all, bound?, sign, Text.afterStart?, hless', hgreater']

/-- A sign is read with all that follows it, unless a `=` follows that belongs to the sign. -/
theorem Comparison.split_sign (comparison : Comparison) (hne : t ≠ []) (h : t.head? ≠ some '=') :
    split (comparison.sign ++ t) = some (comparison, t) := by
  obtain ⟨c, t, rfl⟩ := List.exists_cons_of_ne_nil hne
  have hc : ¬ '=' = c := by
    rintro rfl
    exact h rfl
  cases comparison <;> simp [split, all, bound?, sign, Text.afterStart?, hc]

theorem IsNumeral.split_append (h : IsNumeral digits) (rest : Text) :
    Comparison.split (digits ++ rest) = none := by
  apply Comparison.split_of_head
  intro c hc
  have hdigit := h.isDigit_head rest c hc
  exact ⟨ne_of_isDigit hdigit rfl, ne_of_isDigit hdigit rfl⟩

theorem IsNumeral.split_eq_none (h : IsNumeral digits) : Comparison.split digits = none := by
  have := h.split_append []
  rwa [List.append_nil] at this

namespace NumericSelector

theorem parse_sign (comparison : Comparison) (hne : t ≠ []) (h : t.head? ≠ some '=') :
    parse (comparison.sign ++ t) = .compare comparison (Double.readLenient t) :=
  parse_of_split (Comparison.split_sign comparison hne h)

theorem parse_range (hfirst : IsNumeral first) (hlast : IsNumeral last)
    (hfirst' : digitsValue first ≤ Double.integerLimit)
    (hlast' : digitsValue last ≤ Double.integerLimit) :
    parse (first ++ '-' :: last) = .range (digitsValue first) (digitsValue last) := by
  have hne : first ++ '-' :: last ≠ [] := by simp
  have hsplit := hfirst.split_append ('-' :: last)
  have hcut := Text.splitOnce_append (hfirst.not_mem (d := '-') rfl) last
  rw [parse, if_neg hne, hsplit]
  simp only [hcut, Double.readInteger_numeral hfirst hfirst', Double.readInteger_numeral hlast hlast']

end NumericSelector

/-- The keywords that are numbers stand for their own number. -/
theorem IsNumeral.digitsValue_of_classify (h : IsNumeral digits) {value : Bool}
    (hkeyword : Keyword.classify digits = some value) :
    digitsValue digits = if value then 1 else 0 := by
  have hwords : ∀ word ∈ Keyword.words value, IsNumeral word →
      digitsValue word = if value then 1 else 0 := by
    cases value <;> decide
  rw [Keyword.classify_eq_some_iff, Text.lowercase_of_noUpper h.2.noUpper] at hkeyword
  exact hwords digits hkeyword h

end

end ChoiceTemplate

import ChoiceTemplate.Proofs.IntegerReader
import ChoiceTemplate.Proofs.SelectorForms

/-
  The grammar of numeric selectors.

  The forms of a selector overlap: `<5-6` has a sign of comparison and a minus sign, `off-1` begins
  with a keyword and is a range, and `<=` has the sign `<` while `<=-` has the sign `<=`. Here each form
  is described by what stands in the text, with the forms that are tried before it excluded.

    1. A selector compares if it begins with a sign and goes on (`split_eq_none_iff`). A `=` belongs to
       the sign unless nothing would be left for the bound (`split_eq_some_iff`).
    2. The conditions of `Written` are about the cuts of the reader. They become conditions on the text
       (`parse_eq_default_iff` to `parse_eq_exact_iff`), since a form is written in one way only.
    3. The numbers that a reference is compared with are finite (`Bounded.isFinite`), and the integers
       among them are held exactly (`Bounded.isInteger`).
-/
namespace ChoiceTemplate

/-! ## Comparisons -/

namespace Comparison

/-- A text with a sign of comparison and at least one more character. -/
def Begins (s : Text) : Prop := (s.head? = some '<' ∨ s.head? = some '>') ∧ 1 < s.length

instance (s : Text) : Decidable (Begins s) := inferInstanceAs (Decidable (_ ∧ _))

/-- Whether the bound itself is accepted, which a `=` in the sign says. -/
def isInclusive : Comparison → Bool
  | .atMost | .atLeast => true
  | .lessThan | .greaterThan => false

section
variable {s bound : Text} {comparison : Comparison}

theorem bound?_eq_some_iff :
    bound? s comparison = some bound ↔ comparison.sign ++ bound = s ∧ bound ≠ [] := by
  rw [bound?, Option.filter_eq_some_iff, Text.afterStart?_eq_some, decide_eq_true_iff, eq_comm]

/-- A sign is the right one if a `=` that it could take in is taken in. -/
theorem split_eq_some_iff :
    split s = some (comparison, bound) ↔
      comparison.sign ++ bound = s ∧ bound ≠ [] ∧
        (comparison.isInclusive = true ↔ s[1]? = some '=' ∧ 2 < s.length) := by
  constructor
  · intro h
    obtain ⟨found, -, hfound⟩ := List.exists_of_findSome?_eq_some h
    obtain ⟨bound', hbound, heq⟩ := Option.map_eq_some_iff.mp hfound
    cases heq
    obtain ⟨rfl, hne⟩ := bound?_eq_some_iff.mp hbound
    refine ⟨rfl, hne, ?_⟩
    obtain ⟨d, rest, rfl⟩ := List.exists_cons_of_ne_nil hne
    by_cases hd : d = '='
    · subst hd
      cases comparison <;> cases rest <;>
        simp [split, all, bound?, sign, Text.afterStart?, isInclusive] at h ⊢
    · cases comparison <;> simp [sign, isInclusive, hd]
  · intro h
    obtain ⟨rfl, hne, hsign⟩ := h
    obtain ⟨d, rest, rfl⟩ := List.exists_cons_of_ne_nil hne
    by_cases hd : d = '='
    · subst hd
      cases comparison <;> cases rest <;>
        simp [split, all, bound?, sign, Text.afterStart?, isInclusive] at hsign ⊢
    · apply split_sign comparison hne
      simpa using hd

theorem split_eq_none_iff : split s = none ↔ ¬Begins s := by
  constructor
  · intro hsplit hbegins
    obtain ⟨hhead, hlength⟩ := hbegins
    have hbound : ∀ comparison ∈ all, bound? s comparison = none := by
      simpa [split] using hsplit
    have hnonempty : s ≠ [] := by
      intro hempty
      simp [hempty] at hhead
    obtain ⟨c, bound, rfl⟩ := List.exists_cons_of_ne_nil hnonempty
    have hne : bound ≠ [] := by
      intro hempty
      simp [hempty] at hlength
    have hsign : ∀ comparison ∈ all, comparison.sign ≠ [c] := by
      intro comparison hmem hsign
      have hfound := bound?_eq_some_iff.mpr ⟨congrArg (· ++ bound) hsign, hne⟩
      rw [List.singleton_append, hbound comparison hmem] at hfound
      cases hfound
    rcases hhead with hhead | hhead
    · cases hhead
      exact hsign .lessThan (by decide) rfl
    · cases hhead
      exact hsign .greaterThan (by decide) rfl
  · intro hbegins
    cases hsplit : split s with
    | none => rfl
    | some cut =>
      obtain ⟨rfl, hne, -⟩ := split_eq_some_iff.mp hsplit
      exfalso
      apply hbegins
      have hlength := List.length_pos_iff.mpr hne
      obtain ⟨comparison, bound⟩ := cut
      cases comparison <;> simp [Begins, sign] <;> omega

end

end Comparison

/-! ## The forms on the text -/

namespace NumericSelector

/-- The integers that a form holds, as they are written from left to right. -/
def integers : NumericSelector → List Int
  | .range first last => [first, last]
  | .exact value => [value]
  | .default | .compare _ _ | .boolean _ => []

/-- The numbers that a reference is compared with, where a form has any. -/
def numbers : NumericSelector → List Double
  | .compare _ bound => [bound]
  | form => form.integers.map Double.ofInt

section
variable {s : Text} {comparison : Comparison} {n : Double} {first last value : Int} {word : Bool}

theorem parse_eq_default_iff : parse s = .default ↔ s = [] := by
  rw [parse_eq_iff]
  constructor
  · intro h
    cases h with
    | default hempty => exact hempty
  · exact .default

theorem parse_eq_compare_iff :
    parse s = .compare comparison n ↔
      ∃ bound, Comparison.split s = some (comparison, bound) ∧ n = Double.readLenient bound := by
  rw [parse_eq_iff]
  constructor
  · intro h
    cases h with
    | compare hsplit => exact ⟨_, hsplit, rfl⟩
  · intro h
    obtain ⟨bound, hsplit, rfl⟩ := h
    exact .compare hsplit

theorem exists_parse_eq_compare_iff :
    (∃ comparison n, parse s = .compare comparison n) ↔ Comparison.Begins s := by
  rw [← not_iff_not, ← Comparison.split_eq_none_iff]
  simp [parse_eq_compare_iff, Option.eq_none_iff_forall_ne_some]

theorem parse_eq_range_iff :
    parse s = .range first last ↔ ¬Comparison.Begins s ∧ ∃ before after,
      s = before ++ '-' :: after ∧ '-' ∉ before ∧
        first = Double.readInteger before ∧ last = Double.readInteger after := by
  rw [parse_eq_iff, ← Comparison.split_eq_none_iff]
  constructor
  · intro h
    cases h with
    | range hne hsplit hcut =>
      obtain ⟨hs, hminus⟩ := Text.splitOnce_eq_some.mp hcut
      exact ⟨hsplit, _, _, hs, hminus, rfl, rfl⟩
  · intro h
    obtain ⟨hsplit, before, after, hs, hminus, rfl, rfl⟩ := h
    have hne : s ≠ [] := by simp [hs]
    exact .range hne hsplit (Text.splitOnce_eq_some.mpr ⟨hs, hminus⟩)

theorem parse_eq_boolean_iff :
    parse s = .boolean word ↔
      ¬Comparison.Begins s ∧ '-' ∉ s ∧ Text.lowercase s ∈ Keyword.words word := by
  rw [parse_eq_iff, ← Comparison.split_eq_none_iff, ← Text.splitOnce_eq_none,
    ← Keyword.classify_eq_some_iff]
  constructor
  · intro h
    cases h with
    | boolean _ hsplit hcut hkeyword => exact ⟨hsplit, hcut, hkeyword⟩
  · intro h
    obtain ⟨hsplit, hcut, hkeyword⟩ := h
    have hne : s ≠ [] := by
      intro hempty
      rw [hempty] at hkeyword
      cases hkeyword
    exact .boolean hne hsplit hcut hkeyword

theorem parse_eq_exact_iff :
    parse s = .exact value ↔
      s ≠ [] ∧ ¬Comparison.Begins s ∧ '-' ∉ s ∧ (∀ word, Text.lowercase s ∉ Keyword.words word) ∧
        value = Double.readInteger s := by
  rw [parse_eq_iff, ← Comparison.split_eq_none_iff, ← Text.splitOnce_eq_none,
    ← Keyword.classify_eq_none_iff]
  constructor
  · intro h
    cases h with
    | exact hne hsplit hcut hkeyword => exact ⟨hne, hsplit, hcut, hkeyword, rfl⟩
  · intro h
    obtain ⟨hne, hsplit, hcut, hkeyword, rfl⟩ := h
    exact .exact hne hsplit hcut hkeyword

end

/-! ## Their numbers -/

section
variable {form : NumericSelector}

theorem Bounded.natAbs_le (h : form.Bounded) : ∀ i ∈ form.integers, i.natAbs ≤ Double.integerLimit := by
  cases form with
  | range first last => simpa [integers] using h.2
  | exact value => simpa [integers] using h.2
  | default | compare _ _ | boolean _ => simp [integers]

theorem Bounded.head_nonneg (h : form.Bounded) : ∀ i ∈ form.integers.head?, 0 ≤ i := by
  cases form with
  | range first last => simpa [integers] using h.1
  | exact value => simpa [integers] using h.1
  | default | compare _ _ | boolean _ => simp [integers]

theorem Bounded.isInteger (h : form.Bounded) :
    ∀ i ∈ form.integers, (Double.ofInt i).IsInteger i := by
  intro i hi
  exact Double.isInteger_ofInt ((h.natAbs_le i hi).trans Double.integerLimit_le)

theorem Bounded.isFinite (h : form.Bounded) : ∀ n ∈ form.numbers, n.isFinite = true := by
  have hintegers : ∀ n ∈ form.integers.map Double.ofInt, n.isFinite = true := by
    intro n hn
    obtain ⟨i, hi, rfl⟩ := List.mem_map.mp hn
    obtain ⟨size, hsize, -⟩ := h.isInteger i hi
    rw [hsize]
    rfl
  cases form with
  | compare comparison bound => simpa [numbers, Bounded] using h
  | default | range _ _ | boolean _ | exact _ => exact hintegers

end

/-- **Each form is told by what stands in the text.** A selector that is empty has no other form. It
compares if it begins with a sign and goes on, and then its sign and its bound make up the selector,
where the sign takes in a `=` exactly if a third character is left. Otherwise it is a range if a minus
sign stands in it, and the first one cuts it. Otherwise it is one of the keywords in lower case, or a
single integer. All numbers are finite, integers are exact and in the window, and the first integer
is not negative. -/
theorem selectors_are_read_in_order (s : Text) :
    (parse s = .default ↔ s = []) ∧
    ((∃ comparison n, parse s = .compare comparison n) ↔ Comparison.Begins s) ∧
    (∀ comparison bound, Comparison.split s = some (comparison, bound) ↔
      comparison.sign ++ bound = s ∧ bound ≠ [] ∧
        (comparison.isInclusive = true ↔ s[1]? = some '=' ∧ 2 < s.length)) ∧
    (∀ comparison n, parse s = .compare comparison n ↔
      ∃ bound, Comparison.split s = some (comparison, bound) ∧ n = Double.readLenient bound) ∧
    (∀ first last, parse s = .range first last ↔ ¬Comparison.Begins s ∧ ∃ before after,
      s = before ++ '-' :: after ∧ '-' ∉ before ∧
        first = Double.readInteger before ∧ last = Double.readInteger after) ∧
    (∀ word, parse s = .boolean word ↔
      ¬Comparison.Begins s ∧ '-' ∉ s ∧ Text.lowercase s ∈ Keyword.words word) ∧
    (∀ value, parse s = .exact value ↔
      s ≠ [] ∧ ¬Comparison.Begins s ∧ '-' ∉ s ∧ (∀ word, Text.lowercase s ∉ Keyword.words word) ∧
        value = Double.readInteger s) ∧
    (∀ n ∈ (parse s).numbers, n.isFinite = true) ∧
    (∀ i ∈ (parse s).integers, (Double.ofInt i).IsInteger i ∧ i.natAbs ≤ Double.integerLimit) ∧
    ∀ i ∈ (parse s).integers.head?, 0 ≤ i := by
  have hbounded := bounded_parse s
  refine ⟨parse_eq_default_iff, exists_parse_eq_compare_iff, ?_, ?_, ?_, ?_, ?_, ?_, ?_, ?_⟩
  · exact fun _ _ => Comparison.split_eq_some_iff
  · exact fun _ _ => parse_eq_compare_iff
  · exact fun _ _ => parse_eq_range_iff
  · exact fun _ => parse_eq_boolean_iff
  · exact fun _ => parse_eq_exact_iff
  · exact hbounded.isFinite
  · exact fun i hi => ⟨hbounded.isInteger i hi, hbounded.natAbs_le i hi⟩
  · exact hbounded.head_nonneg

/-- Texts that begin as one form and have another. -/
theorem overlapping_forms_in_order :
    parse "<=".toList = .compare .lessThan (Double.readLenient "=".toList) ∧
    parse "<=-".toList = .compare .atMost (Double.readLenient "-".toList) ∧
    parse "<".toList = .exact 0 ∧
    parse "5--3".toList = .range 5 (-3) ∧
    parse "off-1".toList = .range 0 1 ∧
    parse "oFF".toList = .boolean false := by
  refine ⟨?_, ?_, ?_, ?_, ?_, ?_⟩
  · obtain ⟨-, -, hsplit, hcompare, -⟩ := selectors_are_read_in_order "<=".toList
    exact (hcompare _ _).mpr ⟨_, (hsplit _ _).mpr (by decide), rfl⟩
  · obtain ⟨-, -, hsplit, hcompare, -⟩ := selectors_are_read_in_order "<=-".toList
    exact (hcompare _ _).mpr ⟨_, (hsplit _ _).mpr (by decide), rfl⟩
  · obtain ⟨-, -, -, -, -, -, hexact, -⟩ := selectors_are_read_in_order "<".toList
    exact (hexact _).mpr (by decide)
  · obtain ⟨-, -, -, -, hrange, -⟩ := selectors_are_read_in_order "5--3".toList
    exact (hrange _ _).mpr ⟨by decide, ['5'], ['-', '3'], by decide +kernel⟩
  · obtain ⟨-, -, -, -, hrange, -⟩ := selectors_are_read_in_order "off-1".toList
    exact (hrange _ _).mpr ⟨by decide, ['o', 'f', 'f'], ['1'], by decide +kernel⟩
  · obtain ⟨-, -, -, -, -, hboolean, -⟩ := selectors_are_read_in_order "oFF".toList
    exact (hboolean _).mpr (by decide)

end NumericSelector

end ChoiceTemplate

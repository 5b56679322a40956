import ChoiceTemplate.Pattern.Basic
import ChoiceTemplate.Proofs.SelectorGrammar
import ChoiceTemplate.Proofs.Separators
import ChoiceTemplate.Proofs.ShadowedDefaults

/-
  The shape of a report.

  A warning says where it belongs by an index, and most of them quote what stands there. The entries
  are looked at by the loop of linting, while the choices are parsed by another one. Here both are
  brought together:

    1. A warning is about the choice at its index, and what it quotes is the selector of this choice.
       The selector is empty exactly if a default is shadowed (`subject_of_mem_lint`).
    2. The warnings stand in the order of their indices (`pairwise_entryWarnings`), and those with one
       index are the warnings about one entry (`filter_entryWarnings_index`).
    3. About one entry there is one warning as a whole, or at most two about its selector
       (`sorted_warningsAbout`). Of four tests on a selector no more than two succeed: it is a pattern
       or not, and a selector that begins like a comparison is no word (`nearKeyword?_of_split`).
-/
namespace ChoiceTemplate

namespace Warning

/-- What a warning quotes: the entry or the selector that it is about. -/
def quoted? : Warning → Option Text
  | .missingSeparator _ entry => some entry
  | .shadowedDefault _ _ => none
  | .invalidPattern _ selector _ => some selector
  | .uppercasePattern _ selector => some selector
  | .unparsableBound _ selector => some selector
  | .nearKeyword _ selector _ => some selector

/-- Whether a warning is about a selector as a pattern. -/
def isAboutPattern : Warning → Bool
  | .invalidPattern _ _ _ => true
  | .uppercasePattern _ _ => true
  | _ => false

/-- Whether a warning is about a selector that is almost a comparison with a number or almost a
keyword. -/
def isNearMiss : Warning → Bool
  | .unparsableBound _ _ => true
  | .nearKeyword _ _ _ => true
  | _ => false

/-- The forms of the warnings about one entry: one about the entry as a whole, or one at most about its
selector as a pattern and then one at most about what it almost is. -/
inductive Sorted : List Warning → Prop
  | entry {w : Warning} : w.isMissingSeparator = true ∨ w.isShadowedDefault = true → Sorted [w]
  | selector {pattern nearMiss : Option Warning} : (∀ w ∈ pattern, w.isAboutPattern = true) →
      (∀ w ∈ nearMiss, w.isNearMiss = true) → Sorted (pattern.toList ++ nearMiss.toList)

theorem Sorted.nil : Sorted [] := @Sorted.selector none none (by simp) (by simp)

/-- A warning about an entry as a whole stands alone. -/
theorem Sorted.eq_singleton {ws : List Warning} {w : Warning} (h : Sorted ws) (hw : w ∈ ws)
    (hentry : w.isMissingSeparator = true ∨ w.isShadowedDefault = true) : ws = [w] := by
  cases h with
  | entry => rw [List.mem_singleton.mp hw]
  | selector hpattern hnearMiss =>
    rw [List.mem_append, Option.mem_toList, Option.mem_toList] at hw
    -- The kinds exclude each other.
    have hkind : w.isAboutPattern = true ∨ w.isNearMiss = true :=
      hw.imp (hpattern w) (hnearMiss w)
    cases w <;> simp [isMissingSeparator, isShadowedDefault, isAboutPattern, isNearMiss] at hentry hkind

end Warning

namespace Lint

section
variable [PatternEngine] {options : MatchOptions} {w : Warning} {selector entry template : Text}
  {index k : Nat} {previous : Option Nat} {es : List Text}

/-! ## What a warning quotes -/

theorem AboutSelector.quoted? (h : AboutSelector options index selector w) :
    w.quoted? = some selector := by
  cases h <;> rfl

/-- What a warning is about is the selector of the choice at its index, which is empty exactly if the
warning is about a default. -/
theorem subject_of_mem_lint (h : w ∈ lint template options) :
    ∃ s, (Choices.parse template).selectors[w.index]? = some s ∧ (∀ x ∈ w.quoted?, x = s) ∧
      (s = [] ↔ w.isShadowedDefault = true) := by
  obtain ⟨entry, hentry, hconcerns⟩ := concerns_of_mem_lint h
  have hne : entry ≠ [] := Choices.ne_nil_of_mem_entries (List.mem_of_getElem? hentry)
  refine ⟨(Choices.ofEntry entry).selector, ?_, ?_⟩
  · rw [selectors_parse, hentry, Option.map_some]
  · rw [Choices.ofEntry]
    cases hconcerns with
    | missing hsplit => simp [hsplit, Warning.quoted?, Warning.isShadowedDefault, hne]
    | shadowed hsplit => simp [hsplit, Warning.quoted?, Warning.isShadowedDefault]
    | selector hsplit hselector hw =>
      have habout := mem_selectorWarnings.mp hw
      simp [hsplit, habout.quoted?, habout.not_isShadowed, hselector]

theorem index_lt_of_mem_lint (h : w ∈ lint template options) :
    w.index < (Choices.parse template).size := by
  obtain ⟨s, hs, -⟩ := subject_of_mem_lint h
  exact (List.getElem?_eq_some_iff.mp hs).1

/-! ## One index after another -/

theorem index_of_mem_warningsAbout (h : w ∈ warningsAbout options index previous entry) :
    w.index = index :=
  (concerns_of_mem_warningsAbout h).1

theorem le_index_of_mem_entryWarnings (h : w ∈ entryWarnings options index previous es) :
    index ≤ w.index := by
  obtain ⟨k, -, -, hindex, -⟩ := concerns_of_mem_entryWarnings h
  omega

theorem pairwise_entryWarnings (options : MatchOptions) (index : Nat) (previous : Option Nat)
    (es : List Text) :
    (entryWarnings options index previous es).Pairwise fun v w => v.index ≤ w.index := by
  induction es generalizing index previous with
  | nil => exact List.Pairwise.nil
  | cons e es ih =>
    rw [entryWarnings_cons, List.pairwise_append]
    refine ⟨?_, ih (index + 1) _, ?_⟩
    · apply List.pairwise_of_forall_mem_list
      intro v hv w hw
      rw [index_of_mem_warningsAbout hv, index_of_mem_warningsAbout hw]
    · intro v hv w hw
      have hlater := le_index_of_mem_entryWarnings hw
      rw [index_of_mem_warningsAbout hv]
      omega

/-- The warnings with one index are those about one entry. -/
theorem filter_entryWarnings_index (options : MatchOptions) (index : Nat) (previous : Option Nat)
    (hk : es[k]? = some entry) :
    ∃ p, (entryWarnings options index previous es).filter (·.index = index + k) =
      warningsAbout options (index + k) p entry := by
  induction es generalizing index previous k with
  | nil => cases hk
  | cons e es ih =>
    rw [entryWarnings_cons, List.filter_append]
    cases k with
    | zero =>
      cases hk
      refine ⟨previous, ?_⟩
      rw [List.filter_eq_self.mpr, List.filter_eq_nil_iff.mpr, List.append_nil, Nat.add_zero]
      · intro w hw
        have hlater := le_index_of_mem_entryWarnings hw
        simp only [decide_eq_true_eq]
        omega
      · intro w hw
        simp [index_of_mem_warningsAbout hw]
    | succ k =>
      obtain ⟨p, hp⟩ := ih (index + 1) _ hk
      have hindex : index + 1 + k = index + (k + 1) := by omega
      rw [hindex] at hp
      refine ⟨p, ?_⟩
      rw [hp, List.filter_eq_nil_iff.mpr, List.nil_append]
      intro w hw
      rw [index_of_mem_warningsAbout hw]
      simp only [decide_eq_true_eq]
      omega

/-! ## The warnings about one entry -/

omit [PatternEngine] in
/-- A selector that begins like a comparison is no word. -/
theorem nearKeyword?_of_split {cut : Comparison × Text} (h : Comparison.split selector = some cut) :
    nearKeyword? selector = none := by
  obtain ⟨rfl, -, -⟩ := Comparison.split_eq_some_iff.mp h
  have hword : (cut.1.sign ++ cut.2).all Char.isAlpha = false := by
    obtain ⟨comparison, bound⟩ := cut
    cases comparison <;> rfl
  simp [nearKeyword?, hword]

theorem sorted_selectorWarnings (index : Nat) (selector : Text) (options : MatchOptions) :
    Warning.Sorted (selectorWarnings index selector options) := by
  have hpattern : ∀ w ∈ patternWarning? index selector options, w.isAboutPattern = true := by
    intro w hw
    rw [patternWarning?] at hw
    split at hw
    · cases hw; rfl
    · split at hw
      · cases hw; rfl
      · cases hw
  rw [selectorWarnings, List.append_assoc, boundWarning?, keywordWarning?]
  cases hsplit : Comparison.split selector with
  | none =>
    apply Warning.Sorted.selector hpattern
    intro w hw
    obtain ⟨suggestion, -, rfl⟩ := Option.map_eq_some_iff.mp hw
    rfl
  | some cut =>
    obtain ⟨comparison, bound⟩ := cut
    -- What compares is no word, so only the bound is left to warn about.
    rw [nearKeyword?_of_split hsplit, Option.map_none, Option.toList_none, List.append_nil]
    apply Warning.Sorted.selector hpattern
    intro w hw
    simp only at hw
    split at hw
    · cases hw
    · cases hw; rfl

theorem sorted_warningsAbout (options : MatchOptions) (index : Nat) (previous : Option Nat)
    (entry : Text) : Warning.Sorted (warningsAbout options index previous entry) := by
  rw [warningsAbout]
  split
  · exact .entry (.inl rfl)
  · cases previous with
    | none => exact .nil
    | some p => exact .entry (.inr rfl)
  · exact sorted_selectorWarnings index _ options

theorem sorted_lint (template : Text) (options : MatchOptions) (i : Nat) :
    Warning.Sorted ((lint template options).filter (·.index = i)) := by
  cases hentry : (Choices.entries template)[i]? with
  | some entry =>
    obtain ⟨p, hp⟩ := filter_entryWarnings_index options 0 none hentry
    rw [Nat.zero_add] at hp
    rw [lint, hp]
    exact sorted_warningsAbout options i p entry
  | none =>
    have hnone : (lint template options).filter (·.index = i) = [] := by
      rw [List.filter_eq_nil_iff]
      intro w hw hi
      obtain ⟨e, he, -⟩ := concerns_of_mem_lint hw
      rw [of_decide_eq_true hi, hentry] at he
      cases he
    rw [hnone]
    exact .nil

end

end Lint

/-- **Every report is aligned with the choices and sorted.** For all templates and options: the indices
of the warnings never decrease, and each is that of a choice. What a warning quotes is the selector of
this choice, which is empty exactly if the warning is about a shadowed default. A warning about a
missing separator or about a shadowed default is the only one with its index; with any other index
there is at most one about the selector as a pattern, and after it at most one about a bound or a
keyword. -/
theorem reports_are_aligned_and_sorted [PatternEngine] (template : Text) (options : MatchOptions) :
    let c := Choices.parse template
    let report := lint template options
    (report.map Warning.index).Pairwise (· ≤ ·) ∧
    (∀ w ∈ report, w.index < c.size ∧
      (∀ x, w.quoted? = some x → c.selectors[w.index]? = some x) ∧
      (c.selectors[w.index]? = some [] ↔ w.isShadowedDefault = true) ∧
      (w.isMissingSeparator = true ∨ w.isShadowedDefault = true →
        report.filter (·.index = w.index) = [w])) ∧
    ∀ i, Warning.Sorted (report.filter (·.index = i)) := by
  intro c report
  refine ⟨?_, ?_, Lint.sorted_lint template options⟩
  · rw [List.pairwise_map]
    exact Lint.pairwise_entryWarnings options 0 none (Choices.entries template)
  · intro w hw
    obtain ⟨s, hs, hquoted, hempty⟩ := Lint.subject_of_mem_lint hw
    refine ⟨Lint.index_lt_of_mem_lint hw, ?_, ?_, ?_⟩
    · intro x hx
      rw [hs, hquoted x hx]
    · rw [hs, Option.some.injEq, hempty]
    · intro hentry
      have hmem : w ∈ report.filter (·.index = w.index) := List.mem_filter.mpr ⟨hw, by simp⟩
      exact (Lint.sorted_lint template options w.index).eq_singleton hmem hentry

/-- An entry without `#`, two defaults, a selector with two faults and one that is almost a word. -/
def faultyTemplate : Text := "oops|#a|#b|<Ten#c|ture#d".toList

theorem faultyTemplate_report :
    let report := lint faultyTemplate .standard
    report = [.missingSeparator 0 "oops".toList, .shadowedDefault 2 1,
      .uppercasePattern 3 "<Ten".toList, .unparsableBound 3 "<Ten".toList,
      .nearKeyword 4 "ture".toList "true".toList] ∧
    (.shadowedDefault 2 1 ∈ report ∧ report.filter (·.index = 2) = [.shadowedDefault 2 1]) ∧
    Warning.Sorted (report.filter (·.index = 3)) := by
  obtain ⟨-, hmem, hsorted⟩ := reports_are_aligned_and_sorted faultyTemplate .standard
  have hreport : lint faultyTemplate .standard =
      [.missingSeparator 0 "oops".toList, .shadowedDefault 2 1,
        .uppercasePattern 3 "<Ten".toList, .unparsableBound 3 "<Ten".toList,
        .nearKeyword 4 "ture".toList "true".toList] := by decide +kernel
  have hshadowed : .shadowedDefault 2 1 ∈ lint faultyTemplate .standard := by
    rw [hreport]
    decide
  exact ⟨hreport, ⟨hshadowed, (hmem _ hshadowed).2.2.2 (.inr rfl)⟩, hsorted 3⟩

end ChoiceTemplate

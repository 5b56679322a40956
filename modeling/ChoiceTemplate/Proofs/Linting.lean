import ChoiceTemplate.Lint
import ChoiceTemplate.Proofs.Defaults

/-
  Where the warnings about a template come from.

  The entries are looked at from left to right, each with its index. Only one thing is handed on:
  the index of the last entry with an empty selector (`entryWarnings_cons`, `entryWarnings_append`),
  which is how the parsed choices find their default too (`defaultIndex_parse`). So every warning is
  about the entry that it names: one without `#`, one with an empty selector, or one whose selector
  is warned about (`concerns_of_mem_lint`). That entry is the pair at the same index of the parsed
  choices (`selectors_parse`, `aboutSelector_of_mem_lint`). And each entry with a `#` has all the
  warnings that its selector calls for (`mem_lint_of_aboutSelector`).
-/
namespace ChoiceTemplate

namespace Lint

variable [PatternEngine]

/-! ## One entry after another -/

/-- The warnings about one entry. -/
def warningsAbout (options : MatchOptions) (index : Nat) (previous : Option Nat) (entry : Text) :
    List Warning :=
  match Text.splitOnce '#' entry with
  | none => [.missingSeparator index entry]
  | some ([], _) => (previous.map (.shadowedDefault index)).toList
  | some (selector, _) => selectorWarnings index selector options

section
variable (options : MatchOptions) (index : Nat) (previous : Option Nat)

/-- An entry is warned about by itself, and the entries after it are told if it is a default. -/
theorem entryWarnings_cons (entry : Text) (rest : List Text) :
    entryWarnings options index previous (entry :: rest) =
      warningsAbout options index previous entry ++
        entryWarnings options (index + 1)
          (if Choices.hasEmptySelector entry then some index else previous) rest := by
  rw [entryWarnings, warningsAbout, Choices.hasEmptySelector]
  cases Text.splitOnce '#' entry with
  | none => rfl
  | some cut =>
    obtain ⟨selector, text⟩ := cut
    cases selector <;> rfl

/-- What entries are told by those before them is the last default among these. -/
theorem entryWarnings_append (entries more : List Text) :
    entryWarnings options index previous (entries ++ more) =
      entryWarnings options index previous entries ++
        entryWarnings options (index + entries.length)
          ((entries.findIdxs Choices.hasEmptySelector index).getLast?.or previous) more := by
  induction entries generalizing index previous with
  | nil => rfl
  | cons e rest ih =>
    have hlength : index + 1 + rest.length = index + (e :: rest).length := by
      rw [List.length_cons]
      omega
    rw [List.cons_append, entryWarnings_cons, entryWarnings_cons, ih, List.append_assoc, hlength,
      List.findIdxs_cons]
    cases Choices.hasEmptySelector e with
    | false => rfl
    | true => rw [if_pos rfl, if_pos rfl, List.getLast?_cons, Option.some_or, Option.or_some]

end

/-! ## Empty selectors -/

section
variable {options : MatchOptions} {index : Nat} {entry : Text}

theorem warningsAbout_of_not_empty (h : Choices.hasEmptySelector entry = false)
    (p p' : Option Nat) :
    warningsAbout options index p entry = warningsAbout options index p' entry := by
  rw [warningsAbout, warningsAbout]
  split
  · rfl
  · next text hsplit =>
    rw [Choices.hasEmptySelector, hsplit] at h
    cases h
  · rfl

theorem warningsAbout_of_empty (h : Choices.hasEmptySelector entry = true) (p : Option Nat) :
    warningsAbout options index p entry = (p.map (.shadowedDefault index)).toList := by
  rw [warningsAbout]
  split
  · next hsplit =>
    rw [Choices.hasEmptySelector, hsplit] at h
    cases h
  · rfl
  · next selector text hne hsplit =>
    rw [Choices.hasEmptySelector, hsplit] at h
    exact absurd (List.isEmpty_iff.mp h) hne

end

/-! ## What a warning is about -/

/-- What a warning about an entry can be: each kind belongs to one form of entry. -/
inductive Concerns (options : MatchOptions) (entry : Text) : Warning → Prop
  | missing {index : Nat} : Text.splitOnce '#' entry = none →
      Concerns options entry (.missingSeparator index entry)
  | shadowed {index previous : Nat} {text : Text} : Text.splitOnce '#' entry = some ([], text) →
      Concerns options entry (.shadowedDefault index previous)
  | selector {w : Warning} {selector text : Text} :
      Text.splitOnce '#' entry = some (selector, text) → selector ≠ [] →
      w ∈ selectorWarnings w.index selector options → Concerns options entry w

/-- The four warnings about a selector, each with what it is given for. -/
inductive AboutSelector (options : MatchOptions) (index : Nat) (selector : Text) : Warning → Prop
  | invalid {error : PatternEngine.Refusal} : compileSelector selector options = .error error →
      AboutSelector options index selector (.invalidPattern index selector error.message)
  | uppercase {p : PatternEngine.Compiled} : compileSelector selector options = .ok p →
      options.foldCase = false → Keyword.classify selector = none →
      hasUppercaseLiteral selector = true →
      AboutSelector options index selector (.uppercasePattern index selector)
  | bound {comparison : Comparison} {bound : Text} :
      Comparison.split selector = some (comparison, bound) → Double.isNumber bound = false →
      AboutSelector options index selector (.unparsableBound index selector)
  | keyword {suggestion : Text} : nearKeyword? selector = some suggestion →
      AboutSelector options index selector (.nearKeyword index selector suggestion)

section
variable {options : MatchOptions} {w : Warning} {selector entry : Text} {index : Nat}
  {previous : Option Nat} {entries : List Text}

theorem mem_selectorWarnings :
    w ∈ selectorWarnings index selector options ↔ AboutSelector options index selector w := by
  rw [selectorWarnings, List.mem_append, List.mem_append, Option.mem_toList, Option.mem_toList,
    Option.mem_toList]
  constructor
  · rintro ((h | h) | h)
    · rw [patternWarning?] at h
      split at h
      · next error herror =>
        cases h
        exact .invalid herror
      · next p hp =>
        split at h
        · next hcond =>
          cases h
          simp only [Bool.and_eq_true, Bool.not_eq_true', Option.isNone_iff_eq_none] at hcond
          exact .uppercase hp hcond.1.1 hcond.1.2 hcond.2
        · cases h
    · rw [boundWarning?] at h
      split at h
      · next comparison bound hsplit =>
        split at h
        · cases h
        · next hnumber =>
          cases h
          exact .bound hsplit (Bool.eq_false_iff.mpr hnumber)
      · cases h
    · rw [keywordWarning?] at h
      obtain ⟨suggestion, hnear, rfl⟩ := Option.map_eq_some_iff.mp h
      exact .keyword hnear
  · intro h
    cases h with
    | invalid herror => exact Or.inl (Or.inl (by simp [patternWarning?, herror]))
    | uppercase hp hfold hkeyword hupper =>
      exact Or.inl (Or.inl (by simp [patternWarning?, hp, hfold, hkeyword, hupper]))
    | bound hsplit hnumber => exact Or.inl (Or.inr (by simp [boundWarning?, hsplit, hnumber]))
    | keyword hnear => exact Or.inr (by simp [keywordWarning?, hnear])

theorem index_of_mem_selectorWarnings (h : w ∈ selectorWarnings index selector options) :
    w.index = index := by
  cases mem_selectorWarnings.mp h <;> rfl

theorem concerns_of_mem_warningsAbout (h : w ∈ warningsAbout options index previous entry) :
    w.index = index ∧ Concerns options entry w := by
  rw [warningsAbout] at h
  split at h
  · next hsplit =>
    rw [List.mem_singleton.mp h]
    exact ⟨rfl, .missing hsplit⟩
  · next text hsplit =>
    rw [Option.mem_toList] at h
    obtain ⟨p, -, rfl⟩ := Option.map_eq_some_iff.mp h
    exact ⟨rfl, .shadowed hsplit⟩
  · next selector text hne hsplit =>
    have hindex := index_of_mem_selectorWarnings h
    exact ⟨hindex, .selector hsplit hne (hindex ▸ h)⟩

theorem concerns_of_mem_entryWarnings (h : w ∈ entryWarnings options index previous entries) :
    ∃ k entry, entries[k]? = some entry ∧ w.index = index + k ∧ Concerns options entry w := by
  induction entries generalizing index previous with
  | nil => exact absurd h List.not_mem_nil
  | cons entry rest ih =>
    rw [entryWarnings_cons] at h
    rcases List.mem_append.mp h with h | h
    · obtain ⟨hindex, hconcerns⟩ := concerns_of_mem_warningsAbout h
      exact ⟨0, entry, rfl, hindex, hconcerns⟩
    · -- A warning about a later entry counts from the next index.
      obtain ⟨k, e, hk, hindex, hconcerns⟩ := ih h
      exact ⟨k + 1, e, hk, by omega, hconcerns⟩

/-- A warning is about the entry at its index. -/
theorem concerns_of_mem_lint {template : Text} (h : w ∈ lint template options) :
    ∃ entry, (Choices.entries template)[w.index]? = some entry ∧ Concerns options entry w := by
  obtain ⟨k, entry, hk, hindex, hconcerns⟩ := concerns_of_mem_entryWarnings h
  rw [Nat.zero_add] at hindex
  exact ⟨entry, hindex ▸ hk, hconcerns⟩

omit [PatternEngine] in
/-- The choice at the index of an entry is read from that entry. -/
theorem selectors_parse (template : Text) (i : Nat) :
    (Choices.parse template).selectors[i]? =
      (Choices.entries template)[i]?.map fun entry => (Choices.ofEntry entry).selector := by
  rw [Choices.selectors_eq, Choices.items_parse, List.map_map, List.getElem?_map]
  rfl

/-- Whether a warning is about a selector, not about an entry as a whole. -/
def IsAboutSelector : Warning → Prop
  | .missingSeparator _ _ => False
  | .shadowedDefault _ _ => False
  | _ => True

/-- A warning about a selector is about the one that is parsed at its index. -/
theorem aboutSelector_of_mem_lint {template : Text} (h : w ∈ lint template options)
    (habout : IsAboutSelector w) :
    ∃ selector, (Choices.parse template).selectors[w.index]? = some selector ∧ selector ≠ [] ∧
      AboutSelector options w.index selector w := by
  obtain ⟨entry, hentry, hconcerns⟩ := concerns_of_mem_lint h
  cases hconcerns with
  | missing => exact habout.elim
  | shadowed => exact habout.elim
  | @selector _ selector text hsplit hne hw =>
    refine ⟨selector, ?_, hne, mem_selectorWarnings.mp hw⟩
    rw [selectors_parse, hentry, Option.map_some, Choices.ofEntry, hsplit]

/-- An upper-case warning is about a selector that is not empty, that compiles as it is written, and
that has a letter which looks as if it stood for itself. -/
theorem of_uppercasePattern_mem_lint {template : Text}
    (h : .uppercasePattern index selector ∈ lint template options) :
    (Choices.parse template).selectors[index]? = some selector ∧ selector ≠ [] ∧
      options.foldCase = false ∧ hasUppercaseLiteral selector = true ∧
      ∃ p, compileSelector selector options = .ok p := by
  obtain ⟨s, hselector, hne, habout⟩ := aboutSelector_of_mem_lint h trivial
  cases habout with
  | uppercase hp hfold _ hupper => exact ⟨hselector, hne, hfold, hupper, _, hp⟩

/-! ## What is warned about -/

/-- Every entry is looked at, whatever stands before it. -/
theorem mem_entryWarnings {k : Nat} (hk : entries[k]? = some entry)
    (hw : ∀ p, w ∈ warningsAbout options (index + k) p entry) :
    w ∈ entryWarnings options index previous entries := by
  induction entries generalizing index previous k with
  | nil => cases hk
  | cons e rest ih =>
    rw [entryWarnings_cons]
    cases k with
    | zero =>
      cases hk
      exact List.mem_append_left _ (hw previous)
    | succ k =>
      have hindex : index + 1 + k = index + (k + 1) := by omega
      apply List.mem_append_right
      apply ih hk
      intro p
      rw [hindex]
      exact hw p

/-- An entry with a `#` has every warning that its selector calls for, unless the selector is
empty. -/
theorem mem_lint_of_aboutSelector {template text : Text}
    (hentry : (Choices.entries template)[index]? = some entry)
    (hsplit : Text.splitOnce '#' entry = some (selector, text)) (hne : selector ≠ [])
    (h : AboutSelector options index selector w) : w ∈ lint template options := by
  apply mem_entryWarnings hentry
  intro p
  rw [Nat.zero_add, warningsAbout, hsplit]
  cases selector with
  | nil => exact absurd rfl hne
  | cons c selector => exact mem_selectorWarnings.mpr h

end

end Lint

end ChoiceTemplate

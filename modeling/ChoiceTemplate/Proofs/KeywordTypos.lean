import ChoiceTemplate.Proofs.EditTable
import ChoiceTemplate.Proofs.Linting
import ChoiceTemplate.Proofs.SelectorForms

/-
  Which words are taken for misspelled keywords.

    1. Of the edits that make a distance of one, only two leave the length as it is: one letter is
       replaced, or two neighbours are swapped (`distance_eq_one_iff_oneSlip`). A letter that is left
       out here and added there counts as two.
    2. A suggestion is a keyword that was meant, but for such a slip (`Misspells`). Two keywords of one
       length are so far apart that no word is one slip away from both (`Misspells.unique`): this is the
       triangle inequality of the distance.
    3. So the search for a keyword finds the one that was meant, in whatever order it looks at them
       (`nearIn?_eq_some_iff`).
-/
namespace ChoiceTemplate

namespace EditDistance

/-! ## Slips -/

/-- One letter of a text is replaced by another one, or two different neighbours are swapped. -/
inductive OneSlip : Text → Text → Prop
  | replaced (before after : Text) {c d : Char} : c ≠ d →
      OneSlip (before ++ c :: after) (before ++ d :: after)
  | swapped (before after : Text) {c d : Char} : c ≠ d →
      OneSlip (before ++ c :: d :: after) (before ++ d :: c :: after)

section
variable {a b : Text}

theorem OneSlip.cons (c : Char) (h : OneSlip a b) : OneSlip (c :: a) (c :: b) := by
  cases h with
  | replaced before after hne => exact .replaced (c :: before) after hne
  | swapped before after hne => exact .swapped (c :: before) after hne

theorem OneSlip.edit (h : OneSlip a b) : Edit a b := by
  cases h with
  | replaced before after _ => exact (Edit.replace _ _ after).skipAll before
  | swapped before after _ => exact (Edit.swap _ _ after).skipAll before

theorem OneSlip.ne (h : OneSlip a b) : a ≠ b := by
  cases h with
  | replaced before after hne => simpa using hne
  | swapped before after hne => simp [hne]

theorem OneSlip.of_edit (h : Edit a b) (hlength : a.length = b.length) (hne : a ≠ b) :
    OneSlip a b := by
  induction h with
  | insert c t => simp at hlength
  | delete c t => simp at hlength
  | replace c d t =>
    have hcd : c ≠ d := fun h => hne (h ▸ rfl)
    exact .replaced [] t hcd
  | swap c d t =>
    have hcd : c ≠ d := fun h => hne (h ▸ rfl)
    exact .swapped [] t hcd
  | skip c _ ih =>
    apply OneSlip.cons
    apply ih
    · simpa using hlength
    · rintro rfl
      exact hne rfl

/-- Between texts of one length, a distance of one is one slip. -/
theorem distance_eq_one_iff_oneSlip (h : a.length = b.length) : distance a b = 1 ↔ OneSlip a b := by
  rw [distance_eq_one]
  constructor
  · rintro ⟨hedit, hne⟩
    exact .of_edit hedit h hne
  · intro hslip
    exact ⟨hslip.edit, hslip.ne⟩

end

end EditDistance

open EditDistance

/-! ## Misspelled keywords -/

namespace Keyword

/-- All keywords, in the order in which they are tried. -/
def all : List Text := trueWords ++ falseWords

/-- The keywords that can be suggested. -/
def suggestions : List Text := ["true".toList, "yes".toList, "false".toList, "off".toList]

/-- A word that is no keyword, and a keyword that it would be but for one slip. Letter case does not
count. -/
structure Misspells (selector keyword : Text) : Prop where
  three_le_length : 3 ≤ selector.length
  letters : ∀ c ∈ selector, c.isAlpha = true
  unknown : Text.lowercase selector ∉ all
  mem : keyword ∈ suggestions
  length_eq : keyword.length = selector.length
  slip : OneSlip (Text.lowercase selector) keyword

theorem mem_suggestions {keyword : Text} :
    keyword ∈ suggestions ↔ keyword ∈ all ∧ 3 ≤ keyword.length := by
  have hlong : suggestions = all.filter (3 ≤ ·.length) := by decide
  rw [hlong, List.mem_filter, decide_eq_true_eq]

theorem classify_eq_none_iff_not_mem {s : Text} : classify s = none ↔ Text.lowercase s ∉ all := by
  rw [classify_eq_none_iff, all, List.mem_append, not_or]
  constructor
  · intro h
    exact ⟨h true, h false⟩
  · rintro ⟨htrue, hfalse⟩ value
    cases value
    · exact hfalse
    · exact htrue

section
variable {s keyword keyword' : Text}

theorem Misspells.length_lowercase (h : Misspells s keyword) :
    (Text.lowercase s).length = keyword.length := by
  rw [Text.lowercase, List.length_map, h.length_eq]

theorem Misspells.distance_eq_one (h : Misspells s keyword) :
    distance (Text.lowercase s) keyword = 1 :=
  (distance_eq_one_iff_oneSlip h.length_lowercase).mpr h.slip

/-- Keywords of one length that can be suggested are more than two edits apart. -/
theorem suggestions_apart : ∀ k ∈ suggestions, ∀ k' ∈ suggestions, k.length = k'.length →
    distance k k' ≤ 2 → k = k' := by
  decide

/-- No word is one slip away from two keywords. -/
theorem Misspells.unique (h : Misspells s keyword) (h' : Misspells s keyword') :
    keyword = keyword' := by
  have hlength : keyword.length = keyword'.length := h.length_eq.trans h'.length_eq.symm
  have htriangle := distance_triangle keyword (Text.lowercase s) keyword'
  rw [distance_comm keyword (Text.lowercase s), h.distance_eq_one, h'.distance_eq_one] at htriangle
  exact suggestions_apart keyword h.mem keyword' h'.mem hlength htriangle

end

end Keyword

/-! ## The search -/

namespace Lint

open Keyword

/-- The first of some words that a selector is one edit away from, as a keyword is searched for. -/
def nearIn? (words : List Text) (selector : Text) : Option Text :=
  if selector.length < 3 || !selector.all Char.isAlpha || (Keyword.classify selector).isSome then
    none
  else
    let lowered := Text.lowercase selector
    words.find? fun keyword =>
      keyword.length == lowered.length && distance lowered keyword == 1

theorem nearKeyword?_eq (selector : Text) : nearKeyword? selector = nearIn? Keyword.all selector :=
  rfl

section
variable {words : List Text} {s keyword : Text}

/-- The selectors that are searched for: words of three letters or more that are no keywords. -/
theorem unknownWord_iff :
    ¬(s.length < 3 || !s.all Char.isAlpha || (Keyword.classify s).isSome) = true ↔
      3 ≤ s.length ∧ (∀ c ∈ s, c.isAlpha = true) ∧ Text.lowercase s ∉ Keyword.all := by
  rw [← classify_eq_none_iff_not_mem, Bool.not_eq_true, Bool.or_eq_false_iff, Bool.or_eq_false_iff,
    decide_eq_false_iff_not, Nat.not_lt, Bool.not_eq_false', List.all_eq_true,
    Option.isSome_eq_false_iff, Option.isNone_iff_eq_none, and_assoc]

theorem misspells_of_nearIn? (hwords : ∀ k ∈ words, k ∈ Keyword.all)
    (h : nearIn? words s = some keyword) : Misspells s keyword := by
  rw [nearIn?] at h
  split at h
  · cases h
  · next hword =>
    obtain ⟨hlong, hletters, hunknown⟩ := unknownWord_iff.mp hword
    have hfound := List.find?_some h
    simp only [Bool.and_eq_true, beq_iff_eq] at hfound
    obtain ⟨hlength, hdistance⟩ := hfound
    have hlength' : keyword.length = s.length := by
      rw [hlength, Text.lowercase, List.length_map]
    have hmem : keyword ∈ suggestions := by
      rw [mem_suggestions]
      exact ⟨hwords keyword (List.mem_of_find?_eq_some h), by omega⟩
    exact ⟨hlong, hletters, hunknown, hmem, hlength',
      (distance_eq_one_iff_oneSlip hlength.symm).mp hdistance⟩

theorem exists_nearIn? (h : Misspells s keyword) (hmem : keyword ∈ words) :
    ∃ found, nearIn? words s = some found := by
  rw [nearIn?, if_neg (unknownWord_iff.mpr ⟨h.three_le_length, h.letters, h.unknown⟩)]
  apply Option.isSome_iff_exists.mp
  rw [List.find?_isSome]
  exact ⟨keyword, hmem, by simp [h.length_lowercase, h.distance_eq_one]⟩

/-- The search finds the keyword that was meant, in whatever order it looks at the keywords. -/
theorem nearIn?_eq_some_iff (hwords : words.Perm Keyword.all) :
    nearIn? words s = some keyword ↔ Misspells s keyword := by
  have hsound : ∀ k, nearIn? words s = some k → Misspells s k := fun k h =>
    misspells_of_nearIn? (fun _ hk => hwords.mem_iff.mp hk) h
  constructor
  · exact hsound keyword
  · intro h
    have hmem := hwords.mem_iff.mpr (mem_suggestions.mp h.mem).1
    obtain ⟨found, hfound⟩ := exists_nearIn? h hmem
    rw [hfound, (hsound found hfound).unique h]

theorem nearKeyword?_eq_some_iff : nearKeyword? s = some keyword ↔ Misspells s keyword := by
  rw [nearKeyword?_eq, nearIn?_eq_some_iff (List.Perm.refl Keyword.all)]

theorem nearIn?_of_perm (hwords : words.Perm Keyword.all) (s : Text) :
    nearIn? words s = nearKeyword? s := by
  ext keyword
  rw [nearIn?_eq_some_iff hwords, nearKeyword?_eq_some_iff]

end

/-- The entries that are warned about. -/
theorem nearKeyword_mem_lint [PatternEngine] {template s keyword : Text} {options : MatchOptions}
    {i : Nat} :
    .nearKeyword i s keyword ∈ lint template options ↔
      (∃ text, (Choices.entries template)[i]? = some (s ++ '#' :: text)) ∧
      Misspells s keyword := by
  constructor
  · intro h
    obtain ⟨entry, hentry, hconcerns⟩ := concerns_of_mem_lint h
    cases hconcerns with
    | @selector _ selector text hsplit hne hw =>
      cases mem_selectorWarnings.mp hw with
      | keyword hnear =>
        obtain ⟨rfl, -⟩ := Text.splitOnce_eq_some.mp hsplit
        exact ⟨⟨text, hentry⟩, nearKeyword?_eq_some_iff.mp hnear⟩
  · rintro ⟨⟨text, hentry⟩, h⟩
    have hhash : '#' ∉ s := fun hmem => absurd (h.letters '#' hmem) (by decide)
    have hne : s ≠ [] := by
      rintro rfl
      exact absurd h.three_le_length (by decide)
    exact mem_lint_of_aboutSelector hentry (Text.splitOnce_append hhash text) hne
      (.keyword (nearKeyword?_eq_some_iff.mpr h))

end Lint

/-- **The suggested keywords are those that are one slip away.** For all templates and options: a
keyword is suggested for a selector exactly if the selector is followed by a `#`, has three letters or
more and nothing else, is no keyword in any letter case, and would be the keyword but for one letter
that is replaced or two neighbours that are swapped. There is at most one keyword like that, so
the order in which they are tried does not matter. -/
theorem suggestions_are_one_slip_away [PatternEngine] (template : Text) (options : MatchOptions) :
    (∀ i s keyword, .nearKeyword i s keyword ∈ lint template options ↔
      (∃ text, (Choices.entries template)[i]? = some (s ++ '#' :: text)) ∧
      Keyword.Misspells s keyword) ∧
    (∀ s keyword keyword', Keyword.Misspells s keyword → Keyword.Misspells s keyword' →
      keyword = keyword') ∧
    ∀ words : List Text, words.Perm Keyword.all → ∀ s, Lint.nearIn? words s = Lint.nearKeyword? s := by
  refine ⟨?_, ?_, ?_⟩
  · intro i s keyword
    exact Lint.nearKeyword_mem_lint
  · intro s keyword keyword' h h'
    exact h.unique h'
  · intro words hwords s
    exact Lint.nearIn?_of_perm hwords s

/-- A swap, a replaced letter, an upper-case word with a swap, and a letter that is missing. -/
def misspelledTemplate : Text := "ture#a|yep#b|FASLE#c|fals#d".toList

theorem misspelledTemplate_suggestions :
    let report := lint misspelledTemplate .standard
    report = [.nearKeyword 0 "ture".toList "true".toList, .nearKeyword 1 "yep".toList "yes".toList,
      .uppercasePattern 2 "FASLE".toList, .nearKeyword 2 "FASLE".toList "false".toList] ∧
    Keyword.Misspells "FASLE".toList "false".toList ∧
    Lint.nearIn? Keyword.all.reverse "yep".toList = some "yes".toList := by
  obtain ⟨hmem, -, horder⟩ := suggestions_are_one_slip_away misspelledTemplate .standard
  have hreport : lint misspelledTemplate .standard =
      [.nearKeyword 0 "ture".toList "true".toList, .nearKeyword 1 "yep".toList "yes".toList,
        .uppercasePattern 2 "FASLE".toList, .nearKeyword 2 "FASLE".toList "false".toList] := by
    decide +kernel
  have hfalse : .nearKeyword 2 "FASLE".toList "false".toList ∈ lint misspelledTemplate .standard := by
    rw [hreport]
    decide
  refine ⟨hreport, ((hmem _ _ _).mp hfalse).2, ?_⟩
  rw [horder Keyword.all.reverse (List.reverse_perm _)]
  decide

end ChoiceTemplate

import ChoiceTemplate.Pattern.Basic
import ChoiceTemplate.Proofs.Resolution
import ChoiceTemplate.Proofs.Separators

/-
  Selectors that are skipped as patterns.

  For text references the selectors of the parsed choices are compiled, and those that are empty or do
  not compile are left out. Linting never looks at these patterns: it cuts the template again and
  compiles each selector by itself. This file says that both leave out the same selectors.

    1. The indices of the patterns increase (`pairwise_indices`), and an index is among them exactly
       if its selector is not empty and compiles (`mem_compile`, `mem_indices`).
    2. An entry with a `#` is warned about as an invalid pattern exactly if its selector is not
       empty and does not compile, and the warning has the selector and the error
       (`invalidPattern_mem_lint`).
    3. The entry that a text reference selects has a pattern, or it is the default and its selector
       is empty (`selectText_of_selectedIndex`).

  `skipped_selectors_are_those_warned_about` concludes that for entries with a `#` the warnings are
  about the selectors that have no pattern, and never about an entry that is selected.
-/
namespace ChoiceTemplate

namespace PatternSet

/-- The indices of the choices that have a pattern. -/
def indices [PatternEngine] (s : PatternSet) : List Nat := s.patterns.map Prod.fst

section
variable [PatternEngine] {options : MatchOptions} {c : Choices} {i : Nat}
  {p : PatternEngine.Compiled}

/-! ## Which selectors have a pattern -/

theorem pairwise_compileFrom (options : MatchOptions) (index : Nat) (selectors : List Text) :
    ((compileFrom options index selectors).map Prod.fst).Pairwise (· < ·) := by
  induction selectors generalizing index with
  | nil => exact List.Pairwise.nil
  | cons s rest ih =>
    cases hs : selectorPattern? s options with
    | none =>
      rw [compileFrom_cons_none hs]
      exact ih (index + 1)
    | some q =>
      rw [compileFrom_cons_some hs, List.map_cons, List.pairwise_cons]
      refine ⟨?_, ih (index + 1)⟩
      intro j hj
      obtain ⟨⟨j', p⟩, he, rfl⟩ := List.mem_map.mp hj
      obtain ⟨k, x, hk, -⟩ := mem_compileFrom.mp he
      show index < j'
      omega

theorem pairwise_indices (c : Choices) (options : MatchOptions) :
    (compile c options).indices.Pairwise (· < ·) :=
  pairwise_compileFrom options 0 c.selectors

theorem mem_compile :
    (i, p) ∈ (compile c options).patterns ↔
      ∃ s, c.selectors[i]? = some s ∧ s ≠ [] ∧ compileSelector s options = .ok p := by
  rw [compile, mem_compileFrom]
  constructor
  · rintro ⟨k, s, hk, hs, hp⟩
    rw [Nat.zero_add] at hk
    exact ⟨s, hk ▸ hs, selectorPattern?_eq_some.mp hp⟩
  · rintro ⟨s, hs, hp⟩
    exact ⟨i, s, (Nat.zero_add i).symm, hs, selectorPattern?_eq_some.mpr hp⟩

theorem mem_indices :
    i ∈ (compile c options).indices ↔
      ∃ s, c.selectors[i]? = some s ∧ s ≠ [] ∧ ∃ p, compileSelector s options = .ok p := by
  rw [indices, List.mem_map]
  constructor
  · rintro ⟨⟨j, p⟩, he, rfl⟩
    obtain ⟨s, hs, hne, hp⟩ := mem_compile.mp he
    exact ⟨s, hs, hne, p, hp⟩
  · rintro ⟨s, hs, hne, p, hp⟩
    exact ⟨(i, p), mem_compile.mpr ⟨s, hs, hne, hp⟩, rfl⟩

theorem mem_indices_of_findWhole {t : Text} (h : (compile c options).findWhole? t = some i) :
    i ∈ (compile c options).indices := by
  obtain ⟨e, he, rfl⟩ := Option.map_eq_some_iff.mp h
  exact List.mem_map_of_mem (List.mem_of_find?_eq_some he)

end

end PatternSet

/-! ## Which selectors are warned about -/

namespace Lint

section
variable [PatternEngine] {options : MatchOptions} {template entry s m : Text} {i : Nat}

theorem of_invalidPattern_mem_lint (h : .invalidPattern i s m ∈ lint template options) :
    (Choices.parse template).selectors[i]? = some s ∧ s ≠ [] ∧
      ∃ error, compileSelector s options = .error error ∧ m = error.message := by
  obtain ⟨selector, hselector, hne, habout⟩ := aboutSelector_of_mem_lint h trivial
  cases habout with
  | invalid herror => exact ⟨hselector, hne, _, herror, rfl⟩

/-- The warnings about an invalid pattern at an entry with a `#`. -/
theorem invalidPattern_mem_lint (hentry : (Choices.entries template)[i]? = some entry)
    (hhash : '#' ∈ entry) :
    .invalidPattern i s m ∈ lint template options ↔
      (Choices.parse template).selectors[i]? = some s ∧ s ≠ [] ∧
        ∃ error, compileSelector s options = .error error ∧ m = error.message := by
  refine ⟨of_invalidPattern_mem_lint, ?_⟩
  rintro ⟨hselector, hne, error, herror, rfl⟩
  have hsplit := Choices.splitOnce_of_mem hhash
  rw [selectors_parse, hentry, Option.map_some, Option.some.injEq] at hselector
  rw [hselector] at hsplit
  exact mem_lint_of_aboutSelector hentry hsplit hne (.invalid herror)

/-- An entry with a pattern is not warned about. -/
theorem not_invalidPattern_of_mem_indices
    (h : i ∈ (PatternSet.compile (Choices.parse template) options).indices) :
    .invalidPattern i s m ∉ lint template options := by
  intro hw
  obtain ⟨hselector, -, error, herror, -⟩ := of_invalidPattern_mem_lint hw
  obtain ⟨s', hs', -, p, hp⟩ := PatternSet.mem_indices.mp h
  rw [hselector, Option.some.injEq] at hs'
  rw [← hs', herror] at hp
  cases hp

/-- Neither is one with an empty selector. -/
theorem not_invalidPattern_of_empty (h : (Choices.parse template).selectors[i]? = some []) :
    .invalidPattern i s m ∉ lint template options := by
  intro hw
  obtain ⟨hselector, hne, -⟩ := of_invalidPattern_mem_lint hw
  rw [h, Option.some.injEq] at hselector
  exact hne hselector.symm

/-- The entries with a `#` that are warned about are those that are skipped, empty ones aside. -/
theorem exists_invalidPattern_iff (hentry : (Choices.entries template)[i]? = some entry)
    (hhash : '#' ∈ entry) :
    (∃ s m, .invalidPattern i s m ∈ lint template options) ↔
      (Choices.parse template).selectors[i]? ≠ some [] ∧
        i ∉ (PatternSet.compile (Choices.parse template) options).indices := by
  constructor
  · rintro ⟨s, m, hw⟩
    exact ⟨fun hempty => not_invalidPattern_of_empty hempty hw,
      fun hindex => not_invalidPattern_of_mem_indices hindex hw⟩
  · rintro ⟨hempty, hskipped⟩
    have hselector : (Choices.parse template).selectors[i]? =
        some (Choices.ofEntry entry).selector := by
      rw [selectors_parse, hentry, Option.map_some]
    have hne : (Choices.ofEntry entry).selector ≠ [] := by
      intro h
      rw [h] at hselector
      exact hempty hselector
    -- A selector that compiles would have a pattern.
    cases hcompile : compileSelector (Choices.ofEntry entry).selector options with
    | ok p =>
      exact absurd (PatternSet.mem_indices.mpr ⟨_, hselector, hne, p, hcompile⟩) hskipped
    | error error =>
      refine ⟨(Choices.ofEntry entry).selector, error.message, ?_⟩
      rw [invalidPattern_mem_lint hentry hhash]
      exact ⟨hselector, hne, error, hcompile, rfl⟩

end

end Lint

/-! ## Which entry is selected -/

namespace Choices

/-- The index of the choice that a text reference selects: that of the first pattern that matches, or
else of the default. -/
def selectedIndex? [PatternEngine] (c : Choices) (options : MatchOptions) (value : Text) : Option Nat :=
  ((PatternSet.compile c options).findWhole? (Text.lowercase value)).or c.defaultIndex

section
variable [PatternEngine] {c : Choices} {options : MatchOptions} {value : Text} {i : Nat}

theorem selectText_of_selectedIndex (hdefault : c.DefaultInPlace)
    (h : c.selectedIndex? options value = some i) :
    c.texts[i]? = some (c.selectText (PatternSet.compile c options) value) ∧
      (i ∈ (PatternSet.compile c options).indices ∨ c.selectors[i]? = some []) := by
  rw [selectedIndex?] at h
  rw [selectText, texts_eq, selectors_eq, List.getElem?_map, List.getElem?_map]
  cases hfind : (PatternSet.compile c options).findWhole? (Text.lowercase value) with
  | some j =>
    rw [hfind, Option.some_or, Option.some.injEq] at h
    subst h
    obtain ⟨x, hx⟩ := PatternSet.texts_of_findWhole hfind
    rw [texts_eq, List.getElem?_map] at hx
    obtain ⟨item, hitem, -⟩ := Option.map_eq_some_iff.mp hx
    refine ⟨?_, Or.inl (PatternSet.mem_indices_of_findWhole hfind)⟩
    rw [Option.bind_some, hitem]
    rfl
  | none =>
    rw [hfind, Option.none_or] at h
    rw [hdefault i h]
    exact ⟨rfl, Or.inr rfl⟩

/-- **What is skipped is what is warned about.** For every template and all options, the patterns
stand in the order of their choices, and a choice has the pattern that its selector compiles to, and
none if the selector is empty or does not compile. The warnings about an invalid pattern at an entry
with a `#` are those with its selector, if that is not empty, and the error that it does not compile
with; so there is one exactly if the selector is not empty and has no pattern. The entry that a text
reference selects, which has the text that is selected, is never warned about. -/
theorem skipped_selectors_are_those_warned_about (template : Text) (options : MatchOptions) :
    let c := parse template
    let compiled := PatternSet.compile c options
    compiled.indices.Pairwise (· < ·) ∧
    (∀ i p, (i, p) ∈ compiled.patterns ↔
      ∃ s, c.selectors[i]? = some s ∧ s ≠ [] ∧ compileSelector s options = .ok p) ∧
    (∀ i entry, (entries template)[i]? = some entry → '#' ∈ entry →
      (∀ s message, .invalidPattern i s message ∈ lint template options ↔
        c.selectors[i]? = some s ∧ s ≠ [] ∧
          ∃ error, compileSelector s options = .error error ∧ message = error.message) ∧
      ((∃ s message, .invalidPattern i s message ∈ lint template options) ↔
        c.selectors[i]? ≠ some [] ∧ i ∉ compiled.indices)) ∧
    ∀ value i, c.selectedIndex? options value = some i →
      c.texts[i]? = some (c.selectText compiled value) ∧
      ∀ s message, .invalidPattern i s message ∉ lint template options := by
  intro c compiled
  refine ⟨PatternSet.pairwise_indices c options, fun i p => PatternSet.mem_compile, ?_, ?_⟩
  · intro i entry hentry hhash
    exact ⟨fun s message => Lint.invalidPattern_mem_lint hentry hhash,
      Lint.exists_invalidPattern_iff hentry hhash⟩
  · intro value i hi
    have hdefault : c.DefaultInPlace := defaultInPlace_ofList _
    obtain ⟨htext, hpattern⟩ := selectText_of_selectedIndex hdefault hi
    refine ⟨htext, ?_⟩
    intro s message hw
    rcases hpattern with hpattern | hempty
    · exact Lint.not_invalidPattern_of_mem_indices hpattern hw
    · exact Lint.not_invalidPattern_of_empty hempty hw

end

/-- A default, a selector that does not compile, one without `#` that does not either, and one that
compiles. -/
def brokenTemplate : Text := "#d|(#x|)|ok#y".toList

theorem brokenTemplate_skips_what_it_warns_about :
    (entries brokenTemplate)[1]? = some "(#x".toList ∧
    (parse brokenTemplate).selectedIndex? .standard "OK".toList = some 3 ∧
    1 ∉ (PatternSet.compile (parse brokenTemplate) .standard).indices ∧
    (∃ s message, .invalidPattern 1 s message ∈ lint brokenTemplate .standard) ∧
    (parse brokenTemplate).texts[3]? = some ((parse brokenTemplate).selectText
      (PatternSet.compile (parse brokenTemplate) .standard) "OK".toList) ∧
    ∀ s message, .invalidPattern 3 s message ∉ lint brokenTemplate .standard := by
  obtain ⟨-, -, hwarned, hselected⟩ :=
    skipped_selectors_are_those_warned_about brokenTemplate .standard
  have hentry : (entries brokenTemplate)[1]? = some "(#x".toList := rfl
  have hindex : (parse brokenTemplate).selectedIndex? .standard "OK".toList = some 3 := by
    decide +kernel
  have hskipped : 1 ∉ (PatternSet.compile (parse brokenTemplate) .standard).indices := by
    decide +kernel
  have hselector : (parse brokenTemplate).selectors[1]? ≠ some [] := by decide
  have hsome := (hwarned 1 "(#x".toList hentry (by decide)).2.mpr ⟨hselector, hskipped⟩
  exact ⟨hentry, hindex, hskipped, hsome, hselected "OK".toList 3 hindex⟩

end Choices

end ChoiceTemplate

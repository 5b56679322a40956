import ChoiceTemplate.Pattern.Basic
import ChoiceTemplate.Proofs.Linting
import ChoiceTemplate.Proofs.PushedPairs

/-
  Defaults that replace one another.

  Reading a template makes each empty selector the default, so the last one stays. Linting warns where
  an empty selector comes after another one, and names both. They do not look at the same thing:
  reading asks whether the pair that it has pushed has an empty selector, also for an entry without
  `#`, while linting passes over such entries. No entry is empty, so both find the same indices
  (`emptySelectors_parse`). Then

    1. the default is at the last of these indices (`defaultIndex_eq`, `texts_default`);
    2. the warnings are the steps from each of them to the next (`shadowed_entryWarnings`): the loop
       hands on one index, which stands before those that are still to come;
    3. the last step leads to the last index (`getLast?_of_replacements`), which is the default.
-/
namespace ChoiceTemplate

/-- Whether a warning is about a default that replaces another one. -/
def Warning.isShadowedDefault : Warning → Bool
  | .shadowedDefault _ _ => true
  | _ => false

/-- The warnings that each of some indices but the first replaces the one before it. -/
def Warning.replacements (indices : List Nat) : List Warning :=
  (indices.zip indices.tail).map fun step => .shadowedDefault step.2 step.1

namespace Choices

/-- The indices of the pairs with an empty selector, in order. -/
def emptySelectors (c : Choices) : List Nat := c.selectors.findIdxs (· = [])

section
variable {c : Choices} {i : Nat} {t : Text}

/-! ## Empty selectors -/

theorem emptySelectors_eq (c : Choices) : c.emptySelectors = c.items.findIdxs Choice.isDefault := by
  rw [emptySelectors, selectors_eq, List.findIdxs_map]
  rfl

theorem mem_emptySelectors : i ∈ c.emptySelectors ↔ c.selectors[i]? = some [] := by
  simp [emptySelectors, List.getElem?_eq_some_iff]

theorem pairwise_emptySelectors (c : Choices) : c.emptySelectors.Pairwise (· < ·) :=
  List.pairwise_findIdxs

theorem emptySelectors_parse (t : Text) :
    (parse t).emptySelectors = (entries t).findIdxs hasEmptySelector := by
  rw [emptySelectors_eq, items_parse, findIdxs_isDefault fun e he => ne_nil_of_mem_entries he]

theorem defaultIndex_eq (t : Text) : (parse t).defaultIndex = (parse t).emptySelectors.getLast? := by
  rw [defaultIndex_parse, emptySelectors_parse]

theorem texts_default (h : (parse t).defaultIndex = some i) :
    (parse t).texts[i]? = some (parse t).defaultText :=
  (defaultInPlace_ofList ((entries t).map ofEntry)).texts h

theorem defaultText_of_none (h : (parse t).defaultIndex = none) : (parse t).defaultText = [] :=
  (represents_ofList ((entries t).map ofEntry)).text_of_none h

end

end Choices

/-! ## Steps -/

namespace Warning

/-- The steps lead to all indices but the first, in order. -/
theorem map_index_replacements (indices : List Nat) :
    (replacements indices).map index = indices.tail := by
  have hlength : indices.tail.length ≤ indices.length := by simp
  calc (replacements indices).map index
      = (indices.zip indices.tail).map Prod.snd := List.map_map
    _ = indices.tail := List.map_snd_zip hlength

theorem replacements_eq_nil_iff (indices : List Nat) :
    replacements indices = [] ↔ indices.length ≤ 1 := by
  rw [← List.map_eq_nil_iff, map_index_replacements, ← List.length_eq_zero_iff, List.length_tail]
  omega

/-- The last step leads to the last index. -/
theorem getLast?_of_replacements {indices : List Nat} {w : Warning}
    (h : (replacements indices).getLast? = some w) : indices.getLast? = some w.index := by
  have hlast : indices.tail.getLast? = some w.index := by
    rw [← map_index_replacements, List.getLast?_map, h, Option.map_some]
  rw [List.getLast?_tail] at hlast
  split at hlast
  · cases hlast
  · exact hlast

end Warning

namespace Lint

section
variable [PatternEngine] {options : MatchOptions} {w : Warning} {selector entry : Text} {index : Nat}
  {previous : Option Nat} {es : List Text}

theorem AboutSelector.not_isShadowed (h : AboutSelector options index selector w) :
    w.isShadowedDefault = false := by
  cases h <;> rfl

theorem shadowed_warningsAbout_of_not_empty (h : Choices.hasEmptySelector entry = false) :
    (warningsAbout options index previous entry).filter Warning.isShadowedDefault = [] := by
  rw [List.filter_eq_nil_iff]
  intro w hw
  rw [Bool.not_eq_true]
  obtain ⟨-, hconcerns⟩ := concerns_of_mem_warningsAbout hw
  cases hconcerns with
  | missing => rfl
  | shadowed hsplit =>
    rw [Choices.hasEmptySelector, hsplit] at h
    cases h
  | selector _ _ hselector => exact (mem_selectorWarnings.mp hselector).not_isShadowed

/-- What is handed on is the last empty selector before the entries, so the steps go on from it. -/
theorem shadowed_entryWarnings :
    (entryWarnings options index previous es).filter Warning.isShadowedDefault =
      Warning.replacements (previous.toList ++ es.findIdxs Choices.hasEmptySelector index) := by
  induction es generalizing index previous with
  | nil => cases previous <;> rfl
  | cons e es ih =>
    rw [entryWarnings_cons, List.filter_append, ih, List.findIdxs_cons]
    cases he : Choices.hasEmptySelector e with
    | false =>
      rw [shadowed_warningsAbout_of_not_empty he]
      rfl
    | true =>
      rw [warningsAbout_of_empty he]
      cases previous <;> rfl

end

theorem shadowed_lint [PatternEngine] (t : Text) (options : MatchOptions) :
    (lint t options).filter Warning.isShadowedDefault =
      Warning.replacements (Choices.parse t).emptySelectors := by
  rw [lint, shadowed_entryWarnings, Choices.emptySelectors_parse]
  rfl

end Lint

namespace Choices

/-- **The warnings about shadowed defaults lead to the default.** Let `es` be the indices of the pairs
with an empty selector, in order, of any template. Whatever the options are, the warnings about
shadowed defaults are the steps from each of these to the next, in order. The last of them is the
index of the default, and the text there is the default text; without any, there is no default and its
text is empty. So the last such warning, if there is one, is about the default, and there is none
exactly if at most one selector is empty. -/
theorem shadowed_defaults_lead_to_the_default [PatternEngine] (t : Text) (options : MatchOptions) :
    let es := (parse t).emptySelectors
    let shadowed := (lint t options).filter Warning.isShadowedDefault
    (∀ i, i ∈ es ↔ (parse t).selectors[i]? = some []) ∧ es.Pairwise (· < ·) ∧
    shadowed = (es.zip es.tail).map (fun step => .shadowedDefault step.2 step.1) ∧
    (parse t).defaultIndex = es.getLast? ∧
    (match es.getLast? with
      | some last => (parse t).texts[last]? = some (parse t).defaultText
      | none => (parse t).defaultText = []) ∧
    (∀ w, shadowed.getLast? = some w → (parse t).defaultIndex = some w.index) ∧
    (shadowed = [] ↔ es.length ≤ 1) := by
  intro es shadowed
  have hshadowed : shadowed = Warning.replacements es := Lint.shadowed_lint t options
  have hdefault : (parse t).defaultIndex = es.getLast? := defaultIndex_eq t
  refine ⟨fun i => mem_emptySelectors, pairwise_emptySelectors _, hshadowed, hdefault, ?_, ?_, ?_⟩
  · cases hlast : es.getLast? with
    | some last => exact texts_default (hdefault.trans hlast)
    | none => exact defaultText_of_none (hdefault.trans hlast)
  · intro w hw
    rw [hshadowed] at hw
    rw [hdefault, Warning.getLast?_of_replacements hw]
  · rw [hshadowed, Warning.replacements_eq_nil_iff]

/-- Three defaults, among an entry without `#`, one that cleaning empties, and a selector that is empty
once its quotes are gone. -/
def manyDefaults : Text := "#a|word|\",|\"\"#b|1#one|#c".toList

theorem manyDefaults_lead_to_the_last :
    (lint manyDefaults .standard).filter Warning.isShadowedDefault =
      [.shadowedDefault 2 0, .shadowedDefault 4 2] ∧
    (parse manyDefaults).defaultIndex = some 4 ∧ (parse manyDefaults).defaultText = ['c'] := by
  obtain ⟨-, -, hshadowed, hdefault, -⟩ :=
    shadowed_defaults_lead_to_the_default manyDefaults .standard
  exact ⟨hshadowed, hdefault, rfl⟩

end Choices

end ChoiceTemplate

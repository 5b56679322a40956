import ChoiceTemplate.Proofs.Concatenation
import ChoiceTemplate.Proofs.FoldedReading

/-
  Selectors that are put into lower case.

  With `foldCase` every selector is put into lower case as it is written, before it is read as a
  pattern. So a template resolves like the one whose selectors are written in lower case
  (`resolve_foldCase`).

  What that changes depends on the letters. A selector may have no upper-case letter that is seen as
  one, since each stands behind a backslash. If all of these letters are the `U` of a character code in
  braces, the selector in lower case is read as the same pattern (`analyze_lowercase`), and folding
  changes no choice (`choice_of_foldCase`). No other escape with an upper-case letter keeps its meaning
  (`readEscape_lower_ne`); the letters that name a class even turn into their complement: `\D` becomes
  `\d` (`folded_class_chooses_default`).
-/
namespace ChoiceTemplate

/-- A choice with its selector in lower case. -/
def Choice.lowered (i : Choice) : Choice := ⟨Text.lowercase i.selector, i.text⟩

section
variable {limit : Nat} {selector : Text}

theorem accepts_text_foldCase [PatternEngine] (limit : Nat) (selector value : Text) :
    (Reference.text value).accepts ⟨limit, true⟩ selector =
      (Reference.text value).accepts ⟨limit, false⟩ (Text.lowercase selector) := by
  have hnil : (Text.lowercase selector = []) = (selector = []) :=
    propext (by rw [Text.lowercase, List.map_eq_nil_iff])
  simp only [Reference.accepts, ne_eq, hnil]
  rfl

/-- What a selector accepts depends on its text only through what is read from it. -/
theorem accepts_text_of_analyze_eq {s s' : Text} (hnil : s = [] ↔ s' = [])
    (h : Pattern.analyze s = Pattern.analyze s') (limit : Nat) (value : Text) :
    (Reference.text value).accepts ⟨limit, false⟩ s =
      (Reference.text value).accepts ⟨limit, false⟩ s' := by
  cases hs' : Pattern.analyze s' with
  | error fault =>
    have hs := h.trans hs'
    simp [Reference.accepts, compileSelector, PatternEngine.compile, MatchOptions.patternSource,
      Pattern.compile, hs, hs']
  | ok read =>
    obtain ⟨e, captures⟩ := read
    have hs := h.trans hs'
    have hmatches : PatternEngine.Compiled.matchesWhole (⟨s, e⟩ : Pattern) =
        PatternEngine.Compiled.matchesWhole (⟨s', e⟩ : Pattern) := rfl
    cases hfits : Pattern.fits limit e captures <;>
      simp [Reference.accepts, compileSelector, PatternEngine.compile,
        MatchOptions.patternSource, Pattern.compile, hs, hs', hfits, hnil, hmatches]

theorem accepts_text_of_foldsFrom (h : Pattern.FoldsFrom false selector) (limit : Nat)
    (value : Text) :
    (Reference.text value).accepts ⟨limit, true⟩ selector =
      (Reference.text value).accepts ⟨limit, false⟩ selector := by
  have hnil : Text.lowercase selector = [] ↔ selector = [] := by
    rw [Text.lowercase, List.map_eq_nil_iff]
  rw [accepts_text_foldCase]
  exact accepts_text_of_analyze_eq hnil (Pattern.analyze_lowercase h) limit value

end

namespace Choices

/-- Choices resolve like those whose selectors are written in lower case, if the reference accepts
the one selector as it does the other. -/
theorem resolve_map_lowered [PatternEngine] {options options' : MatchOptions} {r : Reference}
    (h : ∀ s, r.accepts options (Text.lowercase s) = r.accepts options' s) (items : List Choice) :
    (ofList (items.map Choice.lowered)).resolve options r = (ofList items).resolve options' r := by
  have hdefault : ∀ i : Choice, i.lowered.isDefault = i.isDefault := by
    intro i
    simp [Choice.isDefault, Choice.lowered, Text.lowercase]
  have haccepted : (ofList (items.map Choice.lowered)).accepted? options r =
      ((ofList items).accepted? options' r).map Choice.lowered := by
    simp only [accepted?, items_ofList, List.find?_map, Function.comp_def, Choice.lowered, h]
  have hlast : lastDefault? (items.map Choice.lowered) =
      (lastDefault? items).map Choice.lowered := by
    simp only [lastDefault?, List.filter_map, Function.comp_def, hdefault, List.getLast?_map]
  rw [resolve_eq, resolve_eq, defaultText_ofList, defaultText_ofList, haccepted, hlast,
    Option.map_map, Option.map_map]
  rfl

/-- **Folding is writing in lower case.** Choices with folded patterns resolve like those whose
selectors are written in lower case, with the size limit and the texts unchanged. -/
theorem resolve_foldCase [PatternEngine] (items : List Choice) (limit : Nat) (value : Text) :
    (ofList items).resolve ⟨limit, true⟩ (.text value) =
      (ofList (items.map Choice.lowered)).resolve ⟨limit, false⟩ (.text value) :=
  (resolve_map_lowered (fun s => (accepts_text_foldCase limit s value).symm) items).symm

end Choices

namespace Message

/-- **Folding changes no choice where the escapes keep their meaning.** If in no selector of a template
an upper-case letter is seen, each of them standing behind a backslash that is not escaped, and if each
of them is the `U` of a character code in braces, then a text reference chooses the same text whether
the selectors are folded or not, whatever the size limit is. -/
theorem choice_of_foldCase (template : Text) (limit : Nat) (value : Text)
    (h : ∀ i ∈ (Choices.parse template).items,
      Lint.hasUppercaseFrom false i.selector = false ∧ Text.UpperOpensCode i.selector) :
    ((ofText template ⟨limit, true⟩).choice? (.text value)).map Message.text =
      ((ofText template ⟨limit, false⟩).choice? (.text value)).map Message.text := by
  have haccepted : (Choices.parse template).accepted? ⟨limit, true⟩ (.text value) =
      (Choices.parse template).accepted? ⟨limit, false⟩ (.text value) :=
    List.find?_congr fun i hi =>
      accepts_text_of_foldsFrom ⟨(h i hi).1, (h i hi).2⟩ limit value
  rw [choice_ofText, choice_ofText, plainChoice, plainChoice, Choices.resolve_eq,
    Choices.resolve_eq, haccepted]
  split <;> rfl

/-- A template with the digit two by its code, a class that begins at a code, and a word. -/
def escapedTemplate : Text := "\\U\x7b32\x7d#y|[\\U\x7b61\x7d-c]+#z|no#n|#d".toList

theorem escapedTemplate_folds :
    (∀ i ∈ (Choices.parse escapedTemplate).items,
      Lint.hasUppercaseFrom false i.selector = false ∧ Text.UpperOpensCode i.selector) ∧
    ((ofText escapedTemplate ⟨MatchOptions.defaultSizeLimit, true⟩).choice? (.text ['2'])).map
      Message.text = some ['y'] ∧
    ((ofText escapedTemplate ⟨MatchOptions.defaultSizeLimit, true⟩).choice? (.text ['B', 'a'])).map
      Message.text = some ['z'] := by
  have h : ∀ i ∈ (Choices.parse escapedTemplate).items,
      Lint.hasUppercaseFrom false i.selector = false ∧ Text.UpperOpensCode i.selector := by decide
  have hdigit : ((ofText escapedTemplate .standard).choice? (.text ['2'])).map Message.text =
      some ['y'] := by decide +kernel
  have hword : ((ofText escapedTemplate .standard).choice? (.text ['B', 'a'])).map Message.text =
      some ['z'] := by decide +kernel
  exact ⟨h, (choice_of_foldCase escapedTemplate _ ['2'] h).trans hdigit,
    (choice_of_foldCase escapedTemplate _ ['B', 'a'] h).trans hword⟩

/-- A template whose first selector is everything but a digit, and in lower case a digit. No upper-case
letter is seen in it, and it is a pattern either way. -/
def classTemplate : Text := "\\D#x|#d".toList

theorem folded_class_chooses_default :
    Lint.hasUppercaseFrom false ['\\', 'D'] = false ∧
    (compileSelector ['\\', 'D'] .standard).isOk = true ∧
    ((ofText classTemplate ⟨MatchOptions.defaultSizeLimit, false⟩).choice? (.text ['a'])).map
      Message.text = some ['x'] ∧
    ((ofText classTemplate ⟨MatchOptions.defaultSizeLimit, true⟩).choice? (.text ['a'])).map
      Message.text = some ['d'] := by
  decide +kernel

end Message

end ChoiceTemplate

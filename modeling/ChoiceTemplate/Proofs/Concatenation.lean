import ChoiceTemplate.Pattern.Basic
import ChoiceTemplate.Proofs.Filling
import ChoiceTemplate.Proofs.Keeping
import ChoiceTemplate.Proofs.Splitting

/-
  Two templates joined by `|`.

  The joined template is read as the choices of the one and then those of the other (`parse_bar`).
  Selectors are tried from the left, so those of the first template come first; defaults replace
  one another, so that of the second template counts where it has one. `choice_of_joined` states
  both for a message with any options and any reference.
-/
namespace ChoiceTemplate

namespace Choices

/-! ## One list of choices after another -/

/-- The choices of `c` and then those of `d`. The default is that of `d`, if `d` has one. -/
def append (c d : Choices) : Choices where
  selectors := c.selectors ++ d.selectors
  texts := c.texts ++ d.texts
  defaultText := if d.defaultIndex.isSome then d.defaultText else c.defaultText
  defaultIndex := (d.defaultIndex.map (c.size + ·)).or c.defaultIndex
  length_texts := by
    rw [List.length_append, List.length_append, c.length_texts, d.length_texts]

section
variable (c d : Choices) (items more : List Choice)

theorem items_append : (c.append d).items = c.items ++ d.items := by
  rw [items, append, List.zip_append c.length_texts.symm, List.map_append]
  rfl

theorem defaultText_append :
    (c.append d).defaultText =
      if d.defaultIndex.isSome then d.defaultText else c.defaultText := rfl

theorem defaultIndex_append :
    (c.append d).defaultIndex = (d.defaultIndex.map (c.size + ·)).or c.defaultIndex := rfl

theorem isSome_defaultIndex_ofList :
    (ofList items).defaultIndex.isSome = (lastDefault? items).isSome := by
  rw [defaultIndex_ofList, lastDefault?, Bool.eq_iff_iff, List.getLast?_isSome,
    List.getLast?_isSome, ne_eq, List.findIdxs_eq_nil_iff, ne_eq, List.filter_eq_nil_iff]
  simp only [Bool.not_eq_true]

theorem pushAll_eq_append : c.pushAll items = c.append (ofList items) := by
  apply ext_items
  · rw [items_pushAll, items_append, items_ofList]
  · rw [defaultText_pushAll, defaultText_append, isSome_defaultIndex_ofList, defaultText_ofList]
    cases lastDefault? items <;> rfl
  · have hsize : (c.size + ·) = (· + c.items.length) := by
      funext j
      rw [length_items, Nat.add_comm, size]
    rw [defaultIndex_pushAll, defaultIndex_append, defaultIndex_ofList, List.findIdxs_start,
      List.getLast?_map, hsize]

theorem ofList_append :
    ofList (items ++ more) = (ofList items).append (ofList more) := by
  rw [← pushAll_eq_append, ofList, ofList, pushAll, List.foldl_append]
  rfl

end

/-! ## One template after another -/

section
variable (t a b : Text)

theorem isSome_defaultIndex_parse :
    (parse t).defaultIndex.isSome = true ↔ [] ∈ (parse t).selectors := by
  rw [← ofList_items_parse, isSome_defaultIndex_ofList, ofList_items_parse, Option.isSome_iff_ne_none,
    ne_eq, lastDefault?_eq_none, Decidable.not_not, selectors_eq]

theorem size_parse : (parse t).size = (entries t).length := by
  rw [size, ← length_items, items_parse, List.length_map]

theorem entries_bar : entries (a ++ '|' :: b) = entries a ++ entries b :=
  Text.split_append_delimiter '|' a b

theorem parse_bar : parse (a ++ '|' :: b) = (parse a).append (parse b) := by
  rw [parse, entries_bar, List.map_append, ofList_append, parse, parse]

theorem items_parse_bar :
    (parse (a ++ '|' :: b)).items = (parse a).items ++ (parse b).items := by
  rw [parse_bar, items_append]

theorem defaultText_parse_bar :
    (parse (a ++ '|' :: b)).defaultText =
      if [] ∈ (parse b).selectors then (parse b).defaultText else (parse a).defaultText := by
  simp only [parse_bar, defaultText_append, isSome_defaultIndex_parse]

theorem accepted_parse_bar [PatternEngine] (options : MatchOptions) (r : Reference) :
    (parse (a ++ '|' :: b)).accepted? options r =
      ((parse a).accepted? options r).or ((parse b).accepted? options r) := by
  rw [accepted?, items_parse_bar, List.find?_append]
  rfl

/-- Without an empty selector the default text is empty. -/
theorem defaultText_parse_or :
    (parse a).defaultText = if [] ∈ (parse a).selectors then (parse a).defaultText else [] := by
  split
  · rfl
  · next h =>
    rw [selectors_eq] at h
    rw [defaultText_parse, (lastDefault?_eq_none _).mpr h]
    rfl

end

end Choices

namespace Message

/-- A fresh message resolves its own choices. -/
theorem choice_ofText [PatternEngine] (text : Text) (options : MatchOptions) (r : Reference) :
    (ofText text options).choice? r = plainChoice text options r :=
  choiceKept_answer (coherent_ofText text options) r

/-- Whether the template is empty or not, what a reference selects is filled. -/
theorem formatChoice_ofText [PatternEngine] (text : Text) (options : MatchOptions) (r : Reference)
    (values : Values) :
    (ofText text options).formatChoice r values =
      fill ((Choices.parse text).resolve options r) values := by
  rw [formatChoice, formatChoiceKept_eq, choiceKept_answer (coherent_ofText text options), plainChoice]
  by_cases htext : text = []
  · rw [if_pos htext, htext, Choices.resolve_parse_nil, fill_nil]
    rfl
  · rw [if_neg htext, plainFormat]
    split
    · next hempty => rw [fill_of_isEmpty hempty]; rfl
    · rfl

/-- **First match from the left, last default from the right.** A reference chooses from two
templates joined by `|`, whatever they are: the text of the first selector of the first template
that it accepts; failing that, of the second template; failing that, the default of the second
template if it has an empty selector, and else that of the first, which is empty where the first
has no empty selector either. -/
theorem choice_of_joined [PatternEngine] (a b : Text) (options : MatchOptions) (r : Reference) :
    (ofText (a ++ '|' :: b) options).choice? r = some (ofText
      (match (Choices.parse a).accepted? options r, (Choices.parse b).accepted? options r with
        | some i, _ => i.text
        | none, some i => i.text
        | none, none =>
          if [] ∈ (Choices.parse b).selectors then (Choices.parse b).defaultText
          else if [] ∈ (Choices.parse a).selectors then (Choices.parse a).defaultText
          else []) options) := by
  have hne : a ++ '|' :: b ≠ [] := by simp
  rw [choice_ofText, plainChoice, if_neg hne, Choices.resolve_eq, Choices.accepted_parse_bar,
    Choices.defaultText_parse_bar, ← Choices.defaultText_parse_or a]
  cases (Choices.parse a).accepted? options r with
  | some i => rfl
  | none => cases (Choices.parse b).accepted? options r <;> rfl

example : (ofText "#first|no#N|#second".toList .standard).choice? (.boolean true) =
    some (ofText "second".toList .standard) := by rfl

end Message

end ChoiceTemplate

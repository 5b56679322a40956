import ChoiceTemplate.Proofs.Splitting
import ChoiceTemplate.Choices
import Mathlib.Data.List.Basic

/-
  What pushing pairs one after another leaves.

  Selectors and texts are as many, so they are the two halves of the pairs (`selectors_eq`, `texts_eq`).
  The pairs are kept in order (`items_pushAll`), and of the pairs with an empty selector the last
  one gives the default text and its index, whatever was the default before
  (`defaultText_pushAll`, `defaultIndex_pushAll`). These say what the choices of a list are, so
  later files need neither `push` nor the fold over it. Text and index always belong together
  (`defaultInPlace_ofList`).
-/
namespace ChoiceTemplate

/-- The last element that passes is the first one only if no later one passes. -/
theorem getLast?_filter_cons {α : Type} (p : α → Bool) (x : α) (xs : List α) :
    ((x :: xs).filter p).getLast? = ((xs.filter p).getLast?).or (if p x then some x else none) := by
  cases h : p x
  · simp [h]
  · rw [List.filter_cons_of_pos h, List.getLast?_cons]
    cases (xs.filter p).getLast? <;> rfl

/-- Whether a pair has an empty selector. -/
def Choice.isDefault (i : Choice) : Bool := i.selector = []

namespace Choices

/-- The last of some pairs that has an empty selector. -/
def lastDefault? (items : List Choice) : Option Choice :=
  (items.filter Choice.isDefault).getLast?

section
variable (c : Choices) (items : List Choice) (i : Choice)

/-! ## Selectors and texts as pairs -/

theorem selectors_eq : c.selectors = c.items.map Choice.selector := by
  have hzip := List.map_fst_zip (Nat.le_of_eq c.length_texts.symm)
  rw [items, List.map_map]
  exact hzip.symm

theorem texts_eq : c.texts = c.items.map Choice.text := by
  have hzip := List.map_snd_zip (Nat.le_of_eq c.length_texts)
  rw [items, List.map_map]
  exact hzip.symm

theorem length_items : c.items.length = c.selectors.length := by
  rw [selectors_eq, List.length_map]

theorem selector_mem_of_mem_items {c : Choices} {i : Choice} (h : i ∈ c.items) :
    i.selector ∈ c.selectors := by
  rw [selectors_eq]
  exact List.mem_map_of_mem h

/-- Choices are their pairs and their default. -/
theorem ext_items {c d : Choices} (hitems : c.items = d.items)
    (htext : c.defaultText = d.defaultText) (hindex : c.defaultIndex = d.defaultIndex) : c = d := by
  have hselectors : c.selectors = d.selectors := by rw [selectors_eq, selectors_eq, hitems]
  have htexts : c.texts = d.texts := by rw [texts_eq, texts_eq, hitems]
  cases c
  cases d
  cases hselectors
  cases htexts
  cases htext
  cases hindex
  rfl

/-! ## One push -/

theorem items_push : (c.push i.selector i.text).items = c.items ++ [i] := by
  rw [items, push, List.zip_append c.length_texts.symm, List.map_append]
  rfl

theorem defaultText_push :
    (c.push i.selector i.text).defaultText = if i.isDefault then i.text else c.defaultText := by
  by_cases h : i.selector = [] <;> simp [push, Choice.isDefault, h]

theorem defaultIndex_push :
    (c.push i.selector i.text).defaultIndex =
      if i.isDefault then some c.items.length else c.defaultIndex := by
  by_cases h : i.selector = [] <;> simp [push, Choice.isDefault, h, length_items]

/-! ## Lists of pairs -/

theorem pushAll_cons : c.pushAll (i :: items) = (c.push i.selector i.text).pushAll items := rfl

theorem lastDefault?_cons :
    lastDefault? (i :: items) = (lastDefault? items).or (if i.isDefault then some i else none) :=
  getLast?_filter_cons Choice.isDefault i items

theorem lastDefault?_eq_none : lastDefault? items = none ↔ [] ∉ items.map Choice.selector := by
  simp [lastDefault?, Choice.isDefault]

theorem items_pushAll : (c.pushAll items).items = c.items ++ items := by
  induction items generalizing c with
  | nil => exact (List.append_nil c.items).symm
  | cons i items ih => rw [pushAll_cons, ih, items_push, List.append_assoc]; rfl

theorem defaultText_pushAll :
    (c.pushAll items).defaultText = ((lastDefault? items).map Choice.text).getD c.defaultText := by
  induction items generalizing c with
  | nil => rfl
  | cons i items ih =>
    rw [pushAll_cons, ih, lastDefault?_cons, defaultText_push]
    cases lastDefault? items with
    | some d => rfl
    | none => cases i.isDefault <;> rfl

theorem defaultIndex_pushAll :
    (c.pushAll items).defaultIndex =
      (items.findIdxs Choice.isDefault c.items.length).getLast?.or c.defaultIndex := by
  induction items generalizing c with
  | nil => rfl
  | cons i items ih =>
    have hlength : (c.push i.selector i.text).items.length = c.items.length + 1 := by
      rw [items_push, List.length_append]
      rfl
    rw [pushAll_cons, ih, hlength, defaultIndex_push, List.findIdxs_cons]
    cases i.isDefault with
    | false => rfl
    | true =>
      -- A default counts unless another one comes after it.
      rw [if_pos rfl, if_pos rfl, List.getLast?_cons, Option.some_or, Option.or_some]

@[simp] theorem items_ofList : (ofList items).items = items := items_pushAll empty items

theorem defaultText_ofList :
    (ofList items).defaultText = ((lastDefault? items).map Choice.text).getD [] :=
  defaultText_pushAll empty items

theorem defaultIndex_ofList :
    (ofList items).defaultIndex = (items.findIdxs Choice.isDefault).getLast? := by
  rw [ofList, defaultIndex_pushAll]
  exact Option.or_none

end

/-! ## Where the default stands -/

/-- The default text is that of the pair at the default's index, whose selector is empty. -/
def DefaultInPlace (c : Choices) : Prop :=
  ∀ i, c.defaultIndex = some i → c.items[i]? = some ⟨[], c.defaultText⟩

theorem DefaultInPlace.selectors {c : Choices} (h : c.DefaultInPlace) {i : Nat}
    (hi : c.defaultIndex = some i) : c.selectors[i]? = some [] := by
  rw [selectors_eq, List.getElem?_map, h i hi, Option.map_some]

theorem DefaultInPlace.texts {c : Choices} (h : c.DefaultInPlace) {i : Nat}
    (hi : c.defaultIndex = some i) : c.texts[i]? = some c.defaultText := by
  rw [texts_eq, List.getElem?_map, h i hi, Option.map_some]

theorem defaultInPlace_empty : empty.DefaultInPlace := by
  intro i hi
  simp [empty] at hi

theorem defaultInPlace_push {c : Choices} (h : c.DefaultInPlace) (i : Choice) :
    (c.push i.selector i.text).DefaultInPlace := by
  intro k hk
  rw [defaultIndex_push] at hk
  rw [items_push, defaultText_push]
  cases hdefault : i.isDefault with
  | true =>
    rw [hdefault, if_pos rfl, Option.some.injEq] at hk
    subst hk
    have hi : i = ⟨[], i.text⟩ := by
      rw [← of_decide_eq_true hdefault]
    rw [List.getElem?_concat_length, if_pos rfl, ← hi]
  | false =>
    -- An earlier default stays where it is.
    rw [hdefault, if_neg Bool.false_ne_true] at hk
    have hitem := h k hk
    obtain ⟨hlt, -⟩ := List.getElem?_eq_some_iff.mp hitem
    rw [List.getElem?_append_left hlt, hitem, if_neg Bool.false_ne_true]

theorem defaultInPlace_pushAll {c : Choices} (h : c.DefaultInPlace) (items : List Choice) :
    (c.pushAll items).DefaultInPlace := by
  induction items generalizing c with
  | nil => exact h
  | cons i items ih => exact ih (defaultInPlace_push h i)

theorem defaultInPlace_ofList (items : List Choice) : (ofList items).DefaultInPlace :=
  defaultInPlace_pushAll defaultInPlace_empty items

/-! ## Templates -/

/-- Whether nothing stands before the `#` of an entry. -/
def hasEmptySelector (entry : Text) : Bool :=
  (Text.splitOnce '#' entry).any fun cut => cut.1.isEmpty

/-- An entry that is not empty gives a default exactly if nothing stands before its `#`. -/
theorem isDefault_ofEntry {entry : Text} (h : entry ≠ []) :
    (ofEntry entry).isDefault = hasEmptySelector entry := by
  rw [ofEntry, hasEmptySelector]
  cases Text.splitOnce '#' entry with
  | none => simp [Choice.isDefault, h]
  | some cut => simp [Choice.isDefault, ← List.isEmpty_iff]

theorem findIdxs_isDefault {es : List Text} (h : ∀ e ∈ es, e ≠ []) (index : Nat) :
    (es.map ofEntry).findIdxs Choice.isDefault index = es.findIdxs hasEmptySelector index := by
  induction es generalizing index with
  | nil => rfl
  | cons e es ih =>
    have hes := ih (fun x hx => h x (List.mem_cons_of_mem e hx)) (index + 1)
    rw [List.map_cons, List.findIdxs_cons, List.findIdxs_cons, hes,
      isDefault_ofEntry (h e List.mem_cons_self)]

theorem ne_nil_of_mem_entries {t e : Text} (h : e ∈ entries t) : e ≠ [] := (Text.of_mem_split h).1

theorem items_parse (t : Text) : (parse t).items = (entries t).map ofEntry := by
  rw [parse, items_ofList]

/-- Parsed choices are what their own pairs push. -/
theorem ofList_items_parse (t : Text) : ofList (parse t).items = parse t := by
  rw [parse, items_ofList]

theorem defaultText_parse (t : Text) :
    (parse t).defaultText = ((lastDefault? (parse t).items).map Choice.text).getD [] := by
  rw [parse, defaultText_ofList, items_ofList]

/-- The default of a template is that of its last entry with an empty selector. -/
theorem defaultIndex_parse (t : Text) :
    (parse t).defaultIndex = ((entries t).findIdxs hasEmptySelector).getLast? := by
  rw [parse, defaultIndex_ofList, findIdxs_isDefault fun e he => ne_nil_of_mem_entries he]

end Choices

end ChoiceTemplate

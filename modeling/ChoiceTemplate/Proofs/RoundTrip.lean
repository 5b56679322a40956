import ChoiceTemplate.Proofs.Defaults
import ChoiceTemplate.Proofs.Splitting

/-
  Pairs written as a template and read back.

  A pair is writable if none of the delimiters that reading takes out is in it (`Writable`); its
  text may still contain `#` and end with commas, and both of its parts may be empty.

    1. `entries_render`: a template of writable pairs has one entry for each of them, because the
       comma that is written at its end is the one that cleaning takes off, and the `#` keeps the
       entry from being empty.
    2. `parse_render`, `parseStrict_render`: so both readings give back what was written.
    3. `writable_of_mem_parse`: conversely every template is read as writable pairs.

  `writable_pairs_are_the_image` puts them together: writable pairs are exactly what templates
  hold, and each template reads like the one that its own pairs are written as.
-/
namespace ChoiceTemplate

/-- None of the delimiters that reading takes out is left in the pair. -/
structure Choice.Writable (i : Choice) : Prop where
  hash_selector : '#' ∉ i.selector
  bar_selector : '|' ∉ i.selector
  quote_selector : '"' ∉ i.selector
  bar_text : '|' ∉ i.text
  quote_text : '"' ∉ i.text

/-- The pair as a cleaned entry. -/
def Choice.entry (i : Choice) : Text := i.selector ++ '#' :: i.text

namespace Choices

/-! ## Reading what was written -/

section
variable {i : Choice} {items : List Choice}

theorem renderChoice_eq (i : Choice) : renderChoice i = i.entry ++ [','] := rfl

theorem entry_ne_nil (i : Choice) : i.entry ≠ [] := by simp [Choice.entry]

theorem not_mem_entry {c : Char} (hs : c ∉ i.selector) (hc : c ≠ '#') (ht : c ∉ i.text) :
    c ∉ i.entry := by
  rw [Choice.entry, List.mem_append, List.mem_cons]
  rintro (h | h | h)
  · exact hs h
  · exact hc h
  · exact ht h

theorem entries_render (h : ∀ i ∈ items, i.Writable) :
    entries (render items) = items.map Choice.entry := by
  have hbar : ∀ p ∈ items.map renderChoice, '|' ∉ p := by
    intro p hp
    obtain ⟨i, hi, rfl⟩ := List.mem_map.mp hp
    rw [renderChoice_eq, List.mem_append, List.mem_singleton]
    rintro (hm | hm)
    · exact not_mem_entry (h i hi).bar_selector (by decide) (h i hi).bar_text hm
    · exact absurd hm (by decide)
  have hquote : ∀ e ∈ items.map Choice.entry, '"' ∉ e := by
    intro e he
    obtain ⟨i, hi, rfl⟩ := List.mem_map.mp he
    exact not_mem_entry (h i hi).quote_selector (by decide) (h i hi).quote_text
  have hne : ∀ e ∈ items.map Choice.entry, decide (e ≠ []) = true := by
    intro e he
    obtain ⟨i, -, rfl⟩ := List.mem_map.mp he
    exact decide_eq_true (entry_ne_nil i)
  -- What cleaning takes off is the comma that was written; a comma that ends the text stays.
  have hcommas : items.map renderChoice = (items.map Choice.entry).map (· ++ [',']) := by
    rw [List.map_map]; rfl
  calc entries (render items) = Text.cleanAll (items.map renderChoice) := Text.split_join hbar
    _ = (items.map Choice.entry).filter (· ≠ []) := by rw [hcommas, Text.cleanAll_commas hquote]
    _ = items.map Choice.entry := List.filter_eq_self.mpr hne

theorem splitOnce_entry (h : i.Writable) :
    Text.splitOnce '#' i.entry = some (i.selector, i.text) :=
  Text.splitOnce_append h.hash_selector i.text

theorem ofEntry_entry (h : i.Writable) : ofEntry i.entry = i := by
  rw [ofEntry, splitOnce_entry h]

theorem map_ofEntry_entry (h : ∀ i ∈ items, i.Writable) :
    (items.map Choice.entry).map ofEntry = items := by
  rw [List.map_map]
  exact (List.map_congr_left fun i hi => ofEntry_entry (h i hi)).trans (List.map_id items)

theorem pairs?_map_entry (h : ∀ i ∈ items, i.Writable) (index : Nat) :
    pairs? index (items.map Choice.entry) = .ok items := by
  induction items generalizing index with
  | nil => rfl
  | cons i items ih =>
    have hrest := ih (fun j hj => h j (List.mem_cons_of_mem i hj)) (index + 1)
    rw [List.map_cons, pairs?, splitOnce_entry (h i List.mem_cons_self)]
    simp only [hrest]
    rfl

theorem parse_render (h : ∀ i ∈ items, i.Writable) : parse (render items) = ofList items := by
  rw [parse, entries_render h, map_ofEntry_entry h]

theorem parseStrict_render (h : ∀ i ∈ items, i.Writable) :
    parseStrict (render items) = .ok (ofList items) := by
  rw [parseStrict, entries_render h, pairs?_map_entry h]
  rfl

end

/-! ## Reading any template -/

/-- Without a `#` an entry is a selector; otherwise it is its pair written as an entry. -/
theorem ofEntry_cases (e : Text) :
    ('#' ∉ e ∧ ofEntry e = ⟨e, []⟩) ∨ ('#' ∉ (ofEntry e).selector ∧ (ofEntry e).entry = e) := by
  rw [ofEntry]
  cases hs : Text.splitOnce '#' e with
  | none => exact .inl ⟨Text.splitOnce_eq_none.mp hs, rfl⟩
  | some cut =>
    obtain ⟨selector, text⟩ := cut
    obtain ⟨rfl, hhash⟩ := Text.splitOnce_eq_some.mp hs
    exact .inr ⟨hhash, rfl⟩

/-- An entry is cut at its first `#`, so its selector has none, and it loses nothing else. -/
theorem writable_ofEntry {e : Text} (hbar : '|' ∉ e) (hquote : '"' ∉ e) :
    (ofEntry e).Writable := by
  rcases ofEntry_cases e with ⟨hhash, he⟩ | ⟨hhash, he⟩
  · rw [he]
    exact ⟨hhash, hbar, hquote, List.not_mem_nil, List.not_mem_nil⟩
  · generalize ofEntry e = i at hhash he ⊢
    subst he
    have in_selector {c : Char} (h : c ∉ i.entry) : c ∉ i.selector :=
      fun hc => h (List.mem_append_left _ hc)
    have in_text {c : Char} (h : c ∉ i.entry) : c ∉ i.text :=
      fun hc => h (List.mem_append_right _ (List.mem_cons_of_mem _ hc))
    exact ⟨hhash, in_selector hbar, in_selector hquote, in_text hbar, in_text hquote⟩

theorem writable_of_mem_parse {t : Text} {i : Choice} (h : i ∈ (parse t).items) : i.Writable := by
  rw [parse, items_ofList] at h
  obtain ⟨e, he, rfl⟩ := List.mem_map.mp h
  obtain ⟨-, hbar, hquote⟩ := Text.of_mem_split he
  exact writable_ofEntry hbar hquote

/-- **Writable pairs are exactly what templates hold.** Writing any writable pairs and reading
them, leniently or strictly, gives the choices that consist of them; and every template is read as
writable pairs, so writing these and reading again changes nothing. -/
theorem writable_pairs_are_the_image :
    (∀ items : List Choice, (∀ i ∈ items, i.Writable) →
      parse (render items) = ofList items ∧ parseStrict (render items) = .ok (ofList items)) ∧
    ∀ t : Text, (∀ i ∈ (parse t).items, i.Writable) ∧
      parse (render (parse t).items) = parse t := by
  refine ⟨?_, ?_⟩
  · intro items h
    exact ⟨parse_render h, parseStrict_render h⟩
  · intro t
    have h : ∀ i ∈ (parse t).items, i.Writable := fun i hi => writable_of_mem_parse hi
    refine ⟨h, ?_⟩
    rw [parse_render h, ofList_items_parse]

/-- An empty pair, a text with `#` and two final commas, and a second default. -/
def awkwardPairs : List Choice := [⟨[], []⟩, ⟨['a'], ['#', ',', ',']⟩, ⟨[], ['#']⟩]

theorem awkwardPairs_read_back :
    (∀ i ∈ awkwardPairs, i.Writable) ∧ parse (render awkwardPairs) = ofList awkwardPairs ∧
      parseStrict (render awkwardPairs) = .ok (ofList awkwardPairs) := by
  have h : ∀ i ∈ awkwardPairs, i.Writable := by
    simp only [awkwardPairs, List.forall_mem_cons]
    refine ⟨?_, ?_, ?_, by simp⟩ <;> constructor <;> decide
  exact ⟨h, writable_pairs_are_the_image.1 awkwardPairs h⟩

end Choices

end ChoiceTemplate

import ChoiceTemplate.Pattern.Basic
import ChoiceTemplate.Proofs.Linting

/-
  Entries without a `#`.

  Three loops go over the entries of a template. Lenient reading takes an entry without `#` for a
  selector with an empty text, strict reading stops at the first such entry, and linting warns about
  each of them. All three count the same entries: those that are left once quotes and a comma are
  taken off and what becomes empty is dropped. This file

    1. lists the entries without `#`, each with its index (`unseparated`);
    2. says that strict reading fails at the head of this list, and without a head reads like
       lenient reading (`pairs?_eq`, `parseStrict_eq`);
    3. says that the warnings about missing separators are this list, in its order
       (`filter_entryWarnings`).

  `readings_agree_on_separators` concludes that the three agree about which entries lack a `#`, and
  about the first of them.
-/
namespace ChoiceTemplate

/-- Whether a warning is about an entry without `#`. -/
def Warning.isMissingSeparator : Warning → Bool
  | .missingSeparator _ _ => true
  | _ => false

namespace Choices

/-- The entries without `#`, each with its index, which is counted from `index`. -/
def unseparated (index : Nat) (es : List Text) : List (Text × Nat) :=
  (es.zipIdx index).filter fun e => '#' ∉ e.1

section
variable {index i : Nat} {entry t : Text} {es : List Text}

/-! ## The entries without `#` -/

theorem unseparated_cons_of_mem (h : '#' ∈ entry) :
    unseparated index (entry :: es) = unseparated (index + 1) es := by
  rw [unseparated, List.zipIdx_cons, List.filter_cons_of_neg (by simp [h]), unseparated]

theorem unseparated_cons_of_not_mem (h : '#' ∉ entry) :
    unseparated index (entry :: es) = (entry, index) :: unseparated (index + 1) es := by
  rw [unseparated, List.zipIdx_cons, List.filter_cons_of_pos (by simp [h]), unseparated]

theorem unseparated_eq_nil (index : Nat) (es : List Text) :
    unseparated index es = [] ↔ ∀ e ∈ es, '#' ∈ e := by
  induction es generalizing index with
  | nil => simp [unseparated]
  | cons e es ih =>
    by_cases h : '#' ∈ e
    · rw [unseparated_cons_of_mem h, ih, List.forall_mem_cons, and_iff_right h]
    · simp [unseparated_cons_of_not_mem h, h]

/-- The first entry without `#` has one that has it at each index before its own. -/
theorem of_head_unseparated (h : (unseparated index es).head? = some (entry, i)) :
    ∃ k, i = index + k ∧ es[k]? = some entry ∧ '#' ∉ entry ∧
      ∀ j < k, ∀ e, es[j]? = some e → '#' ∈ e := by
  induction es generalizing index with
  | nil => cases h
  | cons e es ih =>
    by_cases he : '#' ∈ e
    · rw [unseparated_cons_of_mem he] at h
      obtain ⟨k, hi, hk, hentry, hbefore⟩ := ih h
      refine ⟨k + 1, by omega, hk, hentry, ?_⟩
      intro j hj x hx
      cases j with
      | zero =>
        rw [List.getElem?_cons_zero, Option.some.injEq] at hx
        exact hx ▸ he
      | succ j => exact hbefore j (Nat.lt_of_succ_lt_succ hj) x hx
    · rw [unseparated_cons_of_not_mem he, List.head?_cons, Option.some.injEq] at h
      obtain ⟨rfl, rfl⟩ := Prod.mk.inj h
      refine ⟨0, rfl, rfl, he, ?_⟩
      intro j hj
      exact absurd hj (Nat.not_lt_zero j)

/-! ## Strict reading -/

theorem splitOnce_of_mem (h : '#' ∈ entry) :
    Text.splitOnce '#' entry = some ((ofEntry entry).selector, (ofEntry entry).text) := by
  rw [ofEntry]
  cases hsplit : Text.splitOnce '#' entry with
  | none => exact absurd h (Text.splitOnce_eq_none.mp hsplit)
  | some cut => rfl

theorem ofEntry_of_not_mem (h : '#' ∉ entry) : ofEntry entry = ⟨entry, []⟩ := by
  rw [ofEntry, Text.splitOnce_eq_none.mpr h]

/-- Strict reading stops at the first entry without `#`; without one, it reads each entry as lenient
reading does. -/
theorem pairs?_eq (index : Nat) (es : List Text) :
    pairs? index es =
      match (unseparated index es).head? with
      | none => .ok (es.map ofEntry)
      | some (entry, i) => .error (.missingSeparator i entry) := by
  induction es generalizing index with
  | nil => rfl
  | cons e es ih =>
    rw [pairs?]
    by_cases h : '#' ∈ e
    · simp only [splitOnce_of_mem h, ih, unseparated_cons_of_mem h]
      cases (unseparated (index + 1) es).head? <;> rfl
    · simp only [Text.splitOnce_eq_none.mpr h, unseparated_cons_of_not_mem h]
      rfl

theorem parseStrict_eq (t : Text) :
    parseStrict t =
      match (unseparated 0 (entries t)).head? with
      | none => .ok (parse t)
      | some (entry, i) => .error (.missingSeparator i entry) := by
  rw [parseStrict, pairs?_eq]
  cases (unseparated 0 (entries t)).head? <;> rfl

theorem parseStrict_isOk : (∃ c, parseStrict t = .ok c) ↔ ∀ e ∈ entries t, '#' ∈ e := by
  rw [← unseparated_eq_nil 0, ← List.head?_eq_none_iff, parseStrict_eq]
  cases (unseparated 0 (entries t)).head? <;> simp

end

end Choices

/-! ## Linting -/

namespace Lint

section
variable [PatternEngine] {options : MatchOptions} {w : Warning} {selector entry : Text} {index : Nat}
  {previous : Option Nat} {es : List Text}

theorem AboutSelector.not_isMissing (h : AboutSelector options index selector w) :
    w.isMissingSeparator = false := by
  cases h <;> rfl

theorem not_isMissing_of_mem_warningsAbout (hmem : '#' ∈ entry)
    (h : w ∈ warningsAbout options index previous entry) : w.isMissingSeparator = false := by
  obtain ⟨-, hconcerns⟩ := concerns_of_mem_warningsAbout h
  cases hconcerns with
  | missing hsplit => exact absurd hmem (Text.splitOnce_eq_none.mp hsplit)
  | shadowed => rfl
  | selector _ _ hw => exact (mem_selectorWarnings.mp hw).not_isMissing

theorem filter_warningsAbout_of_mem (h : '#' ∈ entry) :
    (warningsAbout options index previous entry).filter Warning.isMissingSeparator = [] := by
  rw [List.filter_eq_nil_iff]
  intro w hw
  rw [not_isMissing_of_mem_warningsAbout h hw]
  exact Bool.false_ne_true

theorem warningsAbout_of_not_mem (h : '#' ∉ entry) :
    warningsAbout options index previous entry = [.missingSeparator index entry] := by
  rw [warningsAbout, Text.splitOnce_eq_none.mpr h]

/-- Linting warns about the entries without `#`, whatever else it warns about in between. -/
theorem filter_entryWarnings :
    (entryWarnings options index previous es).filter Warning.isMissingSeparator =
      (Choices.unseparated index es).map fun e => .missingSeparator e.2 e.1 := by
  induction es generalizing index previous with
  | nil => rfl
  | cons e es ih =>
    rw [entryWarnings_cons, List.filter_append, ih]
    by_cases h : '#' ∈ e
    · rw [filter_warningsAbout_of_mem h, Choices.unseparated_cons_of_mem h, List.nil_append]
    · rw [warningsAbout_of_not_mem h, Choices.unseparated_cons_of_not_mem h]
      rfl

end

end Lint

namespace Choices

/-- The pair that is read from an entry without `#` has that entry as its selector and no text. -/
theorem getElem?_parse_of_not_mem {t entry : Text} {i : Nat} (h : (entries t)[i]? = some entry)
    (hentry : '#' ∉ entry) :
    (parse t).selectors[i]? = some entry ∧ (parse t).texts[i]? = some [] := by
  have hitem : (parse t).items[i]? = some ⟨entry, []⟩ := by
    rw [items_parse, List.getElem?_map, h, Option.map_some, ofEntry_of_not_mem hentry]
  constructor
  · rw [selectors_eq, List.getElem?_map, hitem, Option.map_some]
  · rw [texts_eq, List.getElem?_map, hitem, Option.map_some]

/-- **Both readings and linting agree about missing separators.** For every template, whatever the
options are: the warnings about missing separators are about the entries without `#`, in order;
strict reading succeeds exactly if there is no such entry, and exactly if there is no such warning,
and then reads what lenient reading does. Otherwise it names the first entry without `#` and its
index. This entry is not empty, lenient reading has it as the selector of an empty text at the same
index, and the first warning about a missing separator names it as well. -/
theorem readings_agree_on_separators [PatternEngine] (t : Text) (options : MatchOptions) :
    (lint t options).filter Warning.isMissingSeparator =
      (unseparated 0 (entries t)).map (fun e => .missingSeparator e.2 e.1) ∧
    ((∃ c, parseStrict t = .ok c) ↔ ∀ e ∈ entries t, '#' ∈ e) ∧
    ((∃ c, parseStrict t = .ok c) ↔
      ∀ index entry, .missingSeparator index entry ∉ lint t options) ∧
    match parseStrict t with
    | .ok c => c = parse t
    | .error (.missingSeparator index entry) =>
      (entries t)[index]? = some entry ∧ '#' ∉ entry ∧ entry ≠ [] ∧
      (∀ j < index, ∀ e, (entries t)[j]? = some e → '#' ∈ e) ∧
      (parse t).selectors[index]? = some entry ∧ (parse t).texts[index]? = some [] ∧
      (lint t options).find? Warning.isMissingSeparator =
        some (.missingSeparator index entry) := by
  have hfilter : (lint t options).filter Warning.isMissingSeparator =
      (unseparated 0 (entries t)).map fun e => .missingSeparator e.2 e.1 :=
    Lint.filter_entryWarnings
  refine ⟨hfilter, parseStrict_isOk, ?_, ?_⟩
  · rw [parseStrict_isOk, ← unseparated_eq_nil 0]
    constructor
    · intro hnil index entry hw
      rw [hnil] at hfilter
      exact List.filter_eq_nil_iff.mp hfilter _ hw rfl
    · intro hnone
      rw [← List.map_eq_nil_iff, ← hfilter, List.filter_eq_nil_iff]
      intro w hw hmissing
      cases w with
      | missingSeparator index entry => exact hnone index entry hw
      | _ => cases hmissing
  · rw [parseStrict_eq]
    cases hhead : (unseparated 0 (entries t)).head? with
    | none => rfl
    | some e =>
      obtain ⟨entry, index⟩ := e
      obtain ⟨k, hindex, hk, hentry, hbefore⟩ := of_head_unseparated hhead
      rw [Nat.zero_add] at hindex
      subst hindex
      obtain ⟨hselector, htext⟩ := getElem?_parse_of_not_mem hk hentry
      have hne : entry ≠ [] := ne_nil_of_mem_entries (List.mem_of_getElem? hk)
      refine ⟨hk, hentry, hne, hbefore, hselector, htext, ?_⟩
      rw [← List.head?_filter, hfilter, List.head?_map, hhead]
      rfl

/-- An entry that cleaning empties, and two without `#` around a default. -/
def mixedTemplate : Text := "1#one|\",|bad|#d|worse".toList

theorem mixedTemplate_names_first :
    parseStrict mixedTemplate = .error (.missingSeparator 1 "bad".toList) ∧
    (lint mixedTemplate .standard).filter Warning.isMissingSeparator =
      [.missingSeparator 1 "bad".toList, .missingSeparator 3 "worse".toList] :=
  ⟨rfl, (readings_agree_on_separators mixedTemplate .standard).1⟩

end Choices

end ChoiceTemplate

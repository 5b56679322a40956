import ChoiceTemplate.Proofs.Defaults
import ChoiceTemplate.Proofs.Numerals
import ChoiceTemplate.Table

/-
  What choices hold after any number of pushes.

  A push may replace the default, and then its index and its text have to come from the same pair.
  `Represents c pushed` says what choices are while pairs are pushed: they hold the selectors and the
  texts of these pairs, the default stands in its place, and no empty selector stands behind it. One
  push keeps that (`represents_push`), so any number of them does (`represents_pushAll`). Therefore

    1. selectors and texts are the two halves of the pairs (`Represents.zip_eq`);
    2. the index of the default is the largest of an empty selector, and there is none if no selector
       is empty (`Represents.defaultIndex_eq_some_iff`, `Represents.defaultIndex_eq_none_iff`);
    3. the table marks the row of the default and no other (`Table.findIdxs_rowsFrom`), and what it
       prints between the rules of its frame are these rows, in order (`Table.body_ofChoices`).
-/
namespace ChoiceTemplate

/-! ## The marked row -/

namespace Table

/-- Whether a row is marked as the one of the default: its last column says so. -/
def isMarked (row : List Text) : Bool := row[3]? = some "yes".toList

theorem isMarked_rowCells (defaultIndex : Option Nat) (index : Nat) (item : Choice) :
    isMarked (rowCells defaultIndex index item) = decide (defaultIndex = some index) := by
  by_cases h : defaultIndex = some index
  · simp [isMarked, rowCells, h]
  · simp [isMarked, rowCells, h]

/-- Rows are numbered one after another, so only the default's own number can be met, and only once. -/
theorem findIdxs_rowsFrom (defaultIndex : Option Nat) (index : Nat) (items : List Choice) :
    (rowsFrom defaultIndex index items).findIdxs isMarked index =
      defaultIndex.toList.filter fun i => index ≤ i ∧ i < index + items.length := by
  induction items generalizing index with
  | nil =>
    have hnone : ∀ i ∈ defaultIndex.toList, ¬(index ≤ i ∧ i < index + 0) := by
      intro i _
      omega
    rw [rowsFrom, List.findIdxs_nil, eq_comm, List.filter_eq_nil_iff]
    intro i hi
    rw [decide_eq_true_eq]
    exact hnone i hi
  | cons item rest ih =>
    rw [rowsFrom, List.findIdxs_cons, isMarked_rowCells, ih (index + 1)]
    cases defaultIndex with
    | none => rfl
    | some d =>
      by_cases hd : d = index
      · subst hd
        have hself : d ≤ d ∧ d < d + (item :: rest).length := by simp
        have hrest : ¬(d + 1 ≤ d ∧ d < d + 1 + rest.length) := by omega
        simp only [Option.toList_some, List.filter_singleton, hself, hrest, decide_true, decide_false,
          if_true]
        rfl
      · have hbounds : (index ≤ d ∧ d < index + (item :: rest).length) ↔
            (index + 1 ≤ d ∧ d < index + 1 + rest.length) := by
          rw [List.length_cons]
          omega
        simp only [Option.some.injEq, hd, decide_false, Option.toList_some, List.filter_singleton,
          hbounds]
        rfl

/-! ## The printed rows -/

section
variable {c : Choices} {row : List Text} {items : List Choice}

/-- A row without line feeds is one line high. -/
theorem rowLines_of_flat (hne : row ≠ []) (hflat : ∀ cell ∈ row, '\n' ∉ cell)
    (widths : List Nat) : rowLines widths row = [rowLine widths row 0] := by
  have hone : row.map (fun cell => (cellLines cell).length) = row.map fun _ => 1 :=
    List.map_congr_left fun cell hcell => by
      rw [cellLines, Text.pieces_of_not_mem (hflat cell hcell), List.length_singleton]
  have hmax : ∀ row : List Text, (row.map fun _ => 1).foldl max 1 = 1 := by
    intro row
    induction row with
    | nil => rfl
    | cons cell row ih => exact ih
  obtain ⟨cell, row, rfl⟩ := List.exists_cons_of_ne_nil hne
  have hheight : ((cell :: row).map fun _ => 1).foldl max 0 = 1 := hmax row
  rw [rowLines, hone, hheight]
  rfl

/-- Between the rules of the frame stand the lines of the rows, in order. -/
theorem body_ofChoices (c : Choices) :
    ((ofChoices c).drop 3).dropLast =
      (rows c).flatMap (rowLines (widths (headings :: rows c))) := by
  have hheadings : rowLines (widths (headings :: rows c)) headings =
      [rowLine (widths (headings :: rows c)) headings 0] :=
    rowLines_of_flat (by decide) (by decide) _
  rw [ofChoices, hheadings]
  exact List.dropLast_concat

theorem rowsFrom_flat (hflat : ∀ i ∈ items, '\n' ∉ i.selector ∧ '\n' ∉ i.text)
    (defaultIndex : Option Nat) (index : Nat) :
    ∀ row ∈ rowsFrom defaultIndex index items, row ≠ [] ∧ ∀ cell ∈ row, '\n' ∉ cell := by
  induction items generalizing index with
  | nil => exact fun row hrow => absurd hrow List.not_mem_nil
  | cons i items ih =>
    obtain ⟨⟨hselector, htext⟩, hrest⟩ := List.forall_mem_cons.mp hflat
    refine List.forall_mem_cons.mpr ⟨⟨List.cons_ne_nil _ _, ?_⟩, ih hrest (index + 1)⟩
    have hnumber : '\n' ∉ Text.ofNat index := (isNumeral_ofNat index).not_mem rfl
    have hmark : '\n' ∉ if defaultIndex = some index then "yes".toList else [] := by
      split <;> decide
    simp only [rowCells, List.forall_mem_cons]
    exact ⟨hnumber, hselector, htext, hmark, fun _ h => absurd h List.not_mem_nil⟩

/-- Choices without line feeds are printed on one line each. -/
theorem body_of_flat (hflat : ∀ i ∈ c.items, '\n' ∉ i.selector ∧ '\n' ∉ i.text) :
    ((ofChoices c).drop 3).dropLast =
      (rows c).map fun row => rowLine (widths (headings :: rows c)) row 0 := by
  have hrows := rowsFrom_flat hflat c.defaultIndex 0
  have hlines : (rows c).map (rowLines (widths (headings :: rows c))) =
      (rows c).map fun row => [rowLine (widths (headings :: rows c)) row 0] :=
    List.map_congr_left fun row hrow => rowLines_of_flat (hrows row hrow).1 (hrows row hrow).2 _
  rw [body_ofChoices, List.flatMap_def, hlines, ← List.flatMap_def]
  exact List.flatMap_pure_eq_map ..

end

end Table

namespace Choices

/-! ## One push after another -/

/-- Choices hold the selectors and the texts of the pushed pairs, with the default in its place and
every empty selector at it or before it. -/
structure Represents (c : Choices) (pushed : List Choice) : Prop where
  selectors_eq : c.selectors = pushed.map Choice.selector
  texts_eq : c.texts = pushed.map Choice.text
  inPlace : c.DefaultInPlace
  le_default : ∀ i, c.selectors[i]? = some [] → ∃ d, c.defaultIndex = some d ∧ i ≤ d
  text_of_none : c.defaultIndex = none → c.defaultText = []

section
variable {c : Choices} {pushed : List Choice}

theorem represents_empty : Represents empty [] where
  selectors_eq := rfl
  texts_eq := rfl
  inPlace := defaultInPlace_empty
  le_default := by simp [empty]
  text_of_none := fun _ => rfl

/-- An empty selector that is pushed is the default and stands behind all others. Any other selector
leaves the default as it is. -/
theorem represents_push (h : Represents c pushed) (i : Choice) :
    Represents (c.push i.selector i.text) (pushed ++ [i]) where
  selectors_eq := by
    rw [List.map_append, ← h.selectors_eq]
    rfl
  texts_eq := by
    rw [List.map_append, ← h.texts_eq]
    rfl
  inPlace := defaultInPlace_push h.inPlace i
  le_default := by
    intro k hk
    have hselectors : (c.push i.selector i.text).selectors = c.selectors ++ [i.selector] := rfl
    rw [hselectors] at hk
    rw [defaultIndex_push, length_items]
    cases hdefault : i.isDefault with
    | true =>
      obtain ⟨hlt, -⟩ := List.getElem?_eq_some_iff.mp hk
      refine ⟨c.selectors.length, rfl, ?_⟩
      rw [List.length_append, List.length_singleton] at hlt
      exact Nat.le_of_lt_succ hlt
    | false =>
      have hne : i.selector ≠ [] := of_decide_eq_false hdefault
      by_cases hlt : k < c.selectors.length
      · rw [List.getElem?_append_left hlt] at hk
        exact h.le_default k hk
      · rw [List.getElem?_append_right (Nat.not_lt.mp hlt)] at hk
        have hselector := List.mem_of_getElem? hk
        rw [List.mem_singleton] at hselector
        exact absurd hselector.symm hne
  text_of_none := by
    intro hnone
    rw [defaultIndex_push] at hnone
    rw [defaultText_push]
    cases hdefault : i.isDefault with
    | true =>
      rw [hdefault, if_pos rfl] at hnone
      cases hnone
    | false =>
      rw [hdefault, if_neg Bool.false_ne_true] at hnone
      exact h.text_of_none hnone

theorem represents_pushAll (h : Represents c pushed) (items : List Choice) :
    Represents (c.pushAll items) (pushed ++ items) := by
  induction items generalizing c pushed with
  | nil =>
    rw [List.append_nil]
    exact h
  | cons i items ih =>
    have hstep := ih (represents_push h i)
    rwa [List.append_assoc, List.singleton_append] at hstep

theorem represents_ofList (pushed : List Choice) : Represents (ofList pushed) pushed :=
  represents_pushAll represents_empty pushed

/-! ## What follows for the fields -/

theorem Represents.zip_eq (h : Represents c pushed) :
    c.selectors.zip c.texts = pushed.map fun i => (i.selector, i.text) := by
  rw [h.selectors_eq, h.texts_eq]
  exact List.zip_map'

theorem Represents.items_eq (h : Represents c pushed) : c.items = pushed := by
  rw [items, h.zip_eq, List.map_map]
  exact List.map_id pushed

theorem Represents.defaultIndex_eq_some_iff (h : Represents c pushed) (i : Nat) :
    c.defaultIndex = some i ↔
      c.selectors[i]? = some [] ∧ ∀ j, c.selectors[j]? = some [] → j ≤ i := by
  constructor
  · intro hi
    refine ⟨h.inPlace.selectors hi, ?_⟩
    intro j hj
    obtain ⟨d, hd, hle⟩ := h.le_default j hj
    rw [hi] at hd
    cases hd
    exact hle
  · intro hlargest
    obtain ⟨hi, hle⟩ := hlargest
    obtain ⟨d, hd, hid⟩ := h.le_default i hi
    have hdi := hle d (h.inPlace.selectors hd)
    rw [hd, Nat.le_antisymm hdi hid]

theorem Represents.defaultIndex_eq_none_iff (h : Represents c pushed) :
    c.defaultIndex = none ↔ [] ∉ c.selectors := by
  constructor
  · intro hnone hmem
    obtain ⟨i, hi⟩ := List.mem_iff_getElem?.mp hmem
    obtain ⟨d, hd, -⟩ := h.le_default i hi
    rw [hnone] at hd
    cases hd
  · intro hmem
    cases hindex : c.defaultIndex with
    | none => rfl
    | some i =>
      exact absurd (List.mem_of_getElem? (h.inPlace.selectors hindex)) hmem

theorem Represents.findIdxs_rows (h : Represents c pushed) :
    (Table.rows c).findIdxs Table.isMarked = c.defaultIndex.toList := by
  rw [Table.rows, Table.findIdxs_rowsFrom, List.filter_eq_self]
  intro i hi
  rw [Option.mem_toList] at hi
  obtain ⟨hlt, -⟩ := List.getElem?_eq_some_iff.mp (h.inPlace i hi)
  rw [decide_eq_true_eq]
  omega

theorem Represents.countP_rows (h : Represents c pushed) :
    (Table.rows c).countP Table.isMarked = if [] ∈ c.selectors then 1 else 0 := by
  rw [← List.length_findIdxs (s := 0), h.findIdxs_rows]
  cases hindex : c.defaultIndex with
  | none => rw [if_neg (h.defaultIndex_eq_none_iff.mp hindex), Option.toList_none, List.length_nil]
  | some i =>
    have hmem : [] ∈ c.selectors :=
      List.mem_of_getElem? (h.inPlace.selectors hindex)
    rw [if_pos hmem, Option.toList_some, List.length_singleton]

end

/-- **Pushing keeps the fields consistent.** After any pairs have been pushed, there are as many
selectors as texts, which make up the pairs in order. The index of the default is the largest of an
empty selector, and there is none if no selector is empty; the default text is the text at that index,
and empty without one. So the table marks one row if some selector is empty, that of the default, and
no row otherwise. Every reading of a template, strict or not, is the result of such pushes. -/
theorem pushing_keeps_fields_consistent :
    (∀ pushed : List Choice,
      let c := empty.pushAll pushed
      c.selectors.length = pushed.length ∧ c.texts.length = pushed.length ∧
      c.selectors.zip c.texts = pushed.map (fun i => (i.selector, i.text)) ∧ c.items = pushed ∧
      (∀ i, c.defaultIndex = some i ↔
        c.selectors[i]? = some [] ∧ ∀ j, c.selectors[j]? = some [] → j ≤ i) ∧
      (c.defaultIndex = none ↔ [] ∉ c.selectors) ∧
      (match c.defaultIndex with
        | some i => c.texts[i]? = some c.defaultText
        | none => c.defaultText = []) ∧
      (Table.rows c).findIdxs Table.isMarked = c.defaultIndex.toList ∧
      (Table.rows c).countP Table.isMarked = if [] ∈ c.selectors then 1 else 0) ∧
    (∀ t, ∃ pushed, parse t = empty.pushAll pushed) ∧
    ∀ t c, parseStrict t = .ok c → ∃ pushed, c = empty.pushAll pushed := by
  refine ⟨?_, ?_, ?_⟩
  · intro pushed c
    have h : Represents c pushed := represents_ofList pushed
    have hselectors : c.selectors.length = pushed.length := by
      rw [h.selectors_eq, List.length_map]
    have htexts : c.texts.length = pushed.length := by rw [h.texts_eq, List.length_map]
    refine ⟨hselectors, htexts, h.zip_eq, h.items_eq, h.defaultIndex_eq_some_iff, h.defaultIndex_eq_none_iff,
      ?_, h.findIdxs_rows, h.countP_rows⟩
    cases hindex : c.defaultIndex with
    | some i => exact h.inPlace.texts hindex
    | none => exact h.text_of_none hindex
  · intro t
    exact ⟨(entries t).map ofEntry, rfl⟩
  · intro t c hc
    rw [parseStrict] at hc
    cases hpairs : pairs? 0 (entries t) with
    | error e =>
      rw [hpairs] at hc
      cases hc
    | ok pushed =>
      rw [hpairs] at hc
      cases hc
      exact ⟨pushed, rfl⟩

/-- Two defaults with another selector between them and one behind. -/
def defaultsAround : Text := "#a|1#b|#c|2#d".toList

theorem defaultsAround_marked_once :
    parseStrict defaultsAround = .ok (parse defaultsAround) ∧
    (Table.rows (parse defaultsAround)).findIdxs Table.isMarked = [2] ∧
    (Table.rows (parse defaultsAround)).countP Table.isMarked = 1 := by
  obtain ⟨hfields, -, hstrict⟩ := pushing_keeps_fields_consistent
  have hok : parseStrict defaultsAround = .ok (parse defaultsAround) := rfl
  obtain ⟨pushed, hpushed⟩ := hstrict defaultsAround (parse defaultsAround) hok
  obtain ⟨-, -, -, -, -, -, -, hmarked, hcount⟩ := hfields pushed
  rw [← hpushed] at hmarked hcount
  exact ⟨hok, hmarked, hcount⟩

end Choices

end ChoiceTemplate

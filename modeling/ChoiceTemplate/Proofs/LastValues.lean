import ChoiceTemplate.Proofs.ByteOrder
import ChoiceTemplate.Proofs.Defaults
import ChoiceTemplate.Values
import Mathlib.Data.List.Sort

/-
  Values as a map from keys to texts.

  `Values` keeps its entries in ascending order of the keys, and one insertion after another builds it.
  One insertion keeps the order and changes the text of its own key only (`ascending_insertEntry`,
  `get?_insert`), so any number of them leave each key with the text of its last pair
  (`get?_insertAll`). Entries in ascending order are determined by what they hold for each key
  (`ext_get?`). So the values of pairs depend on nothing but the last pair of each key
  (`ofList_congr`): not on the pairs before it, and not on the order of the keys.
-/
namespace ChoiceTemplate.Values

/-! ## The last pair of a key -/

/-- What the last pair with a key holds. -/
def lastFor? {α : Type} (pairs : List (Text × α)) (key : Text) : Option α :=
  ((pairs.filter fun p => p.1 = key).getLast?).map Prod.snd

section
variable {α β : Type} {pairs : List (Text × α)} {key : Text}

theorem lastFor?_cons (p : Text × α) (pairs : List (Text × α)) (key : Text) :
    lastFor? (p :: pairs) key =
      (lastFor? pairs key).or (if p.1 = key then some p.2 else none) := by
  rw [lastFor?, lastFor?, getLast?_filter_cons]
  cases (pairs.filter fun p => p.1 = key).getLast? with
  | some q => rfl
  | none => by_cases h : p.1 = key <;> simp [h]

theorem lastFor?_map (f : α → β) (pairs : List (Text × α)) (key : Text) :
    lastFor? (pairs.map fun p => (p.1, f p.2)) key = (lastFor? pairs key).map f := by
  rw [lastFor?, lastFor?, List.filter_map, List.getLast?_map, Option.map_map, Option.map_map]
  rfl

/-- Where each key has one pair, the last one is the one there is. -/
theorem lastFor?_eq_some_iff (h : (pairs.map Prod.fst).Nodup) {value : α} :
    lastFor? pairs key = some value ↔ (key, value) ∈ pairs := by
  induction pairs generalizing value with
  | nil => simp [lastFor?]
  | cons p pairs ih =>
    rw [List.map_cons, List.nodup_cons] at h
    obtain ⟨hp, hpairs⟩ := h
    rw [lastFor?_cons, Option.or_eq_some_iff, ih hpairs, List.mem_cons]
    constructor
    · intro hsome
      rcases hsome with hmem | ⟨-, hself⟩
      · exact Or.inr hmem
      · split at hself
        · next hkey =>
          cases hself
          exact Or.inl (Prod.ext hkey.symm rfl)
        · cases hself
    · intro hmem
      rcases hmem with rfl | hmem
      · refine Or.inr ⟨?_, if_pos rfl⟩
        rw [Option.eq_none_iff_forall_ne_some]
        intro other hother
        have hkey := List.mem_map_of_mem (f := Prod.fst) ((ih hpairs).mp hother)
        exact hp hkey
      · exact Or.inl hmem

end

/-! ## Entries in ascending order -/

/-- Each entry has a key after those of the entries before it. -/
def Ascending (entries : List (Text × Text)) : Prop :=
  entries.Pairwise fun a b => Text.before a.1 b.1 = true

section
variable {entries : List (Text × Text)} {e : Text × Text} {v w : Values}

theorem mem_insertEntry {key value : Text} (h : e ∈ insertEntry key value entries) :
    e = (key, value) ∨ e ∈ entries := by
  induction entries with
  | nil => exact Or.inl (List.mem_singleton.mp h)
  | cons first rest ih =>
    obtain ⟨k, x⟩ := first
    rw [insertEntry] at h
    split at h
    · rcases List.mem_cons.mp h with heq | hmem
      · exact Or.inl heq
      · exact Or.inr (List.mem_cons_of_mem _ hmem)
    · split at h
      · exact List.mem_cons.mp h
      · rcases List.mem_cons.mp h with heq | hmem
        · exact Or.inr (heq ▸ List.mem_cons_self)
        · exact (ih hmem).imp_right (List.mem_cons_of_mem _)

theorem ascending_insertEntry (h : Ascending entries) (key value : Text) :
    Ascending (insertEntry key value entries) := by
  induction entries with
  | nil => exact List.pairwise_singleton _ _
  | cons first rest ih =>
    obtain ⟨k, x⟩ := first
    obtain ⟨hfirst, hrest⟩ := List.pairwise_cons.mp h
    rw [insertEntry]
    split
    · next heq =>
      subst heq
      exact List.pairwise_cons.mpr ⟨hfirst, hrest⟩
    · next hne =>
      split
      · next hbefore =>
        refine List.pairwise_cons.mpr ⟨?_, h⟩
        intro e he
        rcases List.mem_cons.mp he with rfl | he
        · exact hbefore
        · exact Text.before_trans hbefore (hfirst e he)
      · next hbefore =>
        refine List.pairwise_cons.mpr ⟨?_, ih hrest⟩
        intro e he
        rcases mem_insertEntry he with rfl | he
        · -- A key that neither is the first one nor comes before it comes after it.
          rcases Text.before_or_eq_or_before k key with hafter | heq | hbefore'
          · exact hafter
          · exact absurd heq.symm hne
          · exact absurd hbefore' hbefore
        · exact hfirst e he

theorem get?_insert (v : Values) (key value other : Text) :
    (v.insert key value).get? other = if key = other then some value else v.get? other := by
  rw [insert, get?, get?]
  induction v.entries with
  | nil => by_cases h : key = other <;> simp [insertEntry, h]
  | cons first rest ih =>
    obtain ⟨k, x⟩ := first
    rw [insertEntry]
    split
    · next heq =>
      subst heq
      by_cases h : key = other <;> simp [h]
    · next hne =>
      split
      · by_cases h : key = other <;> simp [h]
      · by_cases hk : k = other
        · have hother : ¬key = other := fun h => hne (h.trans hk.symm)
          simp [hk, hother]
        · rw [List.find?_cons_of_neg (by simpa using hk), List.find?_cons_of_neg (by simpa using hk)]
          exact ih

theorem insertAll_cons (v : Values) (p : Text × Text) (pairs : List (Text × Text)) :
    v.insertAll (p :: pairs) = (v.insert p.1 p.2).insertAll pairs := rfl

theorem ascending_insertAll (h : Ascending v.entries) (pairs : List (Text × Text)) :
    Ascending (v.insertAll pairs).entries := by
  induction pairs generalizing v with
  | nil => exact h
  | cons p pairs ih => exact ih (ascending_insertEntry h p.1 p.2)

/-- A key that is inserted has the text of its last pair, and any other key what it had. -/
theorem get?_insertAll (v : Values) (pairs : List (Text × Text)) (key : Text) :
    (v.insertAll pairs).get? key = (lastFor? pairs key).or (v.get? key) := by
  induction pairs generalizing v with
  | nil => rfl
  | cons p pairs ih =>
    rw [insertAll_cons, ih, get?_insert, lastFor?_cons, Option.or_assoc]
    by_cases h : p.1 = key <;> simp [h]

theorem ascending_empty : Ascending empty.entries := List.Pairwise.nil

theorem ascending_ofList (pairs : List (Text × Text)) : Ascending (ofList pairs).entries :=
  ascending_insertAll ascending_empty pairs

theorem get?_ofList (pairs : List (Text × Text)) (key : Text) :
    (ofList pairs).get? key = lastFor? pairs key := by
  rw [ofList, get?_insertAll]
  exact Option.or_none

/-! ## What is held decides -/

theorem nodup_of_ascending (h : Ascending entries) : (entries.map Prod.fst).Nodup := by
  rw [List.Nodup, List.pairwise_map]
  apply List.Pairwise.imp _ h
  intro a b hbefore heq
  rw [heq, Text.before_irrefl] at hbefore
  cases hbefore

theorem mem_entries_iff (h : Ascending v.entries) {key value : Text} :
    (key, value) ∈ v.entries ↔ v.get? key = some value := by
  constructor
  · intro hmem
    rw [get?]
    cases hfind : v.entries.find? fun entry => entry.1 == key with
    | none =>
      have hnone := List.find?_eq_none.mp hfind (key, value) hmem
      exact absurd (beq_self_eq_true key) hnone
    | some found =>
      have hkey : found.1 = key := by simpa using List.find?_some hfind
      have hfound : found ∈ v.entries := List.mem_of_find?_eq_some hfind
      have heq := List.inj_on_of_nodup_map (nodup_of_ascending h) hfound hmem hkey
      rw [heq, Option.map_some]
  · intro hget
    obtain ⟨found, hfind, hvalue⟩ := Option.map_eq_some_iff.mp hget
    have hkey : found.1 = key := by simpa using List.find?_some hfind
    have heq : found = (key, value) := Prod.ext hkey hvalue
    exact heq ▸ List.mem_of_find?_eq_some hfind

/-- Values in ascending order are the same if they hold the same for each key. -/
theorem ext_get? (hv : Ascending v.entries) (hw : Ascending w.entries)
    (h : ∀ key, v.get? key = w.get? key) : v = w := by
  have hmem : ∀ e, e ∈ v.entries ↔ e ∈ w.entries := by
    intro e
    obtain ⟨key, value⟩ := e
    rw [mem_entries_iff hv, mem_entries_iff hw, h]
  have hperm : v.entries.Perm w.entries := by
    rw [List.perm_ext_iff_of_nodup]
    · exact hmem
    · exact (nodup_of_ascending hv).of_map
    · exact (nodup_of_ascending hw).of_map
  have hentries : v.entries = w.entries := by
    apply hperm.eq_of_pairwise _ hv hw
    intro a b _ _ hab hba
    have hself := Text.before_trans hab hba
    rw [Text.before_irrefl] at hself
    cases hself
  cases v
  cases w
  exact congrArg Values.mk hentries

theorem ofList_congr {pairs others : List (Text × Text)}
    (h : ∀ key, lastFor? pairs key = lastFor? others key) : ofList pairs = ofList others := by
  apply ext_get? (ascending_ofList pairs) (ascending_ofList others)
  intro key
  rw [get?_ofList, get?_ofList, h]

end

end ChoiceTemplate.Values

import ChoiceTemplate.Pattern.Basic
import ChoiceTemplate.Proofs.Resolution
import Mathlib.Logic.Relation

/-
  Pairs that no reference can notice.

  Three edits of a list of pairs (`Edit`): all empty selectors but the last are deleted, and that
  last one is put anywhere; a pair is deleted whose selector stands before it already; a pair is
  deleted whose selector is not a valid pattern, if the reference is a text. Each of them changes
  the places of the pairs behind it, and with them the indices of the compiled patterns. It leaves
  alone what `resolve_eq` says is all that counts: the first pair that the reference accepts, and
  the last one with an empty selector (`resolve_edit`). So do any number of edits
  (`redundant_pairs_never_matter`).
-/
namespace ChoiceTemplate.Choices

/-- One edit, for a given reference. -/
inductive Edit [PatternEngine] (options : MatchOptions) : Reference → List Choice → List Choice → Prop
  | oneDefault {r : Reference} {items : List Choice} (before after : List Choice) (d : Choice) :
      items.filter (!·.isDefault) = before ++ after → lastDefault? items = some d →
      Edit options r items (before ++ d :: after)
  | repeated {r : Reference} (before after : List Choice) (i : Choice) :
      i.selector ≠ [] → i.selector ∈ before.map Choice.selector →
      Edit options r (before ++ i :: after) (before ++ after)
  | invalid {value : Text} {error : PatternEngine.Refusal} (before after : List Choice) (i : Choice) :
      i.selector ≠ [] → compileSelector i.selector options = .error error →
      Edit options (.text value) (before ++ i :: after) (before ++ after)

section
variable {options : MatchOptions} {r : Reference} {items before after : List Choice} {i : Choice}

theorem isDefault_eq_false : i.isDefault = false ↔ i.selector ≠ [] := by simp [Choice.isDefault]

theorem lastDefault_drop (h : i.selector ≠ []) :
    lastDefault? (before ++ i :: after) = lastDefault? (before ++ after) := by
  have hi : i.isDefault = false := isDefault_eq_false.mpr h
  simp only [lastDefault?, List.filter_append, List.filter_cons_of_neg (Bool.eq_false_iff.mp hi)]

variable [PatternEngine]

theorem accepted_ofList :
    (ofList items).accepted? options r = items.find? fun i => r.accepts options i.selector := by
  rw [accepted?, items_ofList]

/-- Choices that agree on the first accepted pair and on the last default resolve alike. -/
theorem resolve_congr {items' : List Choice}
    (haccepted : (ofList items').accepted? options r = (ofList items).accepted? options r)
    (hdefault : lastDefault? items' = lastDefault? items) :
    (ofList items').resolve options r = (ofList items).resolve options r := by
  rw [resolve_eq, resolve_eq, haccepted, defaultText_ofList, defaultText_ofList, hdefault]

/-- A pair can go if what accepts it accepts one before it. -/
theorem accepted_drop (h : r.accepts options i.selector = true →
      ∃ j ∈ before, r.accepts options j.selector = true) :
    (ofList (before ++ after)).accepted? options r =
      (ofList (before ++ i :: after)).accepted? options r := by
  rw [accepted_ofList, accepted_ofList, List.find?_append, List.find?_append]
  cases hi : r.accepts options i.selector with
  | false => rw [List.find?_cons_of_neg (by simp [hi])]
  | true =>
    -- The pair is accepted, but so is one before it, at which the search stops.
    obtain ⟨j, hj, haccepts⟩ := h hi
    cases hbefore : before.find? fun i => r.accepts options i.selector with
    | some k => rfl
    | none => exact absurd haccepts (List.find?_eq_none.mp hbefore j hj)

/-- Empty selectors are never accepted, so the first accepted pair is found among the others. -/
theorem accepted_filter (items : List Choice) :
    (ofList items).accepted? options r =
      (items.filter (!·.isDefault)).find? fun i => r.accepts options i.selector := by
  rw [accepted_ofList, List.find?_filter]
  congr 1
  funext i
  cases hi : i.isDefault with
  | false => simp
  | true =>
    have hnil : i.selector = [] := of_decide_eq_true hi
    rw [hnil, not_accepts_nil]
    rfl

theorem resolve_oneDefault {d : Choice} (hrest : items.filter (!·.isDefault) = before ++ after)
    (hd : lastDefault? items = some d) :
    (ofList (before ++ d :: after)).resolve options r = (ofList items).resolve options r := by
  have hdefault : d.isDefault = true :=
    (List.mem_filter.mp (List.mem_of_getLast? hd)).2
  have hothers : ∀ i ∈ before ++ after, i.isDefault = false := by
    intro i hi
    rw [← hrest] at hi
    simpa using (List.mem_filter.mp hi).2
  have hbefore : ∀ i ∈ before, i.isDefault = false :=
    fun i hi => hothers i (List.mem_append_left _ hi)
  have hafter : ∀ i ∈ after, i.isDefault = false :=
    fun i hi => hothers i (List.mem_append_right _ hi)
  apply resolve_congr
  · -- the first accepted pair: the pairs that are no defaults are the same, in the same order
    have hsame : (before ++ d :: after).filter (!·.isDefault) = before ++ after := by
      rw [List.filter_append, List.filter_cons_of_neg (by simp [hdefault]),
        List.filter_eq_self.mpr (fun i hi => by simp [hbefore i hi]),
        List.filter_eq_self.mpr (fun i hi => by simp [hafter i hi])]
    rw [accepted_filter, accepted_filter, hsame, hrest]
  · -- the last default: it is the only one that is left
    have honly : (before ++ d :: after).filter Choice.isDefault = [d] := by
      rw [List.filter_append, List.filter_cons_of_pos hdefault,
        List.filter_eq_nil_iff.mpr (fun i hi => by simp [hbefore i hi]),
        List.filter_eq_nil_iff.mpr (fun i hi => by simp [hafter i hi])]
      rfl
    rw [lastDefault?, honly, hd]
    rfl

theorem resolve_edit {items' : List Choice} (h : Edit options r items items') :
    (ofList items').resolve options r = (ofList items).resolve options r := by
  cases h with
  | oneDefault before after d hrest hd => exact resolve_oneDefault hrest hd
  | repeated before after i hne hmem =>
    obtain ⟨j, hj, hsame⟩ := List.mem_map.mp hmem
    exact resolve_congr (accepted_drop fun hi => ⟨j, hj, hsame ▸ hi⟩) (lastDefault_drop hne).symm
  | @invalid value error before after i hne herror =>
    have hnever := not_accepts_of_error herror value
    exact resolve_congr (accepted_drop fun hi => absurd hi (by simp [hnever]))
      (lastDefault_drop hne).symm

/-- **Redundant pairs never matter.** However many edits are made, the choices of the pairs that
are left, with their patterns compiled anew, give each boolean, number and text the same text as
before. -/
theorem redundant_pairs_never_matter {items' : List Choice}
    (h : Relation.ReflTransGen (Edit options r) items items') :
    (ofList items').resolve options r = (ofList items).resolve options r := by
  induction h with
  | refl => rfl
  | tail _ hedit ih => exact (resolve_edit hedit).trans ih

end

/-- Two defaults, a selector twice, and one that is no pattern. -/
def crowdedPairs : List Choice :=
  [⟨[], ['1']⟩, ⟨['a'], ['2']⟩, ⟨['a'], ['3']⟩, ⟨['('], ['4']⟩, ⟨[], ['5']⟩]

theorem crowdedPairs_thinned :
    Relation.ReflTransGen (Edit .standard (.text ['A'])) crowdedPairs
      [⟨['a'], ['2']⟩, ⟨[], ['5']⟩] ∧
    (ofList [⟨['a'], ['2']⟩, ⟨[], ['5']⟩]).resolve .standard (.text ['A']) =
      (ofList crowdedPairs).resolve .standard (.text ['A']) := by
  have h₁ : Edit .standard (.text ['A']) crowdedPairs
      [⟨[], ['1']⟩, ⟨['a'], ['2']⟩, ⟨['('], ['4']⟩, ⟨[], ['5']⟩] :=
    .repeated [⟨[], ['1']⟩, ⟨['a'], ['2']⟩] [⟨['('], ['4']⟩, ⟨[], ['5']⟩] ⟨['a'], ['3']⟩
      (by decide) (by decide)
  have h₂ : Edit .standard (.text ['A'])
      [⟨[], ['1']⟩, ⟨['a'], ['2']⟩, ⟨['('], ['4']⟩, ⟨[], ['5']⟩]
      [⟨['a'], ['2']⟩, ⟨['('], ['4']⟩, ⟨[], ['5']⟩] :=
    .oneDefault [⟨['a'], ['2']⟩, ⟨['('], ['4']⟩] [] ⟨[], ['5']⟩ rfl rfl
  have h₃ : Edit .standard (.text ['A']) [⟨['a'], ['2']⟩, ⟨['('], ['4']⟩, ⟨[], ['5']⟩]
      [⟨['a'], ['2']⟩, ⟨[], ['5']⟩] :=
    .invalid [⟨['a'], ['2']⟩] [⟨[], ['5']⟩] ⟨['('], ['4']⟩ (by decide) rfl
  have h := ((Relation.ReflTransGen.single h₁).tail h₂).tail h₃
  exact ⟨h, redundant_pairs_never_matter h⟩

end ChoiceTemplate.Choices

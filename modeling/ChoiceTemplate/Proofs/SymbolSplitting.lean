import ChoiceTemplate.Proofs.Splitting
import Mathlib.Data.List.Basic

/-
  Cutting at one character, where a delimiter at the end opens no piece.

  `pieces` and `join` undo each other, whatever the text is (`join_pieces`), and there is one piece
  more than there are delimiters (`length_pieces`). `splitBySymbol` leaves out the last piece of an
  empty text and of a text that ends in the delimiter, and that piece is empty
  (`splitBySymbol_append_self`). So three facts hold of the parts (`isSplitAt_splitBySymbol`):

    1. none of them contains the delimiter;
    2. joined, they are the text without one delimiter at its end;
    3. there are as many as delimiters, and one more if something stands after the last delimiter.

  No other parts have all three (`IsSplitAt.unique`). The number is needed only where the text is empty
  or one delimiter: no part and one empty part are joined alike.
-/
namespace ChoiceTemplate.Text

section
variable {c d : Char} {source t : Text} {parts ps : List Text}

/-! ## Joining the pieces -/

theorem length_consFirst (h : ps ≠ []) : (consFirst c ps).length = ps.length := by
  cases ps with
  | nil => exact absurd rfl h
  | cons p ps => rfl

theorem join_consFirst (h : ps ≠ []) : join [d] (consFirst c ps) = c :: join [d] ps := by
  cases ps with
  | nil => exact absurd rfl h
  | cons p ps => cases ps <;> rfl

theorem join_nil_cons (h : ps ≠ []) : join [d] ([] :: ps) = d :: join [d] ps := by
  cases ps with
  | nil => exact absurd rfl h
  | cons p ps => rfl

/-- There is a piece before each delimiter and one after the last. -/
theorem length_pieces (d : Char) (t : Text) : (pieces [d] t).length = t.count d + 1 := by
  induction t with
  | nil => rfl
  | cons c t ih =>
    by_cases h : c = d
    · subst h
      rw [pieces_cons_self, List.length_cons, ih, List.count_cons_self]
    · rw [pieces_cons_of_ne h, length_consFirst (pieces_ne_nil d t), ih, List.count_cons_of_ne h]

theorem join_pieces (d : Char) (t : Text) : join [d] (pieces [d] t) = t := by
  induction t with
  | nil => rfl
  | cons c t ih =>
    by_cases h : c = d
    · subst h
      rw [pieces_cons_self, join_nil_cons (pieces_ne_nil c t), ih]
    · rw [pieces_cons_of_ne h, join_consFirst (pieces_ne_nil d t), ih]

/-! ## Leaving out the last piece -/

/-- What a delimiter at the end opens is an empty piece, and that one is left out. -/
theorem splitBySymbol_append_self (t : Text) (d : Char) :
    splitBySymbol (t ++ [d]) d = pieces [d] t := by
  have hends : t ++ [d] = [] ∨ (t ++ [d]).getLast? = some d := Or.inr List.getLast?_concat
  rw [splitBySymbol, if_pos hends, pieces_append_delimiter, pieces_nil, List.dropLast_concat]

theorem splitBySymbol_of_not_ends (hne : source ≠ []) (hends : source.getLast? ≠ some d) :
    splitBySymbol source d = pieces [d] source := by
  have hkeep : ¬(source = [] ∨ source.getLast? = some d) := by
    intro h
    cases h with
    | inl hempty => exact hne hempty
    | inr hlast => exact hends hlast
  rw [splitBySymbol, if_neg hkeep]

/-! ## The parts -/

/-- The text without the one `d` that ends it, if a `d` ends it. -/
def dropFinal (d : Char) (source : Text) : Text :=
  if source.getLast? = some d then source.dropLast else source

/-- Parts that have no `d`, that are joined to the text without the `d` at its end, and of which there
is one for each `d` and one for what stands after the last. -/
structure IsSplitAt (d : Char) (source : Text) (parts : List Text) : Prop where
  not_mem : ∀ p ∈ parts, d ∉ p
  join_eq : join [d] parts = dropFinal d source
  length_eq : parts.length =
    source.count d + if source ≠ [] ∧ source.getLast? ≠ some d then 1 else 0

theorem dropFinal_append_self (t : Text) (d : Char) : dropFinal d (t ++ [d]) = t := by
  rw [dropFinal, if_pos List.getLast?_concat, List.dropLast_concat]

theorem isSplitAt_nil (d : Char) : IsSplitAt d [] [] where
  not_mem := by simp
  join_eq := rfl
  length_eq := rfl

theorem isSplitAt_pieces (hne : source ≠ []) (hends : source.getLast? ≠ some d) :
    IsSplitAt d source (pieces [d] source) where
  not_mem := fun _ hp => not_mem_of_mem_pieces hp
  join_eq := by rw [join_pieces, dropFinal, if_neg hends]
  length_eq := by rw [length_pieces, if_pos ⟨hne, hends⟩]

theorem isSplitAt_pieces_append_self (t : Text) (d : Char) :
    IsSplitAt d (t ++ [d]) (pieces [d] t) where
  not_mem := fun _ hp => not_mem_of_mem_pieces hp
  join_eq := by rw [join_pieces, dropFinal_append_self]
  length_eq := by simp [length_pieces]

theorem isSplitAt_splitBySymbol (source : Text) (d : Char) :
    IsSplitAt d source (splitBySymbol source d) := by
  by_cases hne : source = []
  · subst hne
    exact isSplitAt_nil d
  · by_cases hends : source.getLast? = some d
    · obtain ⟨t, rfl⟩ := List.getLast?_eq_some_iff.mp hends
      rw [splitBySymbol_append_self]
      exact isSplitAt_pieces_append_self t d
    · rw [splitBySymbol_of_not_ends hne hends]
      exact isSplitAt_pieces hne hends

/-- Parts without `d` are the pieces of what they are joined to, unless there are none. -/
theorem IsSplitAt.eq_pieces (h : IsSplitAt d source parts) (hne : parts ≠ []) :
    parts = pieces [d] (dropFinal d source) := by
  rw [← h.join_eq, pieces_join hne h.not_mem]

theorem IsSplitAt.ne_nil (h : IsSplitAt d source parts) (hne : source ≠ []) : parts ≠ [] := by
  intro hparts
  have hlength := h.length_eq
  rw [hparts, List.length_nil] at hlength
  by_cases hends : source.getLast? = some d
  · have hcount := List.count_pos_iff.mpr (List.mem_of_getLast? hends)
    omega
  · rw [if_pos ⟨hne, hends⟩] at hlength
    omega

theorem IsSplitAt.unique {qs : List Text} (hps : IsSplitAt d source ps)
    (hqs : IsSplitAt d source qs) : ps = qs := by
  by_cases hne : source = []
  · subst hne
    rw [List.length_eq_zero_iff.mp hps.length_eq, List.length_eq_zero_iff.mp hqs.length_eq]
  · rw [hps.eq_pieces (hps.ne_nil hne), hqs.eq_pieces (hqs.ne_nil hne)]

end

/-- **One delimiter at the end is lost, and nothing else.** The parts have no delimiter, they are joined
to the source without the delimiter at its end, and there is one for each delimiter and one more where
a source that is not empty does not end in it. Only these parts do all that. So any parts without the
delimiter, if there is one at all, come back when they are joined and a delimiter is put at the end. -/
theorem one_final_delimiter_is_lost :
    (∀ (source : Text) (d : Char) (parts : List Text),
      IsSplitAt d source parts ↔ parts = splitBySymbol source d) ∧
    ∀ (d : Char) (parts : List Text), parts ≠ [] → (∀ p ∈ parts, d ∉ p) →
      splitBySymbol (join [d] parts ++ [d]) d = parts := by
  constructor
  · intro source d parts
    have hsplit := isSplitAt_splitBySymbol source d
    constructor
    · intro h
      exact h.unique hsplit
    · intro heq
      rw [heq]
      exact hsplit
  · intro d parts hne hparts
    rw [splitBySymbol_append_self, pieces_join hne hparts]

/-- Nothing but delimiters, of which only the last one is lost, and parts that are empty. -/
theorem euroSigns_split :
    IsSplitAt '€' "€€".toList [[], []] ∧ IsSplitAt '€' "€".toList [[]] ∧ IsSplitAt '€' [] [] ∧
    splitBySymbol (join ['€'] [[], "a#".toList, []] ++ ['€']) '€' = [[], "a#".toList, []] := by
  obtain ⟨hiff, hback⟩ := one_final_delimiter_is_lost
  refine ⟨?_, ?_, ?_, ?_⟩
  · exact (hiff _ _ _).mpr rfl
  · exact (hiff _ _ _).mpr rfl
  · exact (hiff _ _ _).mpr rfl
  · exact hback '€' _ (by decide) (by decide)

end ChoiceTemplate.Text

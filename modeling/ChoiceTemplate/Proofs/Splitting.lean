import ChoiceTemplate.Text.Split

/-
  Cutting and joining at one character.

  The pieces at a character `d` never contain `d`, a text without `d` is its own piece, and the
  pieces of two texts with a `d` between them are those of the one followed by those of the other
  (`pieces_append_delimiter`). `split` inherits all of this, because it cleans each piece by
  itself (`split_append_delimiter`, `split_join`), and it adds and moves no character
  (`sublist_of_mem_split`). `splitOnce` cuts at a character exactly where a part without it ends
  (`splitOnce_eq_some`).
-/
namespace ChoiceTemplate.Text

/-! ## Pieces -/

section
variable {c d : Char} {p t a b : Text}

theorem consFirst_append {ps : List Text} (h : ps ≠ []) (qs : List Text) :
    consFirst c (ps ++ qs) = consFirst c ps ++ qs := by
  cases ps with
  | nil => exact absurd rfl h
  | cons p ps => rfl

theorem consFirst_ne_nil (ps : List Text) : consFirst c ps ≠ [] := by
  cases ps <;> simp [consFirst]

theorem pieces_nil (d : Char) : pieces [d] [] = [[]] := rfl

theorem pieces_cons_self (d : Char) (t : Text) : pieces [d] (d :: t) = [] :: pieces [d] t := by
  simp [pieces, piecesAfter]

theorem pieces_cons_of_ne (h : c ≠ d) (t : Text) :
    pieces [d] (c :: t) = consFirst c (pieces [d] t) := by
  have h' : d ≠ c := fun e => h e.symm
  simp [pieces, piecesAfter, h']

theorem pieces_ne_nil (d : Char) (t : Text) : pieces [d] t ≠ [] := by
  cases t with
  | nil => simp [pieces_nil]
  | cons c t =>
    by_cases h : c = d
    · subst h
      simp [pieces_cons_self]
    · rw [pieces_cons_of_ne h]
      exact consFirst_ne_nil _

theorem pieces_append_delimiter (d : Char) (a b : Text) :
    pieces [d] (a ++ d :: b) = pieces [d] a ++ pieces [d] b := by
  induction a with
  | nil => rw [List.nil_append, pieces_cons_self, pieces_nil]; rfl
  | cons c a ih =>
    rw [List.cons_append]
    by_cases h : c = d
    · subst h
      rw [pieces_cons_self, pieces_cons_self, ih, List.cons_append]
    · rw [pieces_cons_of_ne h, pieces_cons_of_ne h, ih, consFirst_append (pieces_ne_nil d a)]

theorem pieces_of_not_mem (h : d ∉ t) : pieces [d] t = [t] := by
  induction t with
  | nil => rfl
  | cons c t ih =>
    have hc : d ≠ c := List.ne_of_not_mem_cons h
    rw [pieces_cons_of_ne hc.symm, ih (List.not_mem_of_not_mem_cons h), consFirst]

theorem not_mem_of_mem_pieces (h : p ∈ pieces [d] t) : d ∉ p := by
  induction t generalizing p with
  | nil =>
    rw [pieces_nil, List.mem_singleton] at h
    subst h
    exact List.not_mem_nil
  | cons c t ih =>
    by_cases hc : c = d
    · subst hc
      rw [pieces_cons_self] at h
      rcases List.mem_cons.mp h with rfl | h
      · exact List.not_mem_nil
      · exact ih h
    · -- The character joins the first piece, which has no `d` either.
      rw [pieces_cons_of_ne hc] at h
      obtain ⟨q, qs, hq⟩ := List.exists_cons_of_ne_nil (pieces_ne_nil d t)
      rw [hq] at h ih
      rcases List.mem_cons.mp h with rfl | h
      · exact List.not_mem_cons_of_ne_of_not_mem (Ne.symm hc) (ih List.mem_cons_self)
      · exact ih (List.mem_cons_of_mem q h)

theorem sublist_of_mem_pieces (h : p ∈ pieces [d] t) : p.Sublist t := by
  induction t generalizing p with
  | nil =>
    rw [pieces_nil, List.mem_singleton] at h
    subst h
    exact List.Sublist.refl []
  | cons c t ih =>
    by_cases hc : c = d
    · subst hc
      rw [pieces_cons_self] at h
      rcases List.mem_cons.mp h with rfl | h
      · exact List.nil_sublist _
      · exact (ih h).cons c
    · rw [pieces_cons_of_ne hc] at h
      obtain ⟨q, qs, hq⟩ := List.exists_cons_of_ne_nil (pieces_ne_nil d t)
      rw [hq] at h ih
      rcases List.mem_cons.mp h with rfl | h
      · exact (ih List.mem_cons_self).cons_cons c
      · exact (ih (List.mem_cons_of_mem q h)).cons c

/-- Joining with `d` and cutting at `d` are inverse, except that no text at all and one empty text
are joined alike. -/
theorem pieces_join {ps : List Text} (hne : ps ≠ []) (h : ∀ p ∈ ps, d ∉ p) :
    pieces [d] (join [d] ps) = ps := by
  induction ps with
  | nil => exact absurd rfl hne
  | cons p ps ih =>
    have hp : pieces [d] p = [p] := pieces_of_not_mem (h p List.mem_cons_self)
    -- `join` writes a delimiter only between two texts.
    cases ps with
    | nil => exact hp
    | cons q qs =>
      have hqs := ih (by simp) (fun x hx => h x (List.mem_cons_of_mem p hx))
      rw [join, List.append_assoc, List.singleton_append, pieces_append_delimiter, hp, hqs]
      rfl

/-! ## Cleaning -/

theorem dropFinalComma_append_comma (t : Text) : dropFinalComma (t ++ [',']) = t := by
  induction t with
  | nil => rfl
  | cons c t ih =>
    cases t with
    | nil => rfl
    | cons e t => rw [List.cons_append, List.cons_append, dropFinalComma, ← List.cons_append, ih]

theorem dropFinalComma_sublist (t : Text) : (dropFinalComma t).Sublist t := by
  induction t with
  | nil => exact List.Sublist.refl []
  | cons c t ih =>
    cases t with
    | nil =>
      rw [dropFinalComma]
      split
      · exact List.nil_sublist [c]
      · exact List.Sublist.refl [c]
    | cons e t => exact ih.cons_cons c

theorem clean_sublist (p : Text) : (clean p).Sublist p :=
  (dropFinalComma_sublist _).trans List.filter_sublist

/-- Cleaning only takes characters away, and every double quote. -/
theorem mem_clean (h : c ∈ clean p) : c ∈ p ∧ c ≠ '"' := by
  have hc := List.mem_filter.mp ((dropFinalComma_sublist _).mem h)
  exact ⟨hc.1, of_decide_eq_true hc.2⟩

/-- A comma at the end protects a text without double quotes from being changed. -/
theorem clean_append_comma (h : '"' ∉ t) : clean (t ++ [',']) = t := by
  have hq : (t ++ [',']).filter (· ≠ '"') = t ++ [','] := by
    rw [List.filter_eq_self]
    intro c hc
    rcases List.mem_append.mp hc with hc | hc
    · exact decide_eq_true (fun e => h (e ▸ hc))
    · rw [List.mem_singleton.mp hc]; rfl
  rw [clean, hq, dropFinalComma_append_comma]

/-! ## Cleaned pieces -/

/-- The texts that are left of some pieces. -/
def cleanAll (ps : List Text) : List Text := ((ps.filter (· ≠ [])).map clean).filter (· ≠ [])

theorem split_eq_cleanAll (t : Text) (d : Char) : split t [d] = cleanAll (pieces [d] t) := by
  rw [split, if_neg (by simp)]; rfl

theorem cleanAll_append (ps qs : List Text) : cleanAll (ps ++ qs) = cleanAll ps ++ cleanAll qs := by
  simp only [cleanAll, List.filter_append, List.map_append]

/-- Pieces that a comma ends stay as they are without the comma, unless nothing is left. -/
theorem cleanAll_commas {ts : List Text} (h : ∀ t ∈ ts, '"' ∉ t) :
    cleanAll (ts.map (· ++ [','])) = ts.filter (· ≠ []) := by
  have hne : (ts.map (· ++ [','])).filter (· ≠ []) = ts.map (· ++ [',']) := by
    rw [List.filter_eq_self]
    intro p hp
    obtain ⟨t, -, rfl⟩ := List.mem_map.mp hp
    simp
  have hclean : (ts.map (· ++ [','])).map clean = ts := by
    rw [List.map_map]
    exact (List.map_congr_left fun t ht => clean_append_comma (h t ht)).trans (List.map_id ts)
  rw [cleanAll, hne, hclean]

theorem mem_cleanAll {ps : List Text} (h : t ∈ cleanAll ps) : t ≠ [] ∧ ∃ p ∈ ps, clean p = t := by
  obtain ⟨ht, hne⟩ := List.mem_filter.mp h
  obtain ⟨p, hp, rfl⟩ := List.mem_map.mp ht
  exact ⟨of_decide_eq_true hne, p, (List.mem_filter.mp hp).1, rfl⟩

theorem length_cleanAll_le (ps : List Text) : (cleanAll ps).length ≤ ps.length := by
  rw [cleanAll]
  calc (((ps.filter (· ≠ [])).map clean).filter (· ≠ [])).length
      ≤ ((ps.filter (· ≠ [])).map clean).length := List.length_filter_le _ _
    _ = (ps.filter (· ≠ [])).length := List.length_map _
    _ ≤ ps.length := List.length_filter_le _ _

/-- What a cleaned piece never is and never contains. -/
theorem of_mem_split (h : t ∈ split a [d]) : t ≠ [] ∧ d ∉ t ∧ '"' ∉ t := by
  rw [split_eq_cleanAll] at h
  obtain ⟨hne, p, hp, rfl⟩ := mem_cleanAll h
  refine ⟨hne, ?_, ?_⟩
  · exact fun hd => not_mem_of_mem_pieces hp (mem_clean hd).1
  · exact fun hq => (mem_clean hq).2 rfl

theorem sublist_of_mem_split (h : t ∈ split a [d]) : t.Sublist a := by
  rw [split_eq_cleanAll] at h
  obtain ⟨-, p, hp, rfl⟩ := mem_cleanAll h
  exact (clean_sublist p).trans (sublist_of_mem_pieces hp)

theorem split_append_delimiter (d : Char) (a b : Text) :
    split (a ++ d :: b) [d] = split a [d] ++ split b [d] := by
  rw [split_eq_cleanAll, split_eq_cleanAll, split_eq_cleanAll, pieces_append_delimiter, cleanAll_append]

theorem split_join {ps : List Text} (h : ∀ p ∈ ps, d ∉ p) : split (join [d] ps) [d] = cleanAll ps := by
  rw [split_eq_cleanAll]
  cases ps with
  | nil => rfl
  | cons p ps => rw [pieces_join (by simp) h]

/-! ## One cut -/

theorem splitOnce_append (h : c ∉ a) (b : Text) : splitOnce c (a ++ c :: b) = some (a, b) := by
  induction a with
  | nil => simp [splitOnce]
  | cons d a ih =>
    have hd : c ≠ d := List.ne_of_not_mem_cons h
    rw [List.cons_append, splitOnce, if_neg hd.symm, ih (List.not_mem_of_not_mem_cons h)]
    rfl

theorem splitOnce_eq_none : splitOnce c t = none ↔ c ∉ t := by
  induction t with
  | nil => simp [splitOnce]
  | cons d t ih =>
    by_cases hd : d = c
    · simp [splitOnce, hd]
    · simp [splitOnce, hd, ih, Ne.symm hd]

/-- The cut at `c` is the one whose first part has no `c`. -/
theorem splitOnce_eq_some : splitOnce c t = some (a, b) ↔ t = a ++ c :: b ∧ c ∉ a := by
  constructor
  · intro h
    induction t generalizing a with
    | nil => simp [splitOnce] at h
    | cons d t ih =>
      rw [splitOnce] at h
      split at h
      · next hd =>
        obtain ⟨rfl, rfl⟩ := Prod.mk.inj (Option.some.inj h)
        exact ⟨by rw [hd]; rfl, List.not_mem_nil⟩
      · next hd =>
        obtain ⟨⟨x, y⟩, hxy, hab⟩ := Option.map_eq_some_iff.mp h
        obtain ⟨rfl, rfl⟩ := Prod.mk.inj hab
        obtain ⟨rfl, hx⟩ := ih hxy
        exact ⟨rfl, List.not_mem_cons_of_ne_of_not_mem (Ne.symm hd) hx⟩
  · rintro ⟨rfl, h⟩
    exact splitOnce_append h b

end

end ChoiceTemplate.Text

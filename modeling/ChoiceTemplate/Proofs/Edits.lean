import ChoiceTemplate.EditDistance
import Mathlib.Order.Bounds.Basic

/-
  Edits, and what they cost together.

  An edit inserts, deletes or replaces one character of a text or swaps two neighbours, and edits follow
  one another in any order: also one that swaps characters after those between them were deleted, or
  that undoes an earlier one. `cost` is the recursion that the table of distances is filled by. It pairs
  the characters of two texts once, from one end to the other, and never undoes anything. This file
  proves that nothing is lost by that (`isLeast_cost`).

    1. `Aligned` is the relation in between. The recursion takes the cheapest of some alignments
       (`aligned_cost`), and no alignment is cheaper (`cost_le`): a swap across other characters may as
       well take the last characters that fit.
    2. The pairs of an alignment can be edited one by one (`Aligned.exists_edits`).
    3. Conversely one more edit of the second text costs at most one more (`Aligned.edit`). An edit in
       the middle of a swap is the only case that is not near at hand: `Edit.append_cons_cases` says
       what it leaves of the swap, and `Aligned.of_cons` what a swap of neighbours does to a pair.
-/
namespace ChoiceTemplate.EditDistance

/-! ## Edits -/

/-- One edit of a text. -/
inductive Edit : Text → Text → Prop
  | insert (c : Char) (t : Text) : Edit t (c :: t)
  | delete (c : Char) (t : Text) : Edit (c :: t) t
  | replace (c d : Char) (t : Text) : Edit (c :: t) (d :: t)
  | swap (c d : Char) (t : Text) : Edit (c :: d :: t) (d :: c :: t)
  | skip (c : Char) {a b : Text} : Edit a b → Edit (c :: a) (c :: b)

/-- A number of edits, one after another. -/
inductive Edits : Nat → Text → Text → Prop
  | none (t : Text) : Edits 0 t t
  | more {n : Nat} {a b c : Text} : Edits n a b → Edit b c → Edits (n + 1) a c

section
variable {a b c s t : Text} {m n : Nat}

theorem Edit.skipAll (p : Text) (h : Edit a b) : Edit (p ++ a) (p ++ b) := by
  induction p with
  | nil => exact h
  | cons c p ih => exact ih.skip c

theorem Edit.append (h : Edit a b) (s : Text) : Edit (a ++ s) (b ++ s) := by
  induction h with
  | insert c t => exact .insert c (t ++ s)
  | delete c t => exact .delete c (t ++ s)
  | replace c d t => exact .replace c d (t ++ s)
  | swap c d t => exact .swap c d (t ++ s)
  | skip c _ ih => exact ih.skip c

theorem Edit.reverse (h : Edit a b) : Edit a.reverse b.reverse := by
  induction h with
  | insert c t => simpa using (Edit.insert c []).skipAll t.reverse
  | delete c t => simpa using (Edit.delete c []).skipAll t.reverse
  | replace c d t => simpa using (Edit.replace c d []).skipAll t.reverse
  | swap c d t => simpa using (Edit.swap d c []).skipAll t.reverse
  | skip c _ ih => simpa using ih.append [c]

theorem Edit.symm (h : Edit a b) : Edit b a := by
  induction h with
  | insert c t => exact .delete c t
  | delete c t => exact .insert c t
  | replace c d t => exact .replace d c t
  | swap c d t => exact .swap d c t
  | skip c _ ih => exact ih.skip c

theorem Edits.skipAll (p : Text) (h : Edits n a b) : Edits n (p ++ a) (p ++ b) := by
  induction h with
  | none t => exact .none (p ++ t)
  | more _ hedit ih => exact ih.more (hedit.skipAll p)

theorem Edits.reverse (h : Edits n a b) : Edits n a.reverse b.reverse := by
  induction h with
  | none t => exact .none t.reverse
  | more _ hedit ih => exact ih.more hedit.reverse

theorem Edits.trans (h : Edits m a b) (h' : Edits n b c) : Edits (m + n) a c := by
  induction h' with
  | none => exact h
  | more _ hedit ih => exact (ih h).more hedit

theorem Edit.once (h : Edit a b) : Edits 1 a b := (Edits.none a).more h

theorem Edits.symm (h : Edits n a b) : Edits n b a := by
  induction h with
  | none t => exact .none t
  | @more n _ _ _ _ hedit ih =>
    rw [Nat.add_comm n]
    exact hedit.symm.once.trans ih

theorem edits_insert (v t : Text) : Edits v.length t (v ++ t) := by
  induction v with
  | nil => exact .none t
  | cons d v ih => exact ih.more (.insert d (v ++ t))

theorem edits_delete (u t : Text) : Edits u.length (u ++ t) t := by
  induction u with
  | nil => exact .none t
  | cons c u ih => exact (ih.skipAll [c]).more (.delete c t)

theorem eq_of_edits_zero (h : Edits 0 a b) : a = b := by
  cases h with
  | none => rfl

theorem edit_of_edits_one (h : Edits 1 a b) : Edit a b := by
  cases h with
  | more h hedit => exact eq_of_edits_zero h ▸ hedit

end

/-! ## Alignments -/

/-- The characters of two texts can be paired at a cost that is not above a number. Two that are paired
are equal, or one replaces the other. What is left out of the first text is deleted, what is left out
of the second is inserted. And two pairs may cross each other where nothing else is paired in between.
-/
inductive Aligned : Nat → Text → Text → Prop
  | nil : Aligned 0 [] []
  | keep (c : Char) {n : Nat} {a b : Text} : Aligned n a b → Aligned n (c :: a) (c :: b)
  | replace (c d : Char) {n : Nat} {a b : Text} : Aligned n a b → Aligned (n + 1) (c :: a) (d :: b)
  | delete (c : Char) {n : Nat} {a b : Text} : Aligned n a b → Aligned (n + 1) (c :: a) b
  | insert (d : Char) {n : Nat} {a b : Text} : Aligned n a b → Aligned (n + 1) a (d :: b)
  | cross (c d : Char) (u v : Text) {n : Nat} {a b : Text} : Aligned n a b →
      Aligned (n + u.length + 1 + v.length) (c :: (u ++ d :: a)) (d :: (v ++ c :: b))
  | spare {n : Nat} {a b : Text} : Aligned n a b → Aligned (n + 1) a b

section
variable {a b t : Text} {c d x : Char} {m n : Nat}

theorem Aligned.of_le (h : Aligned m a b) (hle : m ≤ n) : Aligned n a b := by
  induction hle with
  | refl => exact h
  | step _ ih => exact ih.spare

theorem aligned_min (h : Aligned m a b) (h' : Aligned n a b) : Aligned (min m n) a b := by
  rcases Nat.le_total m n with hle | hle
  · rwa [Nat.min_eq_left hle]
  · rwa [Nat.min_eq_right hle]

theorem Aligned.insertAll (v : Text) (h : Aligned n a b) : Aligned (n + v.length) a (v ++ b) := by
  induction v with
  | nil => exact h
  | cons d v ih => exact ih.insert d

theorem Aligned.deleteAll (u : Text) (h : Aligned n a b) : Aligned (n + u.length) (u ++ a) b := by
  induction u with
  | nil => exact h
  | cons c u ih => exact ih.delete c

theorem Aligned.refl (t : Text) : Aligned 0 t t := by
  induction t with
  | nil => exact .nil
  | cons c t ih => exact ih.keep c

/-! ## From alignments to edits -/

theorem Aligned.exists_edits (h : Aligned n a b) : ∃ m ≤ n, Edits m a b := by
  induction h with
  | nil => exact ⟨0, Nat.le_refl 0, .none []⟩
  | keep c _ ih =>
    obtain ⟨m, hm, hedits⟩ := ih
    exact ⟨m, hm, hedits.skipAll [c]⟩
  | replace c d _ ih =>
    obtain ⟨m, hm, hedits⟩ := ih
    exact ⟨m + 1, by omega, (hedits.skipAll [c]).more (.replace c d _)⟩
  | delete c _ ih =>
    obtain ⟨m, hm, hedits⟩ := ih
    exact ⟨m + 1, by omega, (hedits.skipAll [c]).more (.delete c _)⟩
  | insert d _ ih =>
    obtain ⟨m, hm, hedits⟩ := ih
    exact ⟨m + 1, by omega, hedits.more (.insert d _)⟩
  | @cross c d u v n a b _ ih =>
    obtain ⟨m, hm, hedits⟩ := ih
    -- What is between the two is deleted before they change places, and inserted after.
    have hrest : Edits m (c :: (u ++ d :: a)) (c :: (u ++ d :: b)) := by
      simpa using hedits.skipAll (c :: (u ++ [d]))
    have hdelete : Edits u.length (c :: (u ++ d :: b)) (c :: d :: b) :=
      (edits_delete u (d :: b)).skipAll [c]
    have hinsert : Edits v.length (d :: c :: b) (d :: (v ++ c :: b)) :=
      (edits_insert v (c :: b)).skipAll [d]
    exact ⟨m + u.length + 1 + v.length, by omega,
      ((hrest.trans hdelete).more (.swap c d b)).trans hinsert⟩
  | spare _ ih =>
    obtain ⟨m, hm, hedits⟩ := ih
    exact ⟨m, by omega, hedits⟩

/-! ## From edits to alignments -/

/-- The first character of the second text can be dropped, unless it is paired with an equal one. -/
theorem Aligned.of_cons (h : Aligned n a (x :: b)) :
    Aligned n a b ∨ ∃ u rest m, a = u ++ x :: rest ∧ Aligned m rest b ∧ m + u.length ≤ n := by
  generalize hb : x :: b = b' at h
  induction h generalizing b with
  | nil => cases hb
  | keep c h _ =>
    cases hb
    exact .inr ⟨[], _, _, rfl, h, Nat.le_refl _⟩
  | replace c d h _ =>
    cases hb
    exact .inl (h.delete c)
  | delete c _ ih =>
    rcases ih hb with h | ⟨u, rest, m, rfl, h, hle⟩
    · exact .inl (h.delete c)
    · refine .inr ⟨c :: u, rest, m, rfl, h, ?_⟩
      rw [List.length_cons]
      omega
  | insert d h _ =>
    cases hb
    exact .inl h.spare
  | cross c d u v h _ =>
    cases hb
    -- Without the first character nothing is left to cross.
    refine .inl (((((h.delete x).deleteAll u).keep c).insertAll v).of_le ?_)
    omega
  | spare _ ih =>
    rcases ih hb with h | ⟨u, rest, m, rfl, h, hle⟩
    · exact .inl h.spare
    · exact .inr ⟨u, rest, m, rfl, h, by omega⟩

/-- What one edit leaves of a text with a character in the middle: either the character stays, and the
edit is before it or after it; or it goes, and there may be something else after it. -/
theorem Edit.append_cons_cases {v : Text} (h : Edit (v ++ x :: b) t) :
    (∃ v' b', t = v' ++ x :: b' ∧
      (v'.length ≤ v.length + 1 ∧ b' = b ∨ v'.length ≤ v.length ∧ Edit b b')) ∨
    ∃ b', t = v ++ b' ∧ (b' = b ∨ Edit b b') := by
  induction v generalizing t with
  | nil =>
    cases h with
    | insert d => exact .inl ⟨[d], b, rfl, .inl ⟨Nat.le_refl 1, rfl⟩⟩
    | delete => exact .inr ⟨b, rfl, .inl rfl⟩
    | replace _ d => exact .inr ⟨d :: b, rfl, .inr (.insert d b)⟩
    | swap _ d b => exact .inr ⟨d :: x :: b, rfl, .inr ((Edit.insert x b).skip d)⟩
    | skip _ h => exact .inl ⟨[], _, rfl, .inr ⟨Nat.le_refl 0, h⟩⟩
  | cons z v ih =>
    generalize hs : z :: v ++ x :: b = s at h
    cases h with
    | insert d =>
      refine .inl ⟨d :: z :: v, b, ?_, .inl ⟨by simp, rfl⟩⟩
      rw [← hs]
      rfl
    | delete =>
      cases hs
      exact .inl ⟨v, b, rfl, .inl ⟨by simp; omega, rfl⟩⟩
    | replace _ d =>
      cases hs
      exact .inl ⟨d :: v, b, rfl, .inl ⟨by simp, rfl⟩⟩
    | swap _ d rest =>
      cases v with
      | nil =>
        cases hs
        exact .inl ⟨[], z :: b, rfl, .inr ⟨by simp, .insert z b⟩⟩
      | cons w v =>
        cases hs
        exact .inl ⟨d :: z :: v, b, rfl, .inl ⟨by simp, rfl⟩⟩
    | skip _ h =>
      cases hs
      rcases ih h with ⟨v', b', rfl, hcase⟩ | ⟨b', rfl, hcase⟩
      · refine .inl ⟨z :: v', b', rfl, ?_⟩
        simpa using hcase
      · exact .inr ⟨b', rfl, hcase⟩

/-- One more edit costs at most one more. -/
theorem Aligned.edit (h : Aligned n a b) (hedit : Edit b t) : Aligned (n + 1) a t := by
  induction h generalizing t with
  | nil =>
    cases hedit with
    | insert d => exact Aligned.nil.insert d
  | @keep c n a b h ih =>
    cases hedit with
    | insert d => exact (h.keep c).insert d
    | delete => exact h.delete c
    | replace _ d => exact h.replace c d
    | @swap _ e b =>
      rcases h.of_cons with h | ⟨u, rest, m, rfl, h, hle⟩
      · exact (h.keep c).insert e
      · exact (h.cross c e u []).of_le (by simp; omega)
    | skip _ hedit => exact (ih hedit).keep c
  | @replace c d n a b h ih =>
    cases hedit with
    | insert e => exact (h.replace c d).insert e
    | delete => exact (h.delete c).spare
    | replace _ e => exact (h.replace c e).spare
    | @swap _ e b =>
      rcases h.of_cons with h | ⟨u, rest, m, rfl, h, hle⟩
      · exact (h.replace c d).insert e
      · exact ((((h.insert d).keep e).deleteAll u).delete c).of_le (by omega)
    | skip _ hedit => exact (ih hedit).replace c d
  | delete c _ ih => exact (ih hedit).delete c
  | @insert d n a b h ih =>
    cases hedit with
    | insert e => exact (h.insert d).insert e
    | delete => exact h.spare.spare
    | replace _ e => exact (h.insert e).spare
    | @swap _ e b =>
      rcases h.of_cons with h | ⟨u, rest, m, rfl, h, hle⟩
      · exact (h.insert d).insert e
      · exact (((h.insert d).keep e).deleteAll u).of_le (by omega)
    | skip _ hedit => exact (ih hedit).insert d
  | @cross c d u v n a b h ih =>
    -- Where the swap is given up, what is left of it is kept and the rest is deleted and inserted.
    have hdrop : Aligned (n + 1 + u.length + v.length) (c :: (u ++ d :: a)) (v ++ c :: b) :=
      (((h.delete d).deleteAll u).keep c).insertAll v
    generalize hs : v ++ c :: b = s at hedit
    cases hedit with
    | insert e => exact hs ▸ (h.cross c d u v).insert e
    | delete => exact (hs ▸ hdrop).of_le (by omega)
    | replace _ e => exact ((hs ▸ hdrop).insert e).of_le (by omega)
    | swap _ e rest =>
      cases v with
      | nil =>
        cases hs
        exact (((h.keep d).deleteAll u).keep c).of_le (by omega)
      | cons z v =>
        cases hs
        rw [List.length_cons]
        exact ((h.cross c d u v).insert e).of_le (by omega)
    | skip _ hedit =>
      subst hs
      rcases hedit.append_cons_cases with ⟨v', b', rfl, ⟨hle, rfl⟩ | ⟨hle, hb⟩⟩ | ⟨b', rfl, hb⟩
      · exact (h.cross c d u v').of_le (by omega)
      · exact ((ih hb).cross c d u v').of_le (by omega)
      · have h' : Aligned (n + 1) a b' := by
          rcases hb with rfl | hb
          · exact h.spare
          · exact ih hb
        exact ((((h'.insertAll v).keep d).deleteAll u).delete c).of_le (by omega)
  | spare _ ih => exact (ih hedit).spare

theorem aligned_of_edits (h : Edits n a b) : Aligned n a b := by
  induction h with
  | none t => exact .refl t
  | more _ hedit ih => exact ih.edit hedit

end

/-! ## The recursion -/

/-- The least of what it costs to pair two characters, to insert the second or to delete the first, by
the cost of what is left then. -/
def plainCost (c d : Char) (pair insert delete : Nat) : Nat :=
  min (pair + if c = d then 0 else 1) (min (insert + 1) (delete + 1))

/-- The distance of two texts that are given last character first. A swap takes the last characters
that fit. -/
def cost : Text → Text → Nat
  | [], b => b.length
  | _ :: a, [] => a.length + 1
  | c :: a, d :: b =>
    let plain := plainCost c d (cost a b) (cost (c :: a) b) (cost a (d :: b))
    match sinceLast? d a, sinceLast? c b with
    | some i, some j => min plain (cost (a.drop (i + 1)) (b.drop (j + 1)) + i + 1 + j)
    | _, _ => plain
termination_by a b => a.length + b.length
decreasing_by all_goals simp only [List.length_cons, List.length_drop]; omega

section
variable {a b t : Text} {c d : Char} {i n : Nat}

theorem of_sinceLast? (h : sinceLast? c t = some i) :
    ∃ u, t = u ++ c :: t.drop (i + 1) ∧ u.length = i := by
  induction t generalizing i with
  | nil => cases h
  | cons x t ih =>
    rw [sinceLast?] at h
    split at h
    · next hx =>
      cases h
      exact ⟨[], by rw [hx]; rfl, rfl⟩
    · obtain ⟨i, hi, rfl⟩ := Option.map_eq_some_iff.mp h
      obtain ⟨u, ht, rfl⟩ := ih hi
      exact ⟨x :: u, congrArg (x :: ·) ht, rfl⟩

/-- The last place is no farther than any place, and what is before it goes beyond. -/
theorem sinceLast?_append (c : Char) (u t : Text) :
    ∃ i s, sinceLast? c (u ++ c :: t) = some i ∧ (u ++ c :: t).drop (i + 1) = s ++ t ∧
      i + s.length = u.length := by
  induction u with
  | nil => exact ⟨0, [], by simp [sinceLast?], rfl, rfl⟩
  | cons x u ih =>
    by_cases hx : x = c
    · exact ⟨0, u ++ [c], by simp [sinceLast?, hx], by simp, by simp⟩
    · obtain ⟨i, s, hi, hdrop, hlength⟩ := ih
      refine ⟨i + 1, s, by simp [sinceLast?, hx, hi], hdrop, ?_⟩
      rw [List.length_cons]
      omega

theorem aligned_plainCost {pair insert delete : Nat} (hpair : Aligned pair a b)
    (hinsert : Aligned insert (c :: a) b) (hdelete : Aligned delete a (d :: b)) :
    Aligned (plainCost c d pair insert delete) (c :: a) (d :: b) := by
  apply aligned_min _ (aligned_min (hinsert.insert d) (hdelete.delete c))
  split
  · next h => exact h ▸ hpair.keep c
  · exact hpair.replace c d

/-- The recursion takes the cheapest of some alignments. -/
theorem aligned_cost (a b : Text) : Aligned (cost a b) a b := by
  fun_induction cost a b with
  | case1 b => simpa using Aligned.nil.insertAll b
  | case2 c a => simpa using Aligned.nil.deleteAll (c :: a)
  | case3 c a d b _ i j hj hi hpair hinsert hdelete hrest =>
    obtain ⟨u, hu, hulength⟩ := of_sinceLast? hi
    obtain ⟨v, hv, hvlength⟩ := of_sinceLast? hj
    have hcross := hrest.cross c d u v
    rw [← hu, ← hv, hulength, hvlength] at hcross
    exact aligned_min (aligned_plainCost hpair hinsert hdelete) hcross
  | case4 c a d b _ _ hpair hinsert hdelete => exact aligned_plainCost hpair hinsert hdelete

/-! ## No alignment is cheaper -/

theorem cost_nil (a : Text) : cost a [] = a.length := by
  cases a with
  | nil => rw [cost]
  | cons c a => rw [cost, List.length_cons]

theorem cost_cons_le (c d : Char) (a b : Text) :
    cost (c :: a) (d :: b) ≤ plainCost c d (cost a b) (cost (c :: a) b) (cost a (d :: b)) := by
  rw [cost]
  split
  · exact Nat.min_le_left _ _
  · exact Nat.le_refl _

theorem cost_delete_le (c : Char) (a b : Text) : cost (c :: a) b ≤ cost a b + 1 := by
  cases b with
  | nil => rw [cost_nil, cost_nil, List.length_cons]
  | cons d b =>
    have := cost_cons_le c d a b
    rw [plainCost] at this
    omega

theorem cost_insert_le (d : Char) (a b : Text) : cost a (d :: b) ≤ cost a b + 1 := by
  cases a with
  | nil => rw [cost, cost, List.length_cons]
  | cons c a =>
    have := cost_cons_le c d a b
    rw [plainCost] at this
    omega

theorem cost_append_le (u v a b : Text) :
    cost (u ++ a) (v ++ b) ≤ cost a b + u.length + v.length := by
  induction u with
  | nil =>
    induction v with
    | nil => exact Nat.le_refl _
    | cons d v ih =>
      have := cost_insert_le d a (v ++ b)
      rw [List.nil_append, List.length_cons, List.cons_append] at *
      omega
  | cons c u ih =>
    have := cost_delete_le c (u ++ a) (v ++ b)
    rw [List.length_cons, List.cons_append]
    omega

/-- A swap across other characters costs no more if they are the last ones that fit: what is not
crossed then is deleted or inserted. -/
theorem cost_cross_le (c d : Char) (u v a b : Text) :
    cost (c :: (u ++ d :: a)) (d :: (v ++ c :: b)) ≤ cost a b + u.length + 1 + v.length := by
  obtain ⟨i, s, hi, hdrop, hs⟩ := sinceLast?_append d u a
  obtain ⟨j, s', hj, hdrop', hs'⟩ := sinceLast?_append c v b
  have hrest := cost_append_le s s' a b
  rw [cost, hi, hj]
  simp only [hdrop, hdrop']
  omega

theorem cost_le (h : Aligned n a b) : cost a b ≤ n := by
  induction h with
  | nil => rw [cost]; exact Nat.le_refl 0
  | @keep c n a b _ ih =>
    have := cost_cons_le c c a b
    rw [plainCost, if_pos rfl] at this
    omega
  | @replace c d n a b _ ih =>
    have := cost_cons_le c d a b
    rw [plainCost] at this
    split at this <;> omega
  | @delete c n a b _ ih =>
    have := cost_delete_le c a b
    omega
  | @insert d n a b _ ih =>
    have := cost_insert_le d a b
    omega
  | @cross c d u v n a b _ ih =>
    have := cost_cross_le c d u v a b
    omega
  | spare _ ih => omega

/-- **The recursion finds the least number of edits.** -/
theorem isLeast_cost (a b : Text) : IsLeast {n | Edits n a b} (cost a b) := by
  have hleast : ∀ n, Edits n a b → cost a b ≤ n := fun n h => cost_le (aligned_of_edits h)
  refine ⟨?_, fun n h => hleast n h⟩
  obtain ⟨m, hm, hedits⟩ := (aligned_cost a b).exists_edits
  have heq : m = cost a b := Nat.le_antisymm hm (hleast m hedits)
  exact heq ▸ hedits

end

end ChoiceTemplate.EditDistance

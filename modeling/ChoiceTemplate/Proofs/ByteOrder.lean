import ChoiceTemplate.Proofs.LinePositions

/-
  The order of texts is the order of their bytes.

  `Text.before` compares texts character by character, each by its code point. Files and maps compare
  them byte by byte in their UTF-8 form. A character with a larger code point has bytes that come later,
  whatever follows either of them (`Encodes.append_lt`): it has a larger first byte if it has
  more bytes, and otherwise the same number of digits to the base 64, of which the first that differs
  decides. So the two orders are one (`before_iff`), and `before` is a strict order of all texts
  (`before_irrefl`, `before_trans`, `before_or_eq_or_before`).
-/
namespace ChoiceTemplate.Text

/-! ## Bytes -/

section
variable {x y : Nat} {s t : List UInt8}

theorem ofNat_lt_ofNat (hxy : x < y) (hy : y < 256) : UInt8.ofNat x < UInt8.ofNat y := by
  rw [UInt8.lt_iff_toNat_lt, UInt8.toNat_ofNat', UInt8.toNat_ofNat']
  omega

theorem ofNat_cons_lt (hxy : x < y) (hy : y < 256) (s t : List UInt8) :
    UInt8.ofNat x :: s < UInt8.ofNat y :: t := by
  rw [List.cons_lt_cons_iff]
  exact Or.inl (ofNat_lt_ofNat hxy hy)

/-- Where the first bytes may be equal, the rest decides if they are. -/
theorem ofNat_cons_lt_of_le (hxy : x ≤ y) (hy : y < 256) (h : x = y → s < t) :
    UInt8.ofNat x :: s < UInt8.ofNat y :: t := by
  rcases Nat.lt_or_eq_of_le hxy with hlt | heq
  · exact ofNat_cons_lt hlt hy s t
  · subst heq
    rw [List.cons_lt_cons_iff]
    exact Or.inr ⟨rfl, h rfl⟩

end

/-! ## Characters -/

section
variable {a b c : Char} {p q : List UInt8}

theorem toNat_lt_limit (c : Char) : c.toNat < 0x110000 := by
  have hvalid : c.toNat < 0xd800 ∨ 0xdfff < c.toNat ∧ c.toNat < 0x110000 := c.valid
  omega

/-- The bytes of a character by the size of its code point. -/
inductive Encodes (c : Char) : List UInt8 → Prop
  | one : c.toNat ≤ 0x7f → Encodes c [UInt8.ofNat c.toNat]
  | two : 0x7f < c.toNat → c.toNat ≤ 0x7ff →
      Encodes c [UInt8.ofNat (c.toNat / 64 % 32 + 192), UInt8.ofNat (c.toNat % 64 + 128)]
  | three : 0x7ff < c.toNat → c.toNat ≤ 0xffff →
      Encodes c [UInt8.ofNat (c.toNat / 4096 % 16 + 224), UInt8.ofNat (c.toNat / 64 % 64 + 128),
        UInt8.ofNat (c.toNat % 64 + 128)]
  | four : 0xffff < c.toNat →
      Encodes c [UInt8.ofNat (c.toNat / 262144 % 8 + 240), UInt8.ofNat (c.toNat / 4096 % 64 + 128),
        UInt8.ofNat (c.toNat / 64 % 64 + 128), UInt8.ofNat (c.toNat % 64 + 128)]

theorem encodes_utf8EncodeChar (c : Char) : Encodes c (String.utf8EncodeChar c) := by
  have hval : c.val.toNat = c.toNat := rfl
  rw [String.utf8EncodeChar, hval]
  split
  · next h => exact .one h
  · next h =>
    split
    · next h' => exact .two (by omega) h'
    · next h' =>
      split
      · next h'' => exact .three (by omega) h''
      · next h'' => exact .four (by omega)

theorem Encodes.nil_lt (h : Encodes c p) (t : List UInt8) : [] < p ++ t := by
  cases h with
  | one h => exact List.nil_lt_cons _ _
  | two h h' => exact List.nil_lt_cons _ _
  | three h h' => exact List.nil_lt_cons _ _
  | four h => exact List.nil_lt_cons _ _

/-- A larger code point has later bytes, whatever follows. -/
theorem Encodes.append_lt (ha : Encodes a p) (hb : Encodes b q) (h : a.toNat < b.toNat)
    (s t : List UInt8) : p ++ s < q ++ t := by
  have hlimit := toNat_lt_limit b
  cases ha with
  | one ha =>
    cases hb with
    | one hb => exact ofNat_cons_lt (by omega) (by omega) _ _
    | two hb hb' => exact ofNat_cons_lt (by omega) (by omega) _ _
    | three hb hb' => exact ofNat_cons_lt (by omega) (by omega) _ _
    | four hb => exact ofNat_cons_lt (by omega) (by omega) _ _
  | two ha ha' =>
    cases hb with
    | one hb => omega
    | two hb hb' =>
      apply ofNat_cons_lt_of_le (by omega) (by omega)
      intro hfirst
      exact ofNat_cons_lt (by omega) (by omega) _ _
    | three hb hb' => exact ofNat_cons_lt (by omega) (by omega) _ _
    | four hb => exact ofNat_cons_lt (by omega) (by omega) _ _
  | three ha ha' =>
    cases hb with
    | one hb => omega
    | two hb hb' => omega
    | three hb hb' =>
      apply ofNat_cons_lt_of_le (by omega) (by omega)
      intro hfirst
      apply ofNat_cons_lt_of_le (by omega) (by omega)
      intro hsecond
      exact ofNat_cons_lt (by omega) (by omega) _ _
    | four hb => exact ofNat_cons_lt (by omega) (by omega) _ _
  | four ha =>
    cases hb with
    | one hb => omega
    | two hb hb' => omega
    | three hb hb' => omega
    | four hb =>
      apply ofNat_cons_lt_of_le (by omega) (by omega)
      intro hfirst
      apply ofNat_cons_lt_of_le (by omega) (by omega)
      intro hsecond
      apply ofNat_cons_lt_of_le (by omega) (by omega)
      intro hthird
      exact ofNat_cons_lt (by omega) (by omega) _ _

end

/-! ## Texts -/

section
variable {s t u : Text}

theorem utf8_cons (c : Char) (t : Text) : utf8 (c :: t) = String.utf8EncodeChar c ++ utf8 t :=
  List.flatMap_cons

theorem utf8_lt_of_before (h : before s t = true) : utf8 s < utf8 t := by
  induction s generalizing t with
  | nil =>
    cases t with
    | nil => cases h
    | cons b t =>
      rw [utf8_cons]
      exact (encodes_utf8EncodeChar b).nil_lt _
  | cons a s ih =>
    cases t with
    | nil => cases h
    | cons b t =>
      rw [before] at h
      rw [utf8_cons, utf8_cons]
      split at h
      · next hab =>
        subst hab
        exact List.append_left_lt (ih h)
      · have hlt : a.toNat < b.toNat := of_decide_eq_true h
        exact (encodes_utf8EncodeChar a).append_lt (encodes_utf8EncodeChar b) hlt _ _

/-- Of two texts one comes first, unless they are the same. -/
theorem before_or_eq_or_before (s t : Text) : before s t = true ∨ s = t ∨ before t s = true := by
  induction s generalizing t with
  | nil =>
    cases t with
    | nil => exact Or.inr (Or.inl rfl)
    | cons b t => exact Or.inl rfl
  | cons a s ih =>
    cases t with
    | nil => exact Or.inr (Or.inr rfl)
    | cons b t =>
      by_cases hab : a = b
      · subst hab
        simpa [before] using ih t
      · have hne : a.toNat ≠ b.toNat := fun h => hab (Char.toNat_inj.mp h)
        simp [before, hab, Ne.symm hab]
        omega

/-- Comparing code points is comparing bytes. -/
theorem before_iff : before s t = true ↔ utf8 s < utf8 t := by
  constructor
  · exact utf8_lt_of_before
  · intro h
    rcases before_or_eq_or_before s t with hbefore | heq | hafter
    · exact hbefore
    · subst heq
      exact absurd h (List.lt_irrefl _)
    · exact absurd h (List.lt_asymm (utf8_lt_of_before hafter))

theorem before_irrefl (t : Text) : before t t = false := by
  rw [Bool.eq_false_iff, ne_eq, before_iff]
  exact List.lt_irrefl _

theorem before_trans (h : before s t = true) (h' : before t u = true) : before s u = true := by
  rw [before_iff] at h h' ⊢
  exact List.lt_trans h h'

end

end ChoiceTemplate.Text

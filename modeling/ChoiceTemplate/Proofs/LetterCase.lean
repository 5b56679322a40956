import ChoiceTemplate.Text.Split
import Mathlib

/-
  Texts without upper-case letters.

  Letter case is the one of ASCII: `lowercase` leaves no upper-case letter behind, and it leaves a
  text without any alone. So the texts that pattern selectors are matched with are exactly the texts
  without upper-case letters. A character that is no letter stands in a text in lower case exactly
  where it stood before (`toLower_eq_iff`), so texts are cut at such characters alike
  (`splitOnce_lowercase`, `splitAt?_lowercase`, `afterStart?_lowercase`).
-/
namespace ChoiceTemplate.Text

/-- No character is an ASCII letter in upper case. -/
def NoUpper (t : Text) : Prop := ∀ c ∈ t, c.isUpper = false

instance (t : Text) : Decidable t.NoUpper := List.decidableBAll _ _

section
variable {t u : Text}

theorem NoUpper.left (h : NoUpper (t ++ u)) : NoUpper t :=
  fun c hc => h c (List.mem_append_left _ hc)

theorem noUpper_lowercase (t : Text) : NoUpper (lowercase t) := by
  intro c hc
  obtain ⟨d, -, rfl⟩ := List.mem_map.mp hc
  exact d.isUpper_toLower_eq_false

theorem lowercase_of_noUpper (h : NoUpper t) : lowercase t = t := by
  have hsame : ∀ c ∈ t, c.toLower = c := fun c hc =>
    Char.toLower_eq_of_not_isUpper (Bool.eq_false_iff.mp (h c hc))
  rw [lowercase, List.map_congr_left hsame, List.map_id']

end

theorem lowercase_lowercase (t : Text) : lowercase (lowercase t) = lowercase t :=
  lowercase_of_noUpper (noUpper_lowercase t)

/-! ## Characters that are no letters -/

section
variable {c d : Char} {t : Text}

theorem isUpper_eq_false_of_not_isAlpha (h : d.isAlpha = false) : d.isUpper = false := by
  rw [Char.isAlpha, Bool.or_eq_false_iff] at h
  exact h.1

theorem toLower_eq_iff (h : d.isAlpha = false) : c.toLower = d ↔ c = d := by
  constructor
  · intro hc
    have hupper : ¬c.isUpper = true := by
      intro hu
      have halpha : c.toLower.isAlpha = true := by simp [Char.isAlpha, hu]
      rw [hc, h] at halpha
      cases halpha
    rwa [Char.toLower_eq_of_not_isUpper hupper] at hc
  · rintro rfl
    have hupper := isUpper_eq_false_of_not_isAlpha h
    exact Char.toLower_eq_of_not_isUpper (Bool.eq_false_iff.mp hupper)

theorem not_isUpper_of_isDigit (h : c.isDigit = true) : ¬c.isUpper = true := by
  simp only [Char.isUpper, Char.isDigit, Bool.and_eq_true, decide_eq_true_eq,
    UInt32.le_iff_toNat_le, ge_iff_le] at h ⊢
  have : 'A'.val.toNat = 65 := rfl
  have : '9'.val.toNat = 57 := rfl
  omega

theorem isDigit_toLower (c : Char) : c.toLower.isDigit = c.isDigit := by
  by_cases hu : c.isUpper = true
  · have hc : c.isDigit = false := by
      rw [Bool.eq_false_iff]
      exact fun hd => not_isUpper_of_isDigit hd hu
    have halpha : c.toLower.isAlpha = true := by simp [Char.isAlpha, hu]
    rw [hc]
    simp only [Char.isAlpha, Char.isUpper, Char.isLower, Char.isDigit, Bool.or_eq_true,
      Bool.and_eq_true, Bool.and_eq_false_iff, decide_eq_true_eq, decide_eq_false_iff_not,
      UInt32.le_iff_toNat_le, ge_iff_le] at halpha ⊢
    have : 'A'.val.toNat = 65 := rfl
    have : 'a'.val.toNat = 97 := rfl
    have : '9'.val.toNat = 57 := rfl
    omega
  · rw [Char.toLower_eq_of_not_isUpper hu]

theorem splitOnce_lowercase (h : c.isAlpha = false) (t : Text) :
    splitOnce c (lowercase t) = (splitOnce c t).map (Prod.map lowercase lowercase) := by
  induction t with
  | nil => rfl
  | cons d t ih =>
    rw [lowercase_cons, splitOnce, splitOnce, ih]
    by_cases hd : d = c
    · rw [if_pos ((toLower_eq_iff h).mpr hd), if_pos hd]
      rfl
    · rw [if_neg (mt (toLower_eq_iff h).mp hd), if_neg hd, Option.map_map, Option.map_map]
      rfl

theorem afterStart?_lowercase {start : Text} (h : ∀ c ∈ start, c.isAlpha = false) (t : Text) :
    afterStart? start (lowercase t) = (afterStart? start t).map lowercase := by
  induction start generalizing t with
  | nil => rfl
  | cons c start ih =>
    cases t with
    | nil => rfl
    | cons d t =>
      have hc : c = d.toLower ↔ c = d := by
        rw [eq_comm, toLower_eq_iff (h c List.mem_cons_self), eq_comm]
      rw [lowercase_cons, afterStart?, afterStart?,
        ih (fun x hx => h x (List.mem_cons_of_mem c hx))]
      by_cases hd : c = d
      · rw [if_pos (hc.mpr hd), if_pos hd]
      · rw [if_neg (mt hc.mp hd), if_neg hd]
        rfl

theorem splitAt?_lowercase {separator : Text} (h : ∀ c ∈ separator, c.isAlpha = false) (t : Text) :
    splitAt? separator (lowercase t) =
      (splitAt? separator t).map (Prod.map lowercase lowercase) := by
  induction t with
  | nil =>
    rw [lowercase_nil, splitAt?]
    split <;> rfl
  | cons d t ih =>
    rw [lowercase_cons, splitAt?, splitAt?, ← lowercase_cons, afterStart?_lowercase h, ih]
    cases afterStart? separator (d :: t) with
    | some rest => rfl
    | none =>
      rw [Option.map_map, Option.map_none]
      dsimp only
      rw [Option.map_map]
      rfl

end

/-! ## Letters and digits -/

/-- Whether a text consists of ASCII letters and digits. -/
def isPlain (t : Text) : Bool := t.all Char.isAlphanum

theorem isPlain_lowercase {t : Text} (h : isPlain t = true) : isPlain (lowercase t) = true := by
  have hlower : ∀ c : Char, c.isAlphanum = true → c.toLower.isAlphanum = true := by
    intro c hc
    rw [Char.isAlphanum, Bool.or_eq_true] at hc ⊢
    rcases hc with hc | hc
    · exact Or.inl (by rwa [Char.isAlpha_toLower_eq_isAlpha])
    · exact Or.inr (by rwa [isDigit_toLower])
  rw [isPlain, lowercase, List.all_map, List.all_eq_true]
  exact fun c hc => hlower c (List.all_eq_true.mp h c hc)

end ChoiceTemplate.Text

import ChoiceTemplate.Number.Reader
import ChoiceTemplate.Proofs.LetterCase

/-
  The parts of number literals, and their letter case.

    1. Cutting takes signs and digits as they stand (`cutSign_eq`, `cutDigits_append`), and what it
       cuts off as a float literal is a sign, digits with a point, and an exponent
       (`parts_of_floatLiteral`).
    2. From these parts one reads off what the literal denotes (`ofLiteral_parts`).
    3. The only letter in a literal is that of the exponent, of which the case does not count. So a
       text begins with the same number in any letter case (`readLenient_lowercase`,
       `readInteger_lowercase`).
-/
namespace ChoiceTemplate

open Text (NoUpper lowercase)

/-! ## Signs and digits -/

/-- A sign, or none. -/
inductive IsSign : Text → Prop
  | none : IsSign []
  | plus : IsSign ['+']
  | minus : IsSign ['-']

/-- Digits and nothing else. -/
def AllDigits (t : Text) : Prop := ∀ c ∈ t, c.isDigit = true

section
variable {c : Char} {sign digits t rest : Text}

theorem IsSign.noUpper (h : IsSign sign) : NoUpper sign := by
  cases h <;> decide

theorem AllDigits.noUpper (h : AllDigits digits) : NoUpper digits :=
  fun c hc => Bool.eq_false_iff.mpr (Text.not_isUpper_of_isDigit (h c hc))

theorem cutSign_of_ne (hplus : c ≠ '+') (hminus : c ≠ '-') (t : Text) :
    cutSign (c :: t) = ([], c :: t) := by
  rw [cutSign.eq_def]
  split
  · next h => exact absurd (List.cons.inj h).1 hplus
  · next h => exact absurd (List.cons.inj h).1 hminus
  · rfl

/-- A text begins with a sign, or the cut leaves it as it is. -/
theorem cutSign_eq (t : Text) : IsSign (cutSign t).1 ∧ t = (cutSign t).1 ++ (cutSign t).2 := by
  rw [cutSign.eq_def]
  split
  · exact ⟨.plus, rfl⟩
  · exact ⟨.minus, rfl⟩
  · exact ⟨.none, rfl⟩

theorem cutSign_append (h : IsSign sign) (ht : ∀ c ∈ t.head?, c ≠ '+' ∧ c ≠ '-') :
    cutSign (sign ++ t) = (sign, t) := by
  cases h with
  | plus => rfl
  | minus => rfl
  | none =>
    cases t with
    | nil => rfl
    | cons c t =>
      obtain ⟨hplus, hminus⟩ := ht c rfl
      exact cutSign_of_ne hplus hminus t

theorem cutDigits_eq (t : Text) :
    AllDigits (cutDigits t).1 ∧ t = (cutDigits t).1 ++ (cutDigits t).2 :=
  ⟨fun _ hc => List.mem_takeWhile_imp hc, List.takeWhile_append_dropWhile.symm⟩

theorem cutDigits_stops (t : Text) : ∀ c ∈ (cutDigits t).2.head?, c.isDigit = false := by
  intro c hc
  have hstop := List.head?_dropWhile_not Char.isDigit t
  rw [cutDigits] at hc
  rwa [Option.mem_def.mp hc] at hstop

theorem cutDigits_append (h : AllDigits digits) (hrest : ∀ c ∈ rest.head?, c.isDigit = false) :
    cutDigits (digits ++ rest) = (digits, rest) := by
  have hstop : rest.takeWhile Char.isDigit = [] ∧ rest.dropWhile Char.isDigit = rest := by
    cases rest with
    | nil => exact ⟨rfl, rfl⟩
    | cons c rest => simp [hrest c rfl]
  rw [cutDigits, List.takeWhile_append_of_pos h, List.dropWhile_append_of_pos h, hstop.1, hstop.2,
    List.append_nil]

theorem cutDigits_append_point (h : AllDigits digits) (t : Text) :
    cutDigits (digits ++ '.' :: t) = (digits, '.' :: t) := by
  apply cutDigits_append h
  rintro c ⟨⟩
  rfl

end

/-! ## Mantissas and exponents -/

/-- The text after the point that a text begins with. -/
def afterPoint? : Text → Option Text
  | '.' :: t => some t
  | _ => none

theorem afterPoint?_eq_some {t r : Text} : afterPoint? t = some r ↔ t = '.' :: r := by
  constructor
  · intro h
    rw [afterPoint?.eq_def] at h
    split at h
    · rw [Option.some.inj h]
    · cases h
  · rintro rfl
    rfl

/-- A mantissa is made of the digits before the point, and of those after it if there is a point. -/
theorem cutMantissa?_eq (t : Text) :
    cutMantissa? t =
      match afterPoint? (cutDigits t).2 with
      | some r =>
        if (cutDigits t).1 = [] ∧ (cutDigits r).1 = [] then none
        else some ((cutDigits t).1 ++ '.' :: (cutDigits r).1, (cutDigits r).2)
      | none => if (cutDigits t).1 = [] then none else some (cutDigits t) := by
  rw [cutMantissa?]
  cases cutDigits t with
  | mk whole r =>
    cases hpoint : afterPoint? r with
    | some r' =>
      rw [afterPoint?_eq_some] at hpoint
      subst hpoint
      cases hcut : cutDigits r' with
      | mk fraction r'' => cases whole <;> cases fraction <;> simp [hcut]
    | none =>
      -- The cut is by cases on `r`: that of a point is refuted here for `simp` to find.
      have hne : ∀ r', r ≠ '.' :: r' := by
        intro r' hr
        rw [afterPoint?_eq_some.mpr hr] at hpoint
        cases hpoint
      cases whole <;> simp

/-- A mantissa with digits before and after its point. Only one of the two may be missing, and the
point only with the digits after it. -/
inductive Mantissa (whole : Text) : (fraction mantissa : Text) → Prop
  | integer : whole ≠ [] → AllDigits whole → Mantissa whole [] whole
  | point {fraction : Text} : AllDigits whole → AllDigits fraction →
      ¬(whole = [] ∧ fraction = []) → Mantissa whole fraction (whole ++ '.' :: fraction)

/-- The exponent of a float literal, or nothing. -/
inductive Exponent : Text → Prop
  | none : Exponent []
  | some {c : Char} {sign digits : Text} : c = 'e' ∨ c = 'E' → IsSign sign → AllDigits digits →
      digits ≠ [] → Exponent (c :: (sign ++ digits))

section
variable {t rest sign whole fraction mantissa exponent literal : Text}

theorem Mantissa.noUpper (h : Mantissa whole fraction mantissa) : NoUpper mantissa := by
  cases h with
  | integer _ hwhole => exact hwhole.noUpper
  | point hwhole hfraction _ =>
    intro c hc
    rcases List.mem_append.mp hc with hc | hc
    · exact hwhole.noUpper c hc
    · rcases List.mem_cons.mp hc with rfl | hc
      · rfl
      · exact hfraction.noUpper c hc

/-- A mantissa begins with a digit or a point. -/
theorem Mantissa.head (h : Mantissa whole fraction mantissa) (exponent : Text) :
    ∀ c ∈ (mantissa ++ exponent).head?, c ≠ '+' ∧ c ≠ '-' := by
  have hdigit : ∀ c : Char, c.isDigit = true → c ≠ '+' ∧ c ≠ '-' := by
    rintro c hc
    refine ⟨?_, ?_⟩ <;> rintro rfl <;> cases hc
  intro c hc
  cases h with
  | integer hne hwhole =>
    obtain ⟨d, t, rfl⟩ := List.exists_cons_of_ne_nil hne
    cases hc
    exact hdigit _ (hwhole _ List.mem_cons_self)
  | point hwhole =>
    cases whole with
    | nil =>
      cases hc
      decide
    | cons d t =>
      cases hc
      exact hdigit _ (hwhole _ List.mem_cons_self)

theorem Exponent.head (h : Exponent exponent) : ∀ c ∈ exponent.head?, c = 'e' ∨ c = 'E' := by
  intro c hc
  cases h with
  | none => cases hc
  | some hletter =>
    cases hc
    exact hletter

theorem mantissa_of_cutMantissa? (h : cutMantissa? t = some (mantissa, rest)) :
    ∃ whole fraction, Mantissa whole fraction mantissa := by
  rw [cutMantissa?_eq] at h
  split at h
  · next r hr =>
    split at h
    · cases h
    · next hne =>
      obtain ⟨rfl, -⟩ := Prod.mk.inj (Option.some.inj h)
      exact ⟨_, _, .point (cutDigits_eq t).1 (cutDigits_eq r).1 hne⟩
  · split at h
    · cases h
    · next hne =>
      obtain ⟨rfl, -⟩ := Prod.mk.inj (Option.some.inj h)
      exact ⟨_, _, .integer hne (cutDigits_eq t).1⟩

theorem exponent_cutExponent (t : Text) : Exponent (cutExponent t).1 := by
  cases t with
  | nil => exact .none
  | cons c t =>
    rw [cutExponent]
    split
    · next hletter =>
      have hsign := (cutSign_eq t).1
      cases hcut : cutSign t with
      | mk sign r =>
        rw [hcut] at hsign
        have hall := (cutDigits_eq r).1
        dsimp only
        cases hcut' : cutDigits r with
        | mk digits r' =>
          rw [hcut'] at hall
          cases digits with
          | nil => exact .none
          | cons d digits => exact .some hletter hsign hall (List.cons_ne_nil d digits)
    · exact .none

/-- What is cut off as a float literal is a sign, a mantissa and an exponent. -/
theorem parts_of_floatLiteral (h : floatLiteral? t = some (literal, rest)) :
    ∃ sign whole fraction mantissa exponent, literal = sign ++ (mantissa ++ exponent) ∧
      IsSign sign ∧ Mantissa whole fraction mantissa ∧ Exponent exponent := by
  obtain ⟨⟨mantissa, r⟩, hmantissa, hliteral⟩ := Option.map_eq_some_iff.mp h
  obtain ⟨rfl, -⟩ := Prod.mk.inj hliteral
  obtain ⟨whole, fraction, hparts⟩ := mantissa_of_cutMantissa? hmantissa
  exact ⟨(cutSign t).1, whole, fraction, mantissa, (cutExponent r).1, List.append_assoc _ _ _,
    (cutSign_eq t).1, hparts, exponent_cutExponent r⟩

/-- A float literal denotes its digits, those after the point included, times a power of ten. -/
theorem ofLiteral_parts (hsign : IsSign sign) (hmantissa : Mantissa whole fraction mantissa)
    (hexponent : Exponent exponent) :
    Decimal.ofLiteral (sign ++ (mantissa ++ exponent)) =
      ⟨isMinus sign, digitsValue (whole ++ fraction),
        Decimal.exponentValue exponent - fraction.length⟩ := by
  have hletter : ∀ c ∈ exponent.head?, c ≠ '.' ∧ c.isDigit = false := by
    intro c hc
    rcases hexponent.head c hc with rfl | rfl <;> exact ⟨by decide, rfl⟩
  rw [Decimal.ofLiteral, cutSign_append hsign (hmantissa.head exponent)]
  cases hmantissa with
  | integer _ hwhole =>
    have hcut := cutDigits_append hwhole fun c hc => (hletter c hc).2
    -- Without a point, what follows the digits is the exponent.
    have hpower : ∀ r, exponent ≠ '.' :: r := by
      rintro r rfl
      exact (hletter '.' rfl).1 rfl
    simp [hcut]
  | point hwhole hfraction _ =>
    have hcut := cutDigits_append hfraction fun c hc => (hletter c hc).2
    simp [cutDigits_append_point hwhole, hcut]

/-! ## Letter case -/

theorem Exponent.lowercase (h : Exponent exponent) :
    Exponent (lowercase exponent) ∧
      Decimal.exponentValue (lowercase exponent) = Decimal.exponentValue exponent := by
  cases h with
  | none => exact ⟨.none, rfl⟩
  | @some c sign digits hletter hsign hdigits hne =>
    have hsame : lowercase (c :: (sign ++ digits)) = 'e' :: (sign ++ digits) := by
      rw [Text.lowercase_cons, Text.lowercase_append, Text.lowercase_of_noUpper hsign.noUpper,
        Text.lowercase_of_noUpper hdigits.noUpper]
      rcases hletter with rfl | rfl <;> rfl
    rw [hsame]
    exact ⟨.some (Or.inl rfl) hsign hdigits hne, rfl⟩

/-- A float literal denotes the same number in lower case. -/
theorem ofLiteral_lowercase (h : floatLiteral? t = some (literal, rest)) :
    Decimal.ofLiteral (lowercase literal) = Decimal.ofLiteral literal := by
  obtain ⟨sign, whole, fraction, mantissa, exponent, rfl, hsign, hmantissa, hexponent⟩ :=
    parts_of_floatLiteral h
  obtain ⟨hlower, hvalue⟩ := hexponent.lowercase
  rw [Text.lowercase_append, Text.lowercase_append, Text.lowercase_of_noUpper hsign.noUpper,
    Text.lowercase_of_noUpper hmantissa.noUpper, ofLiteral_parts hsign hmantissa hlower,
    ofLiteral_parts hsign hmantissa hexponent, hvalue]

end

section
variable (t : Text)

theorem cutSign_lowercase : cutSign (lowercase t) = ((cutSign t).1, lowercase (cutSign t).2) := by
  cases t with
  | nil => rfl
  | cons c t =>
    by_cases hplus : c = '+'
    · rw [hplus]
      rfl
    · by_cases hminus : c = '-'
      · rw [hminus]
        rfl
      · rw [Text.lowercase_cons, cutSign_of_ne hplus hminus,
          cutSign_of_ne (mt (Text.toLower_eq_iff rfl).mp hplus)
            (mt (Text.toLower_eq_iff rfl).mp hminus)]
        rfl

theorem cutDigits_lowercase :
    cutDigits (lowercase t) = ((cutDigits t).1, lowercase (cutDigits t).2) := by
  have hdigit : Char.isDigit ∘ Char.toLower = Char.isDigit := funext Text.isDigit_toLower
  rw [cutDigits, lowercase, List.takeWhile_map, List.dropWhile_map, hdigit]
  exact Prod.ext (Text.lowercase_of_noUpper (cutDigits_eq t).1.noUpper) rfl

theorem afterPoint?_lowercase : afterPoint? (lowercase t) = (afterPoint? t).map lowercase := by
  cases t with
  | nil => rfl
  | cons c t =>
    by_cases hc : c = '.'
    · rw [hc]
      rfl
    · have hnone : ∀ {d : Char} (u : Text), d ≠ '.' → afterPoint? (d :: u) = none := by
        intro d u hd
        rw [Option.eq_none_iff_forall_ne_some]
        intro r hr
        exact hd (List.cons.inj (afterPoint?_eq_some.mp hr)).1
      rw [Text.lowercase_cons, hnone _ hc, hnone _ (mt (Text.toLower_eq_iff rfl).mp hc)]
      rfl

theorem cutMantissa?_lowercase :
    cutMantissa? (lowercase t) =
      (cutMantissa? t).map fun cut => (cut.1, lowercase cut.2) := by
  rw [cutMantissa?_eq, cutMantissa?_eq, cutDigits_lowercase]
  simp only [afterPoint?_lowercase]
  cases afterPoint? (cutDigits t).2 with
  | none =>
    simp only [Option.map_none]
    split <;> rfl
  | some r =>
    simp only [Option.map_some, cutDigits_lowercase]
    split <;> rfl

theorem toLower_eq_e {c : Char} : c.toLower = 'e' ∨ c.toLower = 'E' ↔ c = 'e' ∨ c = 'E' := by
  constructor
  · intro h
    by_cases hu : c.isUpper = true
    · have hlower : c.toLower = 'e' := by
        rcases h with h | h
        · exact h
        · have := Char.isUpper_toLower_eq_false c
          rw [h] at this
          cases this
      have hl : ¬c.isLower = true := Char.not_isLower_of_isUpper hu
      have hupper : c.toLower.toUpper = c := by
        rw [Char.toUpper_toLower_eq_toUpper, Char.toUpper_eq_of_not_isLower hl]
      rw [← hupper, hlower]
      exact Or.inr rfl
    · rwa [Char.toLower_eq_of_not_isUpper hu] at h
  · rintro (rfl | rfl)
    · exact Or.inl rfl
    · exact Or.inl rfl

theorem cutExponent_lowercase :
    cutExponent (lowercase t) = (lowercase (cutExponent t).1, lowercase (cutExponent t).2) := by
  cases t with
  | nil => rfl
  | cons c t =>
    rw [Text.lowercase_cons, cutExponent, cutExponent]
    by_cases hc : c = 'e' ∨ c = 'E'
    · rw [if_pos (toLower_eq_e.mpr hc), if_pos hc, cutSign_lowercase]
      simp only [cutDigits_lowercase]
      cases hdigits : cutDigits (cutSign t).2 with
      | mk digits r =>
        cases digits with
        | nil => rfl
        | cons d digits =>
          have hall : AllDigits (d :: digits) := by
            have := (cutDigits_eq (cutSign t).2).1
            rwa [hdigits] at this
          simp only [Text.lowercase_cons c, Text.lowercase_append,
            Text.lowercase_of_noUpper (cutSign_eq t).1.noUpper,
            Text.lowercase_of_noUpper hall.noUpper]
    · rw [if_neg (mt toLower_eq_e.mp hc), if_neg hc]
      rfl

theorem floatLiteral?_lowercase :
    floatLiteral? (lowercase t) =
      (floatLiteral? t).map (Prod.map lowercase lowercase) := by
  rw [floatLiteral?, floatLiteral?, cutSign_lowercase]
  simp only [cutMantissa?_lowercase, Option.map_map]
  cases hmantissa : cutMantissa? (cutSign t).2 with
  | none => rfl
  | some cut =>
    obtain ⟨mantissa, r⟩ := cut
    obtain ⟨whole, fraction, hparts⟩ := mantissa_of_cutMantissa? hmantissa
    simp only [Option.map_some, Function.comp_apply, Prod.map_apply, cutExponent_lowercase,
      Text.lowercase_append, Text.lowercase_of_noUpper (cutSign_eq t).1.noUpper,
      Text.lowercase_of_noUpper hparts.noUpper]

theorem dropLeadingSpace_lowercase :
    dropLeadingSpace (lowercase t) = lowercase (dropLeadingSpace t) := by
  have hspace : isLeadingSpace ∘ Char.toLower = isLeadingSpace := by
    funext c
    simp only [Function.comp_apply, isLeadingSpace,
      Text.toLower_eq_iff (d := ' ') rfl, Text.toLower_eq_iff (d := '\t') rfl,
      Text.toLower_eq_iff (d := '\n') rfl, Text.toLower_eq_iff (d := '\x0c') rfl,
      Text.toLower_eq_iff (d := '\r') rfl]
  rw [dropLeadingSpace, lowercase, List.dropWhile_map, hspace]
  rfl

/-- The number that a text begins with is the same in any letter case. -/
theorem readLenient_lowercase : Double.readLenient (lowercase t) = Double.readLenient t := by
  rw [Double.readLenient, Double.readLenient, dropLeadingSpace_lowercase, floatLiteral?_lowercase]
  cases hliteral : floatLiteral? (dropLeadingSpace t) with
  | none => rfl
  | some cut =>
    obtain ⟨literal, rest⟩ := cut
    simp only [Option.map_some, Prod.map_apply, ofLiteral_lowercase hliteral]

theorem integerLiteral?_lowercase :
    integerLiteral? (lowercase t) =
      (integerLiteral? t).map fun cut => (cut.1, lowercase cut.2) := by
  rw [integerLiteral?, integerLiteral?, cutSign_lowercase]
  simp only [cutDigits_lowercase]
  cases cutDigits (cutSign t).2 with
  | mk digits r => cases digits <;> rfl

theorem readInteger_lowercase : Double.readInteger (lowercase t) = Double.readInteger t := by
  rw [Double.readInteger, Double.readInteger, dropLeadingSpace_lowercase,
    integerLiteral?_lowercase]
  cases integerLiteral? (dropLeadingSpace t) <;> rfl

end

end ChoiceTemplate

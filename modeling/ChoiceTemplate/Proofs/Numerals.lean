import ChoiceTemplate.Proofs.ExactIntegers
import ChoiceTemplate.Proofs.NumberLiterals

/-
  Integers written in decimal.

  A run of digits, perhaps with a sign before it, is read by two readers: as a float literal where it
  is the bound of a comparison, and as an integer literal everywhere else. Both read all of it
  (`floatLiteral?_signed`, `integerLiteral?_signed`), and up to `2 ^ 53` both read the same number,
  except that only the float has a negative zero (`readLenient_signed`, `readInteger_numeral`).

  The integer reader never leaves its window (`natAbs_readInteger_le`), and where there is no minus
  sign it reads no negative number (`readInteger_nonneg`).
-/
namespace ChoiceTemplate

-- Powers are the core library's, as in the definitions.
attribute [local instance (high)] instPowNat

/-! ## Runs of digits -/

/-- A run of decimal digits. -/
def IsNumeral (t : Text) : Prop := t ≠ [] ∧ AllDigits t

instance (t : Text) : Decidable (AllDigits t) := List.decidableBAll _ _

instance (t : Text) : Decidable (IsNumeral t) := instDecidableAnd

theorem digitsValueFrom_eq (n : Nat) (t : Text) : digitsValueFrom n t = Nat.ofDigitChars 10 t n := by
  induction t generalizing n with
  | nil => rfl
  | cons c t ih =>
    rw [Nat.ofDigitChars_cons]
    exact ih (10 * n + digitValue c)

/-- The decimal digits of a number denote it. -/
theorem digitsValue_ofNat (n : Nat) : digitsValue (Text.ofNat n) = n := by
  rw [digitsValue, digitsValueFrom_eq, Text.ofNat, Nat.ofDigitChars_ten_toDigits]

theorem isNumeral_ofNat (n : Nat) : IsNumeral (Text.ofNat n) :=
  ⟨Nat.toDigits_ne_nil, fun _ hc => Nat.isDigit_of_mem_toDigits (by decide) (by decide) hc⟩

section
variable {c d : Char} {t sign digits literal rest : Text}

theorem ne_of_isDigit (hc : c.isDigit = true) (hd : d.isDigit = false) : c ≠ d := by
  rintro rfl
  rw [hc] at hd
  cases hd

theorem IsNumeral.not_mem (h : IsNumeral digits) (hd : d.isDigit = false) : d ∉ digits :=
  fun hmem => ne_of_isDigit (h.2 d hmem) hd rfl

theorem IsNumeral.isDigit_head (h : IsNumeral digits) (rest : Text) :
    ∀ c ∈ (digits ++ rest).head?, c.isDigit = true := by
  obtain ⟨d, digits, rfl⟩ := List.exists_cons_of_ne_nil h.1
  intro c hc
  cases hc
  exact h.2 _ List.mem_cons_self

theorem cutSign_signed (hsign : IsSign sign) (h : IsNumeral digits) (rest : Text) :
    cutSign (sign ++ (digits ++ rest)) = (sign, digits ++ rest) := by
  apply cutSign_append hsign
  intro c hc
  have hdigit := h.isDigit_head rest c hc
  exact ⟨ne_of_isDigit hdigit rfl, ne_of_isDigit hdigit rfl⟩

theorem cutDigits_numeral (h : IsNumeral digits) : cutDigits digits = (digits, []) := by
  have hend : ∀ c ∈ ([] : Text).head?, c.isDigit = false := by simp
  have := cutDigits_append h.2 hend
  rwa [List.append_nil] at this

/-! ## Signed runs are literals -/

theorem isLeadingSpace_eq_false (h : c.isDigit = true) : isLeadingSpace c = false := by
  simp [isLeadingSpace, ne_of_isDigit h]

theorem dropLeadingSpace_signed (hsign : IsSign sign) (h : IsNumeral digits) :
    dropLeadingSpace (sign ++ digits) = sign ++ digits := by
  cases hsign with
  | plus => rfl
  | minus => rfl
  | none =>
    obtain ⟨d, digits, rfl⟩ := List.exists_cons_of_ne_nil h.1
    have hd := isLeadingSpace_eq_false (h.2 d List.mem_cons_self)
    simp [dropLeadingSpace, hd]

theorem integerLiteral?_signed (hsign : IsSign sign) (h : IsNumeral digits)
    (hrest : ∀ c ∈ rest.head?, c.isDigit = false) :
    integerLiteral? (sign ++ (digits ++ rest)) = some (sign ++ digits, rest) := by
  rw [integerLiteral?, cutSign_signed hsign h rest]
  simp only [cutDigits_append h.2 hrest]
  obtain ⟨d, digits, rfl⟩ := List.exists_cons_of_ne_nil h.1
  rfl

theorem floatLiteral?_signed (hsign : IsSign sign) (h : IsNumeral digits) :
    floatLiteral? (sign ++ digits) = some (sign ++ digits, []) := by
  have hcut := cutSign_signed hsign h []
  rw [List.append_nil] at hcut
  have hmantissa : cutMantissa? digits = some (digits, []) := by
    rw [cutMantissa?_eq, cutDigits_numeral h]
    simp [afterPoint?, h.1]
  rw [floatLiteral?, hcut]
  simp [hmantissa, cutExponent]

/-- What is cut off as an integer literal is a sign and all the digits that follow it. -/
theorem parts_of_integerLiteral (h : integerLiteral? t = some (literal, rest)) :
    ∃ sign digits, literal = sign ++ digits ∧ t = sign ++ (digits ++ rest) ∧ IsSign sign ∧
      IsNumeral digits ∧ ∀ c ∈ rest.head?, c.isDigit = false := by
  obtain ⟨hsign, ht⟩ := cutSign_eq t
  obtain ⟨hdigits, hr⟩ := cutDigits_eq (cutSign t).2
  have hstops := cutDigits_stops (cutSign t).2
  rw [integerLiteral?] at h
  cases hcut : cutDigits (cutSign t).2 with
  | mk digits r =>
    rw [hcut] at hdigits hr hstops
    simp only [hcut] at h
    cases digits with
    | nil => cases h
    | cons d digits =>
      obtain ⟨rfl, rfl⟩ := Prod.mk.inj (Option.some.inj h)
      refine ⟨(cutSign t).1, d :: digits, rfl, ?_, hsign, ⟨List.cons_ne_nil _ _, hdigits⟩, hstops⟩
      rw [← hr]
      exact ht

/-! ## What they denote -/

theorem integerValue_signed (hsign : IsSign sign) (h : IsNumeral digits) :
    integerValue (sign ++ digits) =
      if isMinus sign then -(digitsValue digits : Int) else digitsValue digits := by
  have hcut := cutSign_signed hsign h []
  rw [List.append_nil] at hcut
  rw [integerValue, hcut]

theorem natAbs_integerValue (hsign : IsSign sign) (h : IsNumeral digits) :
    (integerValue (sign ++ digits)).natAbs = digitsValue digits := by
  rw [integerValue_signed hsign h]
  split <;> simp

theorem ofLiteral_signed (hsign : IsSign sign) (h : IsNumeral digits) :
    Decimal.ofLiteral (sign ++ digits) = ⟨isMinus sign, digitsValue digits, 0⟩ := by
  have := ofLiteral_parts hsign (.integer h.1 h.2) .none
  rw [List.append_nil] at this
  exact this

namespace Double

/-! ## The integer reader -/

theorem readInteger_of_none (h : integerLiteral? (dropLeadingSpace t) = none) :
    readInteger t = 0 := by
  rw [readInteger, h]

theorem readInteger_of_some (h : integerLiteral? (dropLeadingSpace t) = some (literal, rest)) :
    readInteger t =
      if (integerValue literal).natAbs ≤ integerLimit then integerValue literal else 0 := by
  rw [readInteger, h]

/-- The window of selectors is one in which integers are exact. -/
theorem integerLimit_le : integerLimit ≤ 2 ^ 53 := by decide

theorem natAbs_readInteger_le (t : Text) : (readInteger t).natAbs ≤ integerLimit := by
  cases hcut : integerLiteral? (dropLeadingSpace t) with
  | none => simp [readInteger_of_none hcut]
  | some cut =>
    rw [readInteger_of_some hcut]
    split
    · next hle => exact hle
    · simp

/-- Only a minus sign makes an integer negative. -/
theorem readInteger_nonneg (h : '-' ∉ t) : 0 ≤ readInteger t := by
  cases hcut : integerLiteral? (dropLeadingSpace t) with
  | none => rw [readInteger_of_none hcut]
  | some cut =>
    obtain ⟨literal, rest⟩ := cut
    obtain ⟨sign, digits, rfl, ht, hsign, hdigits, -⟩ := parts_of_integerLiteral hcut
    have hsub : (dropLeadingSpace t).Sublist t := List.dropWhile_sublist _
    have hplus : isMinus sign = false := by
      cases hsign with
      | none => rfl
      | plus => rfl
      | minus =>
        exfalso
        apply h
        apply hsub.mem
        rw [ht]
        exact List.mem_cons_self
    have hvalue : (0 : Int) ≤ integerValue (sign ++ digits) := by
      rw [integerValue_signed hsign hdigits, hplus]
      exact Int.natCast_nonneg _
    rw [readInteger_of_some hcut]
    split
    · exact hvalue
    · exact Int.le_refl 0

theorem readInteger_numeral (h : IsNumeral digits) (hle : digitsValue digits ≤ integerLimit) :
    readInteger digits = digitsValue digits := by
  have hend : ∀ c ∈ ([] : Text).head?, c.isDigit = false := by simp
  have hspace := dropLeadingSpace_signed .none h
  have hcut := integerLiteral?_signed .none h hend
  have hvalue := integerValue_signed .none h
  rw [List.append_nil] at hcut
  rw [List.nil_append] at hspace hcut hvalue
  have hplus : isMinus [] = false := rfl
  rw [hplus, if_neg Bool.false_ne_true] at hvalue
  rw [readInteger, hspace, hcut]
  simp [hvalue, hle]

/-! ## The float reader -/

theorem zero_eq_ofInt : zero false = ofInt 0 := by decide +kernel

theorem toDouble_integer (negative : Bool) (n : Nat) :
    Decimal.toDouble ⟨negative, n, 0⟩ =
      if n = 0 then zero negative else ofRatio negative (n * one) 1 := by
  simp [Decimal.toDouble, Decimal.isTiny, Decimal.isHuge, Decimal.numerator, Decimal.denominator]

theorem ofInt_signed (hsign : IsSign sign) (h : IsNumeral digits) (hne : digitsValue digits ≠ 0) :
    ofInt (integerValue (sign ++ digits)) =
      ofRatio (isMinus sign) (digitsValue digits * one) 1 := by
  have hnegative : decide (integerValue (sign ++ digits) < 0) = isMinus sign := by
    rw [integerValue_signed hsign h]
    cases isMinus sign
    · simp
    · simp; omega
  rw [ofInt, hnegative, natAbs_integerValue hsign h]

/-- The number of a signed run of digits is that integer, or a zero with the sign. -/
theorem readLenient_signed (hsign : IsSign sign) (h : IsNumeral digits)
    (hle : digitsValue digits ≤ 2 ^ 53) :
    readLenient (sign ++ digits) =
      if digitsValue digits = 0 then zero (isMinus sign)
      else ofInt (integerValue (sign ++ digits)) := by
  have hfinite : (ofInt (integerValue (sign ++ digits))).isFinite = true := by
    rw [ofInt_eq (by rwa [natAbs_integerValue hsign h])]
    rfl
  rw [readLenient, dropLeadingSpace_signed hsign h, floatLiteral?_signed hsign h]
  simp only [ofLiteral_signed hsign h, toDouble_integer]
  by_cases hne : digitsValue digits = 0
  · simp [hne, zero, isFinite]
  · rw [ofInt_signed hsign h hne] at hfinite ⊢
    simp [hne, hfinite]

/-- Without a sign the two readers agree. -/
theorem readLenient_numeral (h : IsNumeral digits) (hle : digitsValue digits ≤ 2 ^ 53) :
    readLenient digits = ofInt (digitsValue digits) := by
  have hread := readLenient_signed .none h hle
  have hvalue := integerValue_signed .none h
  rw [List.nil_append] at hread hvalue
  have hplus : isMinus [] = false := rfl
  rw [hread, hvalue, hplus, if_neg Bool.false_ne_true]
  split
  · next hzero => rw [hzero, zero_eq_ofInt]; rfl
  · rfl

end Double

end

end ChoiceTemplate

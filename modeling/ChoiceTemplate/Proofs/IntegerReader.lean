import ChoiceTemplate.Proofs.LongestLiteral

/-
  The reader of guarded integers.

  An integer is read from the front of a text: white space, a sign or none, and all the digits that
  follow (`BeginsWithInteger`). The run of digits may be as long as it likes, so this is a relation
  between texts and integers without a bound. The reader gives the integer itself, exactly, inside its
  window, and zero beyond the window and where no integer begins (`read_of_begins`, `read_of_not_begins`).

  Two things follow. Writing an integer in decimal, with any number of zeros before its digits, and
  reading it gives the integer back inside the window (`begins_decimal`). And where a text is an integer
  in the window and nothing else, the float reader gives the same number, up to the sign of a zero
  (`readLenient_begins`).
-/
namespace ChoiceTemplate

/-- The integer that a sign and digits denote. -/
def signedValue (sign digits : Text) : Int :=
  if sign = ['-'] then -(digitsValue digits : Int) else digitsValue digits

/-- A text begins with an integer: after white space and a sign, if there is one, stands a run of
digits, which the rest does not go on with. -/
inductive BeginsWithInteger : Text → Int → Prop
  | intro {spaces sign digits rest : Text} : (∀ c ∈ spaces, c ∈ asciiSpaces) → IsSign sign →
      IsNumeral digits → (∀ c ∈ rest.head?, c.isDigit = false) →
      BeginsWithInteger (spaces ++ (sign ++ (digits ++ rest))) (signedValue sign digits)

/-- An integer in the window of selectors, and zero in place of every other one. -/
def guarded (i : Int) : Int := if i.natAbs ≤ Double.integerLimit then i else 0

/-- The integer that a selector or an end of a range stands for: the one it begins with, in the window
of selectors, and zero without one. -/
inductive ReadsAs (t : Text) : Int → Prop
  | begins {i : Int} : BeginsWithInteger t i → ReadsAs t (guarded i)
  | other : (∀ i, ¬BeginsWithInteger t i) → ReadsAs t 0

/-- The decimal form of an integer with some zeros before its digits. -/
def paddedDecimal (zeros : Nat) (i : Int) : Text :=
  (if i < 0 then ['-'] else []) ++ (List.replicate zeros '0' ++ Text.ofNat i.natAbs)

namespace Double

/-- The number that is an integer, with its sign. Zero has no minus sign. -/
def IsInteger (d : Double) (i : Int) : Prop :=
  ∃ a : Magnitude, d = .finite (decide (i < 0)) a ∧ a.value = i.natAbs

/-- Two numbers are equal as numbers: the two zeros are, and a NaN is equal to nothing. -/
def NumericallyEqual (a b : Double) : Prop := le a b = true ∧ le b a = true

end Double

section
variable {t sign digits rest spaces : Text} {i : Int}

/-! ## Finding the integer -/

theorem natAbs_guarded_le (i : Int) : (guarded i).natAbs ≤ Double.integerLimit := by
  rw [guarded]
  split
  · next h => exact h
  · exact Nat.zero_le _

theorem dropLeadingSpace_append (hspaces : ∀ c ∈ spaces, c ∈ asciiSpaces)
    (ht : ∀ c ∈ t.head?, isLeadingSpace c = false) : dropLeadingSpace (spaces ++ t) = t := by
  have hall : ∀ c ∈ spaces, isLeadingSpace c = true :=
    fun c hc => isLeadingSpace_iff.mpr (hspaces c hc)
  rw [dropLeadingSpace, List.dropWhile_append_of_pos hall]
  cases t with
  | nil => rfl
  | cons c t => rw [List.dropWhile_cons_of_neg (by simp [ht c rfl])]

theorem isLeadingSpace_head_signed (hsign : IsSign sign) (h : IsNumeral digits) (rest : Text) :
    ∀ c ∈ (sign ++ (digits ++ rest)).head?, isLeadingSpace c = false := by
  cases hsign with
  | none =>
    intro c hc
    exact isLeadingSpace_eq_false (h.isDigit_head rest c hc)
  | plus =>
    rintro c ⟨⟩
    rfl
  | minus =>
    rintro c ⟨⟩
    rfl

theorem integerValue_eq_signedValue (hsign : IsSign sign) (h : IsNumeral digits) :
    integerValue (sign ++ digits) = signedValue sign digits := by
  rw [integerValue_signed hsign h, signedValue, isMinus]
  simp

theorem integerLiteral?_of_begins (h : BeginsWithInteger t i) :
    ∃ literal rest, integerLiteral? (dropLeadingSpace t) = some (literal, rest) ∧
      integerValue literal = i := by
  cases h with
  | @intro spaces sign digits rest hspaces hsign hdigits hrest =>
    refine ⟨sign ++ digits, rest, ?_, integerValue_eq_signedValue hsign hdigits⟩
    rw [dropLeadingSpace_append hspaces (isLeadingSpace_head_signed hsign hdigits rest)]
    exact integerLiteral?_signed hsign hdigits hrest

theorem begins_of_integerLiteral? {literal : Text}
    (h : integerLiteral? (dropLeadingSpace t) = some (literal, rest)) : ∃ i, BeginsWithInteger t i := by
  obtain ⟨⟨spaces, ht, hspaces⟩, -⟩ := dropLeadingSpace_eq t
  obtain ⟨sign, digits, -, hu, hsign, hdigits, hrest⟩ := parts_of_integerLiteral h
  rw [ht, hu]
  exact ⟨_, .intro hspaces hsign hdigits hrest⟩

/-! ## The integer as a number -/

theorem Double.isInteger_ofInt (h : i.natAbs ≤ 2 ^ 53) : (Double.ofInt i).IsInteger i := by
  refine ⟨_, Double.ofInt_eq h, ?_⟩
  have hunit : (2 : ℚ) ^ 1074 ≠ 0 := pow_ne_zero 1074 two_ne_zero
  rw [Magnitude.value, Nat.cast_mul, Double.one_eq, Nat.cast_pow, Nat.cast_ofNat,
    mul_div_cancel_right₀ _ hunit]

theorem Double.isInteger_guarded (i : Int) : (Double.ofInt (guarded i)).IsInteger (guarded i) := by
  exact isInteger_ofInt ((natAbs_guarded_le i).trans integerLimit_le)

theorem read_of_begins (h : BeginsWithInteger t i) :
    (Double.readIntegerLenient t).IsInteger (guarded i) := by
  obtain ⟨literal, rest, hcut, rfl⟩ := integerLiteral?_of_begins h
  rw [Double.readIntegerLenient, Double.readInteger_of_some hcut]
  exact Double.isInteger_guarded (integerValue literal)

theorem read_of_not_begins (h : ∀ i, ¬BeginsWithInteger t i) :
    (Double.readIntegerLenient t).IsInteger 0 := by
  cases hcut : integerLiteral? (dropLeadingSpace t) with
  | none =>
    rw [Double.readIntegerLenient, Double.readInteger_of_none hcut]
    exact Double.isInteger_ofInt (by decide)
  | some cut =>
    obtain ⟨i, hi⟩ := begins_of_integerLiteral? hcut
    exact absurd hi (h i)

theorem readsAs_readInteger (t : Text) : ReadsAs t (Double.readInteger t) := by
  cases hcut : integerLiteral? (dropLeadingSpace t) with
  | none =>
    rw [Double.readInteger_of_none hcut]
    refine .other fun i hi => ?_
    obtain ⟨literal, rest, hsome, -⟩ := integerLiteral?_of_begins hi
    rw [hcut] at hsome
    cases hsome
  | some cut =>
    obtain ⟨i, hi⟩ := begins_of_integerLiteral? hcut
    obtain ⟨literal, rest, hsome, rfl⟩ := integerLiteral?_of_begins hi
    rw [Double.readInteger_of_some hsome]
    exact .begins hi

theorem ReadsAs.readInteger_eq (h : ReadsAs t i) : Double.readInteger t = i := by
  cases h with
  | begins hi =>
    obtain ⟨literal, rest, hsome, rfl⟩ := integerLiteral?_of_begins hi
    exact Double.readInteger_of_some hsome
  | other hnone =>
    cases hcut : integerLiteral? (dropLeadingSpace t) with
    | none => exact Double.readInteger_of_none hcut
    | some cut =>
      obtain ⟨i, hi⟩ := begins_of_integerLiteral? hcut
      exact absurd hi (hnone i)

/-! ## Decimal forms -/

/-- Zeros before the digits of a number do not count. -/
theorem digitsValue_replicate_append (zeros : Nat) (digits : Text) :
    digitsValue (List.replicate zeros '0' ++ digits) = digitsValue digits := by
  induction zeros with
  | zero => rfl
  | succ zeros ih => exact ih

theorem isNumeral_replicate_append (zeros : Nat) (h : IsNumeral digits) :
    IsNumeral (List.replicate zeros '0' ++ digits) := by
  constructor
  · simp [h.1]
  · intro c hc
    rcases List.mem_append.mp hc with hc | hc
    · rw [List.eq_of_mem_replicate hc]
      rfl
    · exact h.2 c hc

theorem begins_decimal (zeros : Nat) (i : Int) (hspaces : ∀ c ∈ spaces, c ∈ asciiSpaces)
    (hrest : ∀ c ∈ rest.head?, c.isDigit = false) :
    BeginsWithInteger (spaces ++ (paddedDecimal zeros i ++ rest)) i := by
  have hdigits := isNumeral_replicate_append zeros (isNumeral_ofNat i.natAbs)
  have hsign : IsSign (if i < 0 then ['-'] else []) := by
    split
    · exact .minus
    · exact .none
  have hvalue : signedValue (if i < 0 then ['-'] else [])
      (List.replicate zeros '0' ++ Text.ofNat i.natAbs) = i := by
    rw [signedValue, digitsValue_replicate_append, digitsValue_ofNat]
    by_cases hneg : i < 0
    · rw [if_pos hneg, if_pos rfl]
      omega
    · rw [if_neg hneg, if_neg (List.cons_ne_nil _ _).symm]
      omega
  have h := BeginsWithInteger.intro hspaces hsign hdigits hrest
  rw [hvalue] at h
  simpa [paddedDecimal] using h

/-! ## The float reader -/

theorem readLenient_congr {t' : Text} (h : dropLeadingSpace t = dropLeadingSpace t') :
    Double.readLenient t = Double.readLenient t' := by
  rw [Double.readLenient, Double.readLenient, h]

namespace Double

theorem numericallyEqual_zero (negative : Bool) : NumericallyEqual (zero negative) (ofInt 0) := by
  rw [← zero_eq_ofInt]
  cases negative <;> exact ⟨rfl, rfl⟩

theorem numericallyEqual_ofInt (h : i.natAbs ≤ 2 ^ 53) : NumericallyEqual (ofInt i) (ofInt i) := by
  have hself : le (ofInt i) (ofInt i) = true := by simp [le_ofInt h h]
  exact ⟨hself, hself⟩

end Double

/-- Where nothing follows the digits and the integer is in the window, the two readers agree. -/
theorem readLenient_begins (hspaces : ∀ c ∈ spaces, c ∈ asciiSpaces) (hsign : IsSign sign)
    (h : IsNumeral digits) (hle : digitsValue digits ≤ Double.integerLimit) :
    Double.NumericallyEqual (Double.readLenient (spaces ++ (sign ++ digits)))
      (Double.readIntegerLenient (spaces ++ (sign ++ digits))) := by
  have hwindow := Double.integerLimit_le
  have hend : ∀ c ∈ ([] : Text).head?, c.isDigit = false := by simp
  have hsize := natAbs_integerValue hsign h
  have hdrop : dropLeadingSpace (spaces ++ (sign ++ digits)) = sign ++ digits := by
    have hhead := isLeadingSpace_head_signed hsign h []
    rw [List.append_nil] at hhead
    exact dropLeadingSpace_append hspaces hhead
  have hinteger : Double.readIntegerLenient (spaces ++ (sign ++ digits)) =
      Double.ofInt (integerValue (sign ++ digits)) := by
    have hcut := integerLiteral?_signed hsign h hend
    rw [List.append_nil, ← hdrop] at hcut
    rw [Double.readIntegerLenient, Double.readInteger_of_some hcut, hdrop, hsize, if_pos hle]
  have hfloat := Double.readLenient_signed hsign h (hle.trans hwindow)
  rw [hinteger, readLenient_congr (hdrop.trans (dropLeadingSpace_signed hsign h).symm), hfloat]
  split
  · next hzero =>
    have hvalue : integerValue (sign ++ digits) = 0 := by omega
    rw [hvalue]
    exact Double.numericallyEqual_zero _
  · exact Double.numericallyEqual_ofInt (by omega)

end

/-- **The integer reader is exact inside its window and zero outside.** A text that begins with an
integer, however many digits it has, is read as that integer if it is in the window and as zero
otherwise, and so is a text that begins with none. So the decimal form of an integer, with any number
of zeros before its digits and with any text after them that does not go on with a digit, is read as
the integer if it is in the window and as zero otherwise. Where the text is an integer in the window
and nothing else, the float reader reads an equal number. -/
theorem integers_are_read_exactly :
    (∀ t i, BeginsWithInteger t i → (Double.readIntegerLenient t).IsInteger (guarded i)) ∧
    (∀ t, (∀ i, ¬BeginsWithInteger t i) → (Double.readIntegerLenient t).IsInteger 0) ∧
    (∀ spaces zeros (i : Int) rest, (∀ c ∈ spaces, c ∈ asciiSpaces) →
      (∀ c ∈ rest.head?, c.isDigit = false) →
      (Double.readIntegerLenient (spaces ++ (paddedDecimal zeros i ++ rest))).IsInteger
        (guarded i)) ∧
    ∀ spaces sign digits, (∀ c ∈ spaces, c ∈ asciiSpaces) → IsSign sign → IsNumeral digits →
      (signedValue sign digits).natAbs ≤ Double.integerLimit →
      Double.NumericallyEqual (Double.readLenient (spaces ++ (sign ++ digits)))
        (Double.readIntegerLenient (spaces ++ (sign ++ digits))) := by
  refine ⟨fun _ _ => read_of_begins, fun _ => read_of_not_begins, ?_, ?_⟩
  · intro spaces zeros i rest hspaces hrest
    exact read_of_begins (begins_decimal zeros i hspaces hrest)
  · intro spaces sign digits hspaces hsign hdigits hle
    rw [← integerValue_eq_signedValue hsign hdigits, natAbs_integerValue hsign hdigits] at hle
    exact readLenient_begins hspaces hsign hdigits hle

/-- The largest integer of the window, among white space, a sign, zeros and a unit. -/
def paddedLimit : Text := " \t+0092233720368547kg".toList

theorem paddedLimit_read_exactly :
    (Double.readIntegerLenient paddedLimit).IsInteger 92233720368547 ∧
    (Double.readIntegerLenient "x1".toList).IsInteger 0 ∧
    (Double.readIntegerLenient "-092233720368548-1".toList).IsInteger 0 ∧
    Double.NumericallyEqual (Double.readLenient " -0".toList)
      (Double.readIntegerLenient " -0".toList) := by
  obtain ⟨hread, hnone, hdecimal, hboth⟩ := integers_are_read_exactly
  have hdigits : IsNumeral "0092233720368547".toList := by decide +kernel
  have hvalue : signedValue ['+'] "0092233720368547".toList = 92233720368547 := by decide +kernel
  have hlimit : BeginsWithInteger paddedLimit 92233720368547 := by
    rw [← hvalue]
    exact @BeginsWithInteger.intro [' ', '\t'] ['+'] _ ['k', 'g'] (by simp [asciiSpaces]) .plus
      hdigits (by simp)
  have hword : ∀ i, ¬BeginsWithInteger "x1".toList i := by
    intro i hi
    obtain ⟨literal, rest, hcut, -⟩ := integerLiteral?_of_begins hi
    cases hcut
  have hbeyond : paddedDecimal 1 (-92233720368548) = "-092233720368548".toList := by decide +kernel
  have houtside : guarded (-92233720368548) = 0 := by decide
  refine ⟨hread _ _ hlimit, hnone _ hword, ?_, ?_⟩
  · have h := hdecimal [] 1 (-92233720368548) ['-', '1'] (by simp) (by simp)
    rw [hbeyond, houtside] at h
    exact h
  · exact hboth [' '] ['-'] ['0'] (by simp [asciiSpaces]) .minus (by decide) (by decide)

end ChoiceTemplate

import ChoiceTemplate.Proofs.ComparisonBounds
import ChoiceTemplate.Proofs.NearestNumber
import ChoiceTemplate.Proofs.Numerals

/-
  The longest number that a text begins with.

  The reader of float literals is greedy: it takes all the digits that are there, a point wherever one
  may stand, and an exponent only if digits follow its letter. The grammar of float literals
  (`IsFloatLiteral`) says nothing of how a text is read. This file compares the two.

    1. What is cut off is a literal, and with the rest it is the text (`floatLiteral?_eq_append`).
    2. A text that begins with a literal has all of it cut off, and perhaps more
       (`IsFloatLiteral.cut_append`). A part is never cut short, because none of the parts can begin
       as the part before it goes on: a letter ends the digits, and a point ends the digits before it.
    3. So greedy and longest are the same (`floatLiteral?_eq_some_iff_isLongest`), and a text is a
       number if and only if all of it is a literal (`isNumber_iff`).
    4. `longest_literal_is_read` adds what is read: the nearest finite number to what the longest
       literal denotes, or zero where there is no literal or its number overflows.
-/
namespace ChoiceTemplate

/-! ## The grammar -/

/-- A float literal, and the decimal number that it denotes: the digits before and after the point
are the digits of the number, and the exponent counts from the last one of them. -/
inductive Denotes : Text → Decimal → Prop
  | intro {sign whole fraction mantissa exponent : Text} : IsSign sign →
      Mantissa whole fraction mantissa → Exponent exponent →
      Denotes (sign ++ (mantissa ++ exponent))
        ⟨isMinus sign, digitsValue (whole ++ fraction),
          Decimal.exponentValue exponent - fraction.length⟩

/-- A float literal: a sign, a mantissa and an exponent, of which only the mantissa has to be there. -/
def IsFloatLiteral (t : Text) : Prop := ∃ number, Denotes t number

/-- The longest float literal that a text begins with, and what follows it. -/
structure IsLongest (t literal rest : Text) : Prop where
  isLiteral : IsFloatLiteral literal
  text_eq : t = literal ++ rest
  longest : ∀ other, IsFloatLiteral other → other <+: t → other.length ≤ literal.length

section
variable {t r sign whole fraction mantissa exponent digits literal rest : Text} {number : Decimal}

/-! ## What is cut off is there -/

/-- A float literal is cut off part by part. -/
theorem floatLiteral?_eq_some :
    floatLiteral? t = some (literal, rest) ↔
      ∃ mantissa r, cutMantissa? (cutSign t).2 = some (mantissa, r) ∧
        literal = (cutSign t).1 ++ (mantissa ++ (cutExponent r).1) ∧ rest = (cutExponent r).2 := by
  rw [floatLiteral?]
  cases hcut : cutMantissa? (cutSign t).2 with
  | none => simp [hcut]
  | some cut =>
    obtain ⟨mantissa, r⟩ := cut
    simp [hcut, and_assoc, eq_comm]

theorem cutMantissa?_eq_append (h : cutMantissa? t = some (mantissa, rest)) :
    t = mantissa ++ rest := by
  have ht := (cutDigits_eq t).2
  rw [cutMantissa?_eq] at h
  split at h
  · next r hpoint =>
    have hr := (cutDigits_eq r).2
    rw [afterPoint?_eq_some] at hpoint
    split at h
    · cases h
    · obtain ⟨rfl, rfl⟩ := Prod.mk.inj (Option.some.inj h)
      rw [List.append_assoc, List.cons_append, ← hr, ← hpoint]
      exact ht
  · split at h
    · cases h
    · obtain ⟨rfl, rfl⟩ := Prod.mk.inj (Option.some.inj h)
      exact ht

theorem cutExponent_eq_append (t : Text) : t = (cutExponent t).1 ++ (cutExponent t).2 := by
  cases t with
  | nil => rfl
  | cons c t =>
    rw [cutExponent]
    split
    · have ht := (cutSign_eq t).2
      have hr := (cutDigits_eq (cutSign t).2).2
      dsimp only
      cases hdigits : cutDigits (cutSign t).2 with
      | mk digits r =>
        rw [hdigits] at hr
        cases digits with
        | nil => rfl
        | cons d digits =>
          rw [hr] at ht
          simpa using ht
    · rfl

theorem floatLiteral?_eq_append (h : floatLiteral? t = some (literal, rest)) :
    t = literal ++ rest := by
  obtain ⟨mantissa, r, hmantissa, rfl, rfl⟩ := floatLiteral?_eq_some.mp h
  calc t = (cutSign t).1 ++ (cutSign t).2 := (cutSign_eq t).2
    _ = (cutSign t).1 ++ (mantissa ++ r) := by rw [← cutMantissa?_eq_append hmantissa]
    _ = (cutSign t).1 ++ (mantissa ++ ((cutExponent r).1 ++ (cutExponent r).2)) := by
        rw [← cutExponent_eq_append r]
    _ = (cutSign t).1 ++ (mantissa ++ (cutExponent r).1) ++ (cutExponent r).2 := by
        simp only [List.append_assoc]

theorem isFloatLiteral_of_floatLiteral? (h : floatLiteral? t = some (literal, rest)) :
    IsFloatLiteral literal := by
  obtain ⟨sign, whole, fraction, mantissa, exponent, rfl, hsign, hmantissa, hexponent⟩ :=
    parts_of_floatLiteral h
  exact ⟨_, .intro hsign hmantissa hexponent⟩

/-! ## All of a literal is cut off -/

/-- Digits are cut off with all the digits that follow them. -/
theorem cutDigits_append_left (h : AllDigits digits) (r : Text) :
    cutDigits (digits ++ r) = (digits ++ (cutDigits r).1, (cutDigits r).2) := by
  rw [cutDigits, List.takeWhile_append_of_pos h, List.dropWhile_append_of_pos h]
  rfl

/-- A mantissa is cut off whole, perhaps with more digits, or with a point, after it. -/
theorem Mantissa.cut_append (h : Mantissa whole fraction mantissa) (r : Text) :
    ∃ more rest, cutMantissa? (mantissa ++ r) = some (mantissa ++ more, rest) := by
  cases h with
  | integer hne hwhole =>
    rw [cutMantissa?_eq, cutDigits_append_left hwhole]
    split
    · next r' _ => exact ⟨(cutDigits r).1 ++ '.' :: (cutDigits r').1, (cutDigits r').2, by simp [hne]⟩
    · exact ⟨(cutDigits r).1, (cutDigits r).2, by simp [hne]⟩
  | point hwhole hfraction hne =>
    have hne' : ¬(whole = [] ∧ fraction = [] ∧ (cutDigits r).1 = []) :=
      fun hempty => hne ⟨hempty.1, hempty.2.1⟩
    refine ⟨(cutDigits r).1, (cutDigits r).2, ?_⟩
    rw [cutMantissa?_eq, List.append_assoc, List.cons_append, cutDigits_append_point hwhole]
    simp [afterPoint?, cutDigits_append_left hfraction, hne']

/-- With an exponent after it, nothing else is cut off. -/
theorem Mantissa.cut_exponent (h : Mantissa whole fraction mantissa)
    (hletter : ∀ c ∈ r.head?, c = 'e' ∨ c = 'E') :
    cutMantissa? (mantissa ++ r) = some (mantissa, r) := by
  have hstop : ∀ c ∈ r.head?, c.isDigit = false := by
    intro c hc
    rcases hletter c hc with rfl | rfl <;> rfl
  have hpoint : afterPoint? r = none := by
    cases r with
    | nil => rfl
    | cons c r => rcases hletter c rfl with rfl | rfl <;> rfl
  cases h with
  | integer hne hwhole =>
    rw [cutMantissa?_eq, cutDigits_append hwhole hstop]
    simp [hpoint, hne]
  | point hwhole hfraction hne =>
    rw [cutMantissa?_eq, List.append_assoc, List.cons_append, cutDigits_append_point hwhole]
    simp [afterPoint?, cutDigits_append hfraction hstop, hne]

/-- An exponent that is there is cut off whole, perhaps with more digits after it. -/
theorem Exponent.cut_append (h : Exponent exponent) (hne : exponent ≠ []) (r : Text) :
    ∃ more rest, cutExponent (exponent ++ r) = (exponent ++ more, rest) := by
  cases h with
  | none => exact absurd rfl hne
  | @some c sign digits hletter hsign hdigits hdigits' =>
    have hhead : ∀ d ∈ (digits ++ r).head?, d ≠ '+' ∧ d ≠ '-' := by
      obtain ⟨d, digits, rfl⟩ := List.exists_cons_of_ne_nil hdigits'
      rintro d ⟨⟩
      have hdigit := hdigits d List.mem_cons_self
      constructor <;> rintro rfl <;> cases hdigit
    refine ⟨(cutDigits r).1, (cutDigits r).2, ?_⟩
    rw [List.cons_append, List.append_assoc, cutExponent, if_pos hletter,
      cutSign_append hsign hhead]
    simp only [cutDigits_append_left hdigits]
    obtain ⟨d, digits, rfl⟩ := List.exists_cons_of_ne_nil hdigits'
    simp

/-- A text that begins with a float literal has it cut off whole, perhaps with more after it. -/
theorem IsFloatLiteral.cut_append (h : IsFloatLiteral literal) (r : Text) :
    ∃ more rest, floatLiteral? (literal ++ r) = some (literal ++ more, rest) := by
  obtain ⟨number, h⟩ := h
  cases h with
  | @intro sign whole fraction mantissa exponent hsign hmantissa hexponent =>
    have hcut : cutSign (sign ++ (mantissa ++ exponent) ++ r) = (sign, mantissa ++ (exponent ++ r)) := by
      rw [List.append_assoc, List.append_assoc]
      exact cutSign_append hsign (hmantissa.head _)
    by_cases hne : exponent = []
    · subst hne
      obtain ⟨more, rest, hmore⟩ := hmantissa.cut_append r
      refine ⟨more ++ (cutExponent rest).1, (cutExponent rest).2, floatLiteral?_eq_some.mpr ?_⟩
      rw [hcut]
      exact ⟨mantissa ++ more, rest, hmore, by simp, rfl⟩
    · have hletter : ∀ c ∈ (exponent ++ r).head?, c = 'e' ∨ c = 'E' := by
        rw [List.head?_append_of_ne_nil _ hne]
        exact hexponent.head
      obtain ⟨more, rest, hmore⟩ := hexponent.cut_append hne r
      refine ⟨more, rest, floatLiteral?_eq_some.mpr ?_⟩
      rw [hcut]
      exact ⟨mantissa, exponent ++ r, hmantissa.cut_exponent hletter, by rw [hmore]; simp,
        by rw [hmore]⟩

/-! ## The longest literal -/

theorem isLongest_of_floatLiteral? (h : floatLiteral? t = some (literal, rest)) :
    IsLongest t literal rest := by
  refine ⟨isFloatLiteral_of_floatLiteral? h, floatLiteral?_eq_append h, ?_⟩
  rintro other hother ⟨r, rfl⟩
  obtain ⟨more, rest', hmore⟩ := hother.cut_append r
  rw [h, Option.some.injEq] at hmore
  rw [(Prod.mk.inj hmore).1, List.length_append]
  exact Nat.le_add_right _ _

/-- A text has at most one longest literal. -/
theorem IsLongest.unique {literal' rest' : Text} (h : IsLongest t literal rest)
    (h' : IsLongest t literal' rest') : literal = literal' ∧ rest = rest' := by
  have hle := h.longest literal' h'.isLiteral ⟨rest', h'.text_eq.symm⟩
  have hle' := h'.longest literal h.isLiteral ⟨rest, h.text_eq.symm⟩
  exact List.append_inj (h.text_eq.symm.trans h'.text_eq) (Nat.le_antisymm hle' hle)

theorem exists_floatLiteral?_iff :
    (∃ cut, floatLiteral? t = some cut) ↔ ∃ p, p <+: t ∧ IsFloatLiteral p := by
  constructor
  · rintro ⟨⟨literal, rest⟩, h⟩
    exact ⟨literal, ⟨rest, (floatLiteral?_eq_append h).symm⟩, isFloatLiteral_of_floatLiteral? h⟩
  · rintro ⟨p, ⟨r, rfl⟩, hp⟩
    obtain ⟨more, rest, h⟩ := hp.cut_append r
    exact ⟨_, h⟩

/-- **The greedy reader takes the longest literal.** -/
theorem floatLiteral?_eq_some_iff_isLongest :
    floatLiteral? t = some (literal, rest) ↔ IsLongest t literal rest := by
  constructor
  · exact isLongest_of_floatLiteral?
  · intro h
    obtain ⟨⟨literal', rest'⟩, h'⟩ :=
      exists_floatLiteral?_iff.mpr ⟨literal, ⟨rest, h.text_eq.symm⟩, h.isLiteral⟩
    obtain ⟨rfl, rfl⟩ := h.unique (isLongest_of_floatLiteral? h')
    exact h'

/-- A literal denotes one number. -/
theorem Denotes.ofLiteral_eq (h : Denotes literal number) : Decimal.ofLiteral literal = number := by
  cases h with
  | intro hsign hmantissa hexponent => exact ofLiteral_parts hsign hmantissa hexponent

/-! ## White space -/

/-- The white space of ASCII: space, tab, line feed, form feed and carriage return. -/
def asciiSpaces : List Char := [' ', '\t', '\n', '\x0c', '\r']

theorem isLeadingSpace_iff {c : Char} : isLeadingSpace c = true ↔ c ∈ asciiSpaces := by
  simp [isLeadingSpace, asciiSpaces, or_assoc]

theorem dropLeadingSpace_eq (t : Text) :
    (∃ spaces, t = spaces ++ dropLeadingSpace t ∧ ∀ c ∈ spaces, c ∈ asciiSpaces) ∧
      ∀ c ∈ (dropLeadingSpace t).head?, c ∉ asciiSpaces := by
  constructor
  · refine ⟨t.takeWhile isLeadingSpace, List.takeWhile_append_dropWhile.symm, ?_⟩
    intro c hc
    exact isLeadingSpace_iff.mp (List.mem_takeWhile_imp hc)
  · intro c hc
    have hstop := List.head?_dropWhile_not isLeadingSpace t
    rw [dropLeadingSpace] at hc
    rw [Option.mem_def.mp hc] at hstop
    rw [← isLeadingSpace_iff, hstop]
    exact Bool.false_ne_true

end

/-! ## Reading -/

namespace Double

section
variable {t literal rest : Text} {number : Decimal}

theorem leading?_eq_some (h : IsLongest (dropLeadingSpace t) literal rest)
    (hnumber : Denotes literal number) : leading? t = some number := by
  rw [leading?, floatLiteral?_eq_some_iff_isLongest.mpr h, Option.map_some, hnumber.ofLiteral_eq]

theorem leading?_eq_none (h : ∀ p, p <+: dropLeadingSpace t → ¬IsFloatLiteral p) :
    leading? t = none := by
  rw [leading?, Option.map_eq_none_iff, Option.eq_none_iff_forall_ne_some]
  intro cut hcut
  obtain ⟨p, hp, hliteral⟩ := exists_floatLiteral?_iff.mp ⟨cut, hcut⟩
  exact h p hp hliteral

/-- A text is a number if all of it is a literal, for then it is the longest one. -/
theorem isNumber_iff : isNumber t = true ↔ IsFloatLiteral (dropLeadingSpace t) := by
  rw [isNumber]
  constructor
  · intro h
    split at h
    · next literal hcut =>
      have hlongest := isLongest_of_floatLiteral? hcut
      rw [hlongest.text_eq, List.append_nil]
      exact hlongest.isLiteral
    · cases h
  · intro h
    have hlongest : IsLongest (dropLeadingSpace t) (dropLeadingSpace t) [] :=
      ⟨h, (List.append_nil _).symm, fun _ _ hprefix => hprefix.length_le⟩
    rw [floatLiteral?_eq_some_iff_isLongest.mpr hlongest]

theorem readLenient_of_overflows (hnumber : leading? t = some number) (h : number.Overflows) :
    readLenient t = zero false := by
  have hinfinite : ¬number.toDouble.isFinite = true :=
    fun hfinite => number.isFinite_toDouble.mp hfinite h
  rw [readLenient_of_some hnumber, if_neg hinfinite]

theorem readLenient_nearest (hnumber : leading? t = some number) (h : ¬number.Overflows) :
    ∃ a, readLenient t = .finite number.negative a ∧ a.IsNearest number.size := by
  rw [readLenient_of_some hnumber, if_pos (number.isFinite_toDouble.mpr h)]
  exact Decimal.toDouble_nearest h

end

/-- **The longest literal is read, and it is read correctly.** Of the text after the white space, the
reader cuts off the longest float literal that the text begins with, and it fails only where there is
none. The text is a number exactly if all of it is a literal. What is read is the nearest finite number
to what that literal denotes, with its sign, and zero if that number overflows or if there is no
literal; in every case it is finite. -/
theorem longest_literal_is_read (t : Text) :
    let u := dropLeadingSpace t
    (∃ spaces, t = spaces ++ u ∧ ∀ c ∈ spaces, c ∈ asciiSpaces) ∧
    (∀ c ∈ u.head?, c ∉ asciiSpaces) ∧
    ((∃ cut, floatLiteral? u = some cut) ↔ ∃ p, p <+: u ∧ IsFloatLiteral p) ∧
    (∀ literal rest, floatLiteral? u = some (literal, rest) ↔ IsLongest u literal rest) ∧
    (isNumber t = true ↔ IsFloatLiteral u) ∧
    (∀ literal rest number, IsLongest u literal rest → Denotes literal number →
      (number.Overflows → readLenient t = zero false) ∧
      (¬number.Overflows →
        ∃ a, readLenient t = .finite number.negative a ∧ a.IsNearest number.size)) ∧
    ((∀ p, p <+: u → ¬IsFloatLiteral p) → readLenient t = zero false) ∧
    (readLenient t).isFinite = true := by
  intro u
  obtain ⟨hspaces, hhead⟩ := dropLeadingSpace_eq t
  refine ⟨hspaces, hhead, exists_floatLiteral?_iff,
    fun _ _ => floatLiteral?_eq_some_iff_isLongest, isNumber_iff, ?_, ?_, isFinite_readLenient t⟩
  · intro literal rest number hlongest hnumber
    have hleading := leading?_eq_some hlongest hnumber
    exact ⟨readLenient_of_overflows hleading, readLenient_nearest hleading⟩
  · intro hnone
    exact readLenient_of_none (leading?_eq_none hnone)

/-- A literal with a sign, no digit before the point and an exponent, and another exponent after it. -/
def crowdedText : Text := "\t-.50e+1e9".toList

theorem crowdedText_read :
    IsLongest "-.50e+1e9".toList "-.50e+1".toList "e9".toList ∧
    Denotes "-.50e+1".toList ⟨true, 50, -1⟩ ∧
    (∃ a, readLenient crowdedText = .finite true a ∧ a.IsNearest 5) ∧
    isNumber crowdedText = false := by
  obtain ⟨-, -, -, hcut, -, hread, -, -⟩ := longest_literal_is_read crowdedText
  have hlongest := (hcut "-.50e+1".toList "e9".toList).mp rfl
  have hmantissa : Mantissa [] ['5', '0'] ".50".toList :=
    .point (by decide) (by decide) (by decide)
  have hexponent : Exponent "e+1".toList :=
    .some (Or.inl rfl) .plus (by decide : AllDigits ['1']) (by decide)
  have hdenotes : Denotes "-.50e+1".toList ⟨true, 50, -1⟩ := .intro .minus hmantissa hexponent
  have hsmall : ¬Decimal.Overflows ⟨true, 50, -1⟩ :=
    (Decimal.isFinite_toDouble _).mp (by decide +kernel)
  have hsize : Decimal.size ⟨true, 50, -1⟩ = 5 := by norm_num [Decimal.size]
  refine ⟨hlongest, hdenotes, ?_, rfl⟩
  rw [← hsize]
  exact (hread _ _ _ hlongest hdenotes).2 hsmall

end Double

end ChoiceTemplate

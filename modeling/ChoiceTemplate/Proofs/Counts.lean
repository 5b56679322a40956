import ChoiceTemplate.Proofs.Concatenation
import ChoiceTemplate.Proofs.Filling
import ChoiceTemplate.Proofs.SelectorGrammar

/-
  Resolving counts.

  A count becomes a floating-point number, and so does every number of a selector. `acceptsCount` is
  the same decision made with integers only; it looks at what stands in the selector and at nothing
  else (`acceptsCount_iff`). The two agree for every count in the window and every selector, if bounds
  of comparisons are integers up to `2 ^ 53` (`accepts_ofInt`), so

    1. a template resolves a count as integer arithmetic says (`counts_resolve_in_integers`);
    2. a selector that is a number accepts the counts that are nearly equal to it, which is itself
       alone if one of the two is below `10 ^ 12`, and in a template of such selectors the first
       one that is nearly equal to the count is chosen (`numerals_accept_near_counts`).

  The window for counts reaches beyond `10 ^ 12`, and there a number accepts its neighbours
  (`neighbour_count_accepted`).
-/
namespace ChoiceTemplate

-- Powers are the core library's, as in the definitions.
attribute [local instance (high)] instPowNat

/-! ## Decisions about integers -/

/-- Whether a count compares with an integer as required. -/
def Comparison.holdsInt : Comparison → Int → Int → Bool
  | .atMost, count, bound => count ≤ bound
  | .atLeast, count, bound => bound ≤ count
  | .lessThan, count, bound => count < bound
  | .greaterThan, count, bound => bound < count

/-- Whether a selector accepts a count, decided without floating-point numbers. -/
def acceptsCount (count : Int) (selector : Text) : Bool :=
  if selector = [] then false
  else
    match Comparison.split selector with
    | some (comparison, bound) => comparison.holdsInt count (integerValue bound)
    | none =>
      match Text.splitOnce '-' selector with
      | some (first, last) => Double.readInteger first ≤ count && count ≤ Double.readInteger last
      | none =>
        match Keyword.classify selector with
        | some value => NearlyEqual count (if value then 1 else 0)
        | none => NearlyEqual count (Double.readInteger selector)

/-- A signed run of digits for an integer of at most `2 ^ 53`. -/
def IsShortInteger (t : Text) : Prop :=
  ∃ sign digits, t = sign ++ digits ∧ IsSign sign ∧ IsNumeral digits ∧ digitsValue digits ≤ 2 ^ 53

/-- Which selectors accept a count, by what stands in them. -/
inductive TakesCount (count : Int) : Text → Prop
  | compare {comparison : Comparison} {sign digits : Text} : IsSign sign → IsNumeral digits →
      comparison.holdsInt count (signedValue sign digits) = true →
      TakesCount count (comparison.sign ++ (sign ++ digits))
  | range {before after : Text} {first last : Int} :
      ¬Comparison.Begins (before ++ '-' :: after) → '-' ∉ before → ReadsAs before first →
      ReadsAs after last → first ≤ count → count ≤ last →
      TakesCount count (before ++ '-' :: after)
  | keyword {s : Text} {value : Bool} : ¬Comparison.Begins s → '-' ∉ s →
      Text.lowercase s ∈ Keyword.words value → NearlyEqual count (if value then 1 else 0) →
      TakesCount count s
  | number {s : Text} {n : Int} : s ≠ [] → ¬Comparison.Begins s → '-' ∉ s →
      (∀ value, Text.lowercase s ∉ Keyword.words value) → ReadsAs s n → NearlyEqual count n →
      TakesCount count s

/-- The count that is resolved: one stands for a count that is too large. -/
def Reference.counted (count : Int) : Int := if count.natAbs ≤ countLimit then count else 1

section
variable {count bound : Int} {selector t : Text} {comparison : Comparison}

theorem Reference.ofCount_eq (count : Int) :
    ofCount count = .number (Double.ofInt (counted count)) := rfl

theorem Reference.natAbs_counted (count : Int) : (counted count).natAbs ≤ countLimit := by
  rw [counted]
  split
  · next h => exact h
  · decide

theorem takesCount_of_acceptsCount
    (h : ∀ comparison bound, Comparison.split selector = some (comparison, bound) →
      IsShortInteger bound) (haccepts : acceptsCount count selector = true) :
    TakesCount count selector := by
  have hform := NumericSelector.written_parse selector
  generalize NumericSelector.parse selector = form at hform
  cases hform with
  | default hempty => simp [acceptsCount, hempty] at haccepts
  | @compare comparison bound hsplit =>
    have hne := Comparison.ne_nil_of_split hsplit
    obtain ⟨sign, digits, rfl, hsign, hdigits, -⟩ := h comparison bound hsplit
    obtain ⟨rfl, -, -⟩ := Comparison.split_eq_some_iff.mp hsplit
    simp only [acceptsCount, hne, hsplit, if_false] at haccepts
    rw [integerValue_eq_signedValue hsign hdigits] at haccepts
    exact .compare hsign hdigits haccepts
  | @range first last hne hsplit hcut =>
    obtain ⟨rfl, hminus⟩ := Text.splitOnce_eq_some.mp hcut
    simp only [acceptsCount, hne, hsplit, hcut, if_false, Bool.and_eq_true,
      decide_eq_true_eq] at haccepts
    exact .range (Comparison.split_eq_none_iff.mp hsplit) hminus (readsAs_readInteger _)
      (readsAs_readInteger _) haccepts.1 haccepts.2
  | @boolean value hne hsplit hcut hkeyword =>
    simp only [acceptsCount, hne, hsplit, hcut, hkeyword, if_false,
      decide_eq_true_eq] at haccepts
    exact .keyword (Comparison.split_eq_none_iff.mp hsplit) (Text.splitOnce_eq_none.mp hcut)
      (Keyword.classify_eq_some_iff.mp hkeyword) haccepts
  | exact hne hsplit hcut hkeyword =>
    simp only [acceptsCount, hne, hsplit, hcut, hkeyword, if_false,
      decide_eq_true_eq] at haccepts
    exact .number hne (Comparison.split_eq_none_iff.mp hsplit) (Text.splitOnce_eq_none.mp hcut)
      (Keyword.classify_eq_none_iff.mp hkeyword) (readsAs_readInteger _) haccepts

theorem acceptsCount_of_takesCount (h : TakesCount count selector) :
    acceptsCount count selector = true := by
  cases h with
  | @compare comparison sign digits hsign hdigits hholds =>
    have hne : sign ++ digits ≠ [] := by simp [hdigits.1]
    have hhead : (sign ++ digits).head? ≠ some '=' := by
      cases hsign with
      | none =>
        intro hequals
        exact absurd (hdigits.isDigit_head [] '=' (by simpa using hequals)) (by decide)
      | plus => simp
      | minus => simp
    have hsplit := Comparison.split_sign comparison hne hhead
    have hselector := Comparison.ne_nil_of_split hsplit
    simp only [acceptsCount, hselector, hsplit, if_false]
    rwa [integerValue_eq_signedValue hsign hdigits]
  | @range before after first last hbegins hminus hfirst hlast hle hge =>
    have hsplit := Comparison.split_eq_none_iff.mpr hbegins
    have hcut : Text.splitOnce '-' (before ++ '-' :: after) = some (before, after) :=
      Text.splitOnce_eq_some.mpr ⟨rfl, hminus⟩
    have hne : before ++ '-' :: after ≠ [] := by simp
    simp only [acceptsCount, hne, hsplit, hcut, if_false, hfirst.readInteger_eq,
      hlast.readInteger_eq, hle, hge, decide_true, Bool.and_self]
  | @keyword _ value hbegins hminus hword hnear =>
    have hne : selector ≠ [] := by
      rintro rfl
      cases value <;> exact absurd hword (by decide)
    have hsplit := Comparison.split_eq_none_iff.mpr hbegins
    have hcut := Text.splitOnce_eq_none.mpr hminus
    have hkeyword := Keyword.classify_eq_some_iff.mpr hword
    simp only [acceptsCount, hne, hsplit, hcut, hkeyword, if_false, hnear, decide_true]
  | number hne hbegins hminus hword hread hnear =>
    have hsplit := Comparison.split_eq_none_iff.mpr hbegins
    have hcut := Text.splitOnce_eq_none.mpr hminus
    have hkeyword := Keyword.classify_eq_none_iff.mpr hword
    simp only [acceptsCount, hne, hsplit, hcut, hkeyword, if_false,
      hread.readInteger_eq, hnear, decide_true]

/-- **The decision is about what stands in a selector**, whatever reads it. -/
theorem acceptsCount_iff
    (h : ∀ comparison bound, Comparison.split selector = some (comparison, bound) →
      IsShortInteger bound) :
    acceptsCount count selector = true ↔ TakesCount count selector :=
  ⟨takesCount_of_acceptsCount h, acceptsCount_of_takesCount⟩

/-! ## Floating-point numbers decide alike -/

theorem Comparison.holds_ofInt (hcount : count.natAbs ≤ 2 ^ 53) (hbound : bound.natAbs ≤ 2 ^ 53) :
    comparison.holds (Double.ofInt count) (Double.ofInt bound) =
      comparison.holdsInt count bound := by
  cases comparison with
  | atMost => rw [holds, holdsInt, Double.le_ofInt hcount hbound]
  | atLeast => rw [holds, holdsInt, Double.le_ofInt hbound hcount]
  | lessThan => rw [holds, holdsInt, Double.lt_ofInt hcount hbound]
  | greaterThan => rw [holds, holdsInt, Double.lt_ofInt hbound hcount]

/-- A bound that is an integer is compared with as that integer, and minus zero as zero. -/
theorem Comparison.holds_readLenient (hcount : count.natAbs ≤ 2 ^ 53) (ht : IsShortInteger t) :
    comparison.holds (Double.ofInt count) (Double.readLenient t) =
      comparison.holdsInt count (integerValue t) := by
  obtain ⟨sign, digits, rfl, hsign, hdigits, hle⟩ := ht
  have hvalue := natAbs_integerValue hsign hdigits
  have hbound : (integerValue (sign ++ digits)).natAbs ≤ 2 ^ 53 := by omega
  rw [← holds_ofInt hcount hbound, Double.readLenient_signed hsign hdigits hle]
  split
  · next hzero =>
    have hinteger : integerValue (sign ++ digits) = 0 := by omega
    rw [hinteger, ← Double.zero_eq_ofInt]
    exact holds_of_isZero (Double.isZero_zero _) _
  · rfl

/-- **A selector accepts a count exactly if it does in integers.** -/
theorem accepts_ofInt (hcount : count.natAbs ≤ Reference.countLimit)
    (h : ∀ comparison bound, Comparison.split selector = some (comparison, bound) →
      IsShortInteger bound) :
    (NumericSelector.parse selector).accepts (Double.ofInt count) =
      acceptsCount count selector := by
  have hwindow : Reference.countLimit + Double.integerLimit < 2 ^ 53 := by decide
  have hlimit : 1 ≤ Double.integerLimit := by decide
  have hexact : count.natAbs ≤ 2 ^ 53 := by omega
  have hform := NumericSelector.written_parse selector
  generalize NumericSelector.parse selector = form at hform
  cases hform with
  | default hempty => simp [NumericSelector.accepts, acceptsCount, hempty]
  | @compare comparison bound hsplit =>
    have hne := Comparison.ne_nil_of_split hsplit
    simp only [NumericSelector.accepts, acceptsCount, hne, hsplit, if_false]
    exact Comparison.holds_readLenient hexact (h comparison bound hsplit)
  | @range first last hne hsplit hcut =>
    have hfirst := Double.natAbs_readInteger_le first
    have hlast := Double.natAbs_readInteger_le last
    simp only [NumericSelector.accepts, acceptsCount, hne, hsplit, hcut, if_false]
    rw [Double.le_ofInt (by omega) hexact, Double.le_ofInt hexact (by omega)]
  | @boolean value hne hsplit hcut hkeyword =>
    have hvalue : (if value then 1 else 0 : Int).natAbs ≤ 1 := by cases value <;> decide
    simp only [NumericSelector.accepts, acceptsCount, hne, hsplit, hcut, hkeyword, if_false]
    rw [Double.ofNat_eq_ofInt, Nat.cast_ite, Nat.cast_one, Nat.cast_zero,
      NumericSelector.close_ofInt (by omega)]
  | exact hne hsplit hcut hkeyword =>
    have hvalue := Double.natAbs_readInteger_le selector
    simp only [NumericSelector.accepts, acceptsCount, hne, hsplit, hcut, hkeyword, if_false]
    rw [NumericSelector.close_ofInt (by omega)]

end

/-! ## Templates -/

namespace Choices

/-- **Counts are resolved as integer arithmetic says.** If each comparison has an integer of at most
`2 ^ 53` as its bound, then each selector accepts a count, with one in place of a count that is too
large, exactly if it does in integers. So the text is that of the first pair that does, and otherwise
the default text. -/
theorem counts_resolve_in_integers (c : Choices) (count : Int)
    (h : ∀ i ∈ c.items, ∀ comparison bound,
      Comparison.split i.selector = some (comparison, bound) → IsShortInteger bound) :
    ∃ r, Reference.ofCount count = .number r ∧
      (∀ i ∈ c.items, (NumericSelector.parse i.selector).accepts r =
        acceptsCount (Reference.counted count) i.selector) ∧
      c.selectNumeric r =
        ((c.items.find? fun i => acceptsCount (Reference.counted count) i.selector).map
          Choice.text).getD c.defaultText := by
  have hcount := Reference.natAbs_counted count
  have haccepts : ∀ i ∈ c.items,
      (NumericSelector.parse i.selector).accepts (Double.ofInt (Reference.counted count)) =
        acceptsCount (Reference.counted count) i.selector :=
    fun i hi => accepts_ofInt hcount (h i hi)
  refine ⟨_, Reference.ofCount_eq count, haccepts, ?_⟩
  rw [selectNumeric, select_congr haccepts, select_eq]

/-- A bound that only just is a number, zero with a minus sign, a range with an end out of the
window, a keyword, and a number that a count one above it is nearly equal to. -/
def mixedPairs : List Choice :=
  [⟨"<-9007199254740992".toList, "a".toList⟩, ⟨"<=-0".toList, "b".toList⟩,
    ⟨"7-2000000000000000".toList, "c".toList⟩, ⟨"Yes".toList, "d".toList⟩,
    ⟨"1000000000000".toList, "e".toList⟩, ⟨[], "f".toList⟩]

theorem mixedPairs_resolve_in_integers :
    (∀ i ∈ mixedPairs, ∀ comparison bound,
      Comparison.split i.selector = some (comparison, bound) → IsShortInteger bound) ∧
    (∃ r, Reference.ofCount 1000000000001 = .number r ∧
      (ofList mixedPairs).selectNumeric r = "e".toList) ∧
    ∃ r, Reference.ofCount (-1000000000000000) = .number r ∧
      (ofList mixedPairs).selectNumeric r = "d".toList := by
  have h : ∀ i ∈ (ofList mixedPairs).items, ∀ comparison bound,
      Comparison.split i.selector = some (comparison, bound) → IsShortInteger bound := by
    intro i hi comparison bound hsplit
    rw [items_ofList] at hi
    simp only [mixedPairs, List.mem_cons, List.not_mem_nil, or_false] at hi
    rcases hi with rfl | rfl | rfl | rfl | rfl | rfl
    · cases hsplit
      exact ⟨['-'], "9007199254740992".toList, rfl, .minus, by decide, by decide⟩
    · cases hsplit
      exact ⟨['-'], ['0'], rfl, .minus, by decide, by decide⟩
    all_goals cases hsplit
  have hpairs : (ofList mixedPairs).items = mixedPairs := items_ofList mixedPairs
  obtain ⟨r, hr, -, hselect⟩ := counts_resolve_in_integers (ofList mixedPairs) 1000000000001 h
  obtain ⟨r', hr', -, hselect'⟩ :=
    counts_resolve_in_integers (ofList mixedPairs) (-1000000000000000) h
  exact ⟨hpairs ▸ h, ⟨r, hr, hselect⟩, ⟨r', hr', hselect'⟩⟩

end Choices

/-! ## Selectors that are numbers -/

section
variable {count : Int} {s : Text}

theorem acceptsCount_numeral (h : IsNumeral s) (hle : digitsValue s ≤ Double.integerLimit) :
    acceptsCount count s = decide (NearlyEqual count (digitsValue s)) := by
  have hsplit := h.split_eq_none
  have hcut := Text.splitOnce_eq_none.mpr (h.not_mem (d := '-') rfl)
  simp only [acceptsCount, h.1, hsplit, hcut, if_false]
  cases hkeyword : Keyword.classify s with
  | none => rw [Double.readInteger_numeral h hle]
  | some value =>
    rw [h.digitsValue_of_classify hkeyword]
    cases value <;> rfl

theorem accepts_numeral (hcount : count.natAbs ≤ Reference.countLimit) (h : IsNumeral s)
    (hle : digitsValue s ≤ Double.integerLimit) :
    (NumericSelector.parse s).accepts (Double.ofInt count) =
      decide (NearlyEqual count (digitsValue s)) := by
  have hnone : ∀ comparison bound, Comparison.split s = some (comparison, bound) →
      IsShortInteger bound := by
    intro comparison bound hsome
    rw [h.split_eq_none] at hsome
    cases hsome
  rw [accepts_ofInt hcount hnone, acceptsCount_numeral h hle]

theorem nearlyEqual_iff {n : Int} (h : count.natAbs < 10 ^ 12 ∨ n.natAbs < 10 ^ 12) :
    NearlyEqual count n ↔ count = n := by
  constructor
  · intro hnear
    exact eq_of_nearlyEqual hnear h
  · rintro rfl
    exact nearlyEqual_self count

end

namespace Choices

/-- The first pair whose selector is a number that `matching` accepts. -/
def numbered? (c : Choices) (matching : Nat → Bool) : Option Choice :=
  c.items.find? fun i => i.selector ≠ [] && matching (digitsValue i.selector)

/-- Every selector is empty or a number in the window of selectors. -/
def AllNumbered (c : Choices) : Prop :=
  ∀ i ∈ c.items, i.selector = [] ∨
    IsNumeral i.selector ∧ digitsValue i.selector ≤ Double.integerLimit

instance (c : Choices) : Decidable c.AllNumbered := List.decidableBAll _ _

section
variable {c : Choices} {count : Int}

theorem accepted_ofCount [PatternEngine] (hcount : count.natAbs ≤ Reference.countLimit)
    (h : c.AllNumbered) (options : MatchOptions) :
    c.accepted? options (.ofCount count) = c.numbered? fun n => NearlyEqual count n := by
  rw [accepted?, numbered?, Reference.ofCount_eq, Reference.counted, if_pos hcount]
  apply List.find?_congr
  intro i hi
  rcases h i hi with hempty | ⟨hnumeral, hle⟩
  · rw [hempty, not_accepts_nil]
    rfl
  · rw [Reference.accepts, accepts_numeral hcount hnumeral hle]
    simp [hnumeral.1]

theorem numbered_congr {p q : Nat → Bool}
    (h : ∀ i ∈ c.items, p (digitsValue i.selector) = q (digitsValue i.selector)) :
    c.numbered? p = c.numbered? q := by
  apply List.find?_congr
  intro i hi
  rw [h i hi]

end

end Choices

theorem formatChoiceCount_eq [PatternEngine] (template : Text) (count : Int) (values : Values) :
    formatChoiceCount template count values =
      fill ((Choices.parse template).resolve .standard (.ofCount count)) values :=
  Message.formatChoice_ofText template .standard (.ofCount count) values

/-- **A number accepts the counts that are nearly equal to it.** For a count in its window, a selector
that is a number in its own window accepts the count exactly if the two differ by at most one part in
`10 ^ 12` of the smaller one. If one of them is below `10 ^ 12`, this means that they are equal. In a
template of such selectors and of defaults, a count chooses the first number that it is nearly equal
to, and otherwise the default. -/
theorem numerals_accept_near_counts [PatternEngine] (count : Int)
    (hcount : count.natAbs ≤ Reference.countLimit) :
    (∀ s, IsNumeral s → digitsValue s ≤ Double.integerLimit → ∀ options,
      ((Reference.ofCount count).accepts options s = true ↔ NearlyEqual count (digitsValue s)) ∧
      (count.natAbs < 10 ^ 12 ∨ digitsValue s < 10 ^ 12 →
        ((Reference.ofCount count).accepts options s = true ↔ count = digitsValue s))) ∧
    ∀ template, (Choices.parse template).AllNumbered → ∀ values,
      formatChoiceCount template count values =
        fill ((((Choices.parse template).numbered? fun n => NearlyEqual count n).map
          Choice.text).getD (Choices.parse template).defaultText) values ∧
      ((count.natAbs < 10 ^ 12 ∨
          ∀ i ∈ (Choices.parse template).items, digitsValue i.selector < 10 ^ 12) →
        formatChoiceCount template count values =
          fill ((((Choices.parse template).numbered? fun n => count = n).map
            Choice.text).getD (Choices.parse template).defaultText) values) := by
  constructor
  · intro s hs hle options
    have haccepts : (Reference.ofCount count).accepts options s =
        decide (NearlyEqual count (digitsValue s)) := by
      rw [Reference.ofCount_eq, Reference.counted, if_pos hcount, Reference.accepts,
        accepts_numeral hcount hs hle]
    rw [haccepts, decide_eq_true_iff]
    refine ⟨Iff.rfl, ?_⟩
    intro hsmall
    exact nearlyEqual_iff (by simpa using hsmall)
  · intro template hnumbered values
    have hformat : formatChoiceCount template count values =
        fill ((((Choices.parse template).numbered? fun n => NearlyEqual count n).map
          Choice.text).getD (Choices.parse template).defaultText) values := by
      rw [formatChoiceCount_eq, Choices.resolve_eq, Choices.accepted_ofCount hcount hnumbered]
    refine ⟨hformat, ?_⟩
    intro hsmall
    have hsame : ((Choices.parse template).numbered? fun n => NearlyEqual count n) =
        (Choices.parse template).numbered? fun n => count = n := by
      apply Choices.numbered_congr
      intro i hi
      rw [decide_eq_decide]
      apply nearlyEqual_iff
      rcases hsmall with hsmall | hsmall
      · exact Or.inl hsmall
      · exact Or.inr (by simpa using hsmall i hi)
    rw [hformat, hsame]

/-- Two ways to write one, the largest number that accepts nothing but itself, and a default. -/
def filesTemplate : Text := "0#none|1#one|01#again|999999999999#many|#other".toList

theorem filesTemplate_counted :
    (Choices.parse filesTemplate).AllNumbered ∧
    (∀ i ∈ (Choices.parse filesTemplate).items, digitsValue i.selector < 10 ^ 12) ∧
    formatChoiceCount filesTemplate 1 .empty = "one".toList ∧
    formatChoiceCount filesTemplate 1000000000000 .empty = "other".toList ∧
    ((Reference.ofCount 999999999999).accepts .standard "999999999999".toList = true ↔
      (999999999999 : Int) = digitsValue "999999999999".toList) := by
  have hnumbered : (Choices.parse filesTemplate).AllNumbered := by decide
  have hsmall : ∀ i ∈ (Choices.parse filesTemplate).items, digitsValue i.selector < 10 ^ 12 := by
    decide
  have hone := (numerals_accept_near_counts 1 (by decide)).2 filesTemplate hnumbered .empty
  have hlarge :=
    (numerals_accept_near_counts 1000000000000 (by decide)).2 filesTemplate hnumbered .empty
  have hself := (numerals_accept_near_counts 999999999999 (by decide)).1
    "999999999999".toList (by decide) (by decide) .standard
  exact ⟨hnumbered, hsmall, hone.2 (Or.inr hsmall), hlarge.2 (Or.inr hsmall),
    hself.2 (Or.inl (by decide))⟩

/-- At `10 ^ 12` a number of the window accepts the next count, which is in its window too. -/
theorem neighbour_count_accepted :
    IsNumeral "1000000000000".toList ∧ Keyword.classify "1000000000000".toList = none ∧
    digitsValue "1000000000000".toList = 1000000000000 ∧ 1000000000000 ≤ Double.integerLimit ∧
    1000000000001 ≤ Reference.countLimit ∧
    (Reference.ofCount 1000000000001).accepts .standard "1000000000000".toList = true ∧
    formatChoiceCount "1000000000000#exact|#other".toList 1000000000001 .empty = "exact".toList := by
  decide +kernel

end ChoiceTemplate

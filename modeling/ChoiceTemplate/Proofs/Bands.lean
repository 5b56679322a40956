import ChoiceTemplate.Proofs.Resolution
import ChoiceTemplate.Proofs.RoundTrip
import ChoiceTemplate.Proofs.SelectorForms

/-
  Comparisons and ranges that divide the numbers.

  A comparison and its opposite have the same bound, read in the same way, so each number satisfies
  one of them (`accepts_opposite`), whatever text the bound is.

  Three bands `<a`, `a-b` and `>b` are another matter, for the bounds of a comparison and the ends of
  a range are read by two different readers. For numerals in the window of selectors the two give the
  same number (`accepts_selector`), so

    1. each number is in one band (`exists_band`): below, above, or in between, where the order of
       the ends keeps it from being both below and above;
    2. the pair of that band is the one that is chosen, wherever it stands (`accepted_of_hasBands`),
       and a template may have the bands written in any order (`hasBands_parse_render`).
-/
namespace ChoiceTemplate

/-! ## The order of the numbers -/

namespace Double

section
variable {a b c r : Double}

theorem lt_trans (hab : lt a b = true) (hbc : lt b c = true) : lt a c = true := by
  cases b with
  | nan => cases a <;> cases hab
  | infinity negative =>
    cases negative with
    | false => cases c <;> simp [lt] at hbc
    | true => cases a <;> simp [lt] at hab
  | finite negative size =>
    cases a with
    | nan => cases hab
    | infinity negative =>
      cases c with
      | nan => cases hbc
      | infinity negative => simp_all [lt]
      | finite negative size => exact hab
    | finite negative size =>
      cases c with
      | nan => cases hbc
      | infinity negative => exact hbc
      | finite negative size =>
        simp only [lt, decide_eq_true_eq] at *
        omega

/-- Two numbers that are not NaN are in order, or the second is below the first. -/
theorem not_le_eq_lt (ha : a ≠ .nan) (hb : b ≠ .nan) : (!le a b) = lt b a := by
  have hnumber : ∀ {d : Double}, d ≠ .nan → d.isNaN = false := by
    intro d hd
    cases d with
    | nan => exact absurd rfl hd
    | infinity negative => rfl
    | finite negative size => rfl
  rw [le, hnumber ha, hnumber hb]
  simp

theorem ne_nan_of_isFinite (h : a.isFinite = true) : a ≠ .nan := by
  rintro rfl
  cases h

theorem ofInt_ne_nan (i : Int) : ofInt i ≠ .nan := by
  intro h
  rw [ofInt, ofRatio] at h
  split at h <;> cases h

end

end Double

/-! ## Opposite comparisons -/

/-- The comparison that holds where a comparison does not. -/
def Comparison.opposite : Comparison → Comparison
  | .atMost => .greaterThan
  | .atLeast => .lessThan
  | .lessThan => .atLeast
  | .greaterThan => .atMost

section
variable {comparison : Comparison} {bound : Text} {r : Double}

theorem Comparison.holds_opposite {b : Double} (hb : b ≠ .nan) (hr : r ≠ .nan) :
    comparison.opposite.holds r b = !comparison.holds r b := by
  cases comparison with
  | atMost => exact (Double.not_le_eq_lt hr hb).symm
  | atLeast => exact (Double.not_le_eq_lt hb hr).symm
  | lessThan => rw [opposite, holds, holds, ← Double.not_le_eq_lt hb hr, Bool.not_not]
  | greaterThan => rw [opposite, holds, holds, ← Double.not_le_eq_lt hr hb, Bool.not_not]

theorem NumericSelector.accepts_opposite (comparison : Comparison) (hne : bound ≠ [])
    (h : bound.head? ≠ some '=') (hr : r ≠ .nan) :
    (parse (comparison.opposite.sign ++ bound)).accepts r =
      !(parse (comparison.sign ++ bound)).accepts r := by
  rw [parse_sign _ hne h, parse_sign _ hne h]
  exact Comparison.holds_opposite (Double.ne_nan_of_isFinite (Double.isFinite_readLenient bound)) hr

end

/-! ## Bands -/

/-- The parts that two numbers divide the numbers into. -/
inductive Band where
  | below
  | within
  | above
  deriving DecidableEq

namespace Band

/-- The selector for a band, with the first and the last number as they are written. -/
def selector (first last : Text) : Band → Text
  | .below => '<' :: first
  | .within => first ++ '-' :: last
  | .above => '>' :: last

/-- The pair of a band, with its text. -/
def choice (first last : Text) (text : Band → Text) (band : Band) : Choice :=
  ⟨band.selector first last, text band⟩

/-- Whether a number is in a band. -/
def holds (a b r : Double) : Band → Bool
  | .below => Double.lt r a
  | .within => Double.le a r && Double.le r b
  | .above => Double.lt b r

section
variable {a b r : Double} {first last : Text}

/-- Each number is in one band. That it is not both below and above is what the order is for. -/
theorem exists_band (ha : a ≠ .nan) (hb : b ≠ .nan) (hr : r ≠ .nan) (hab : Double.le a b = true) :
    ∃ band : Band, ∀ other : Band, other.holds a b r = true ↔ other = band := by
  have hlow : Double.lt r a = !Double.le a r := (Double.not_le_eq_lt ha hr).symm
  have hhigh : Double.lt b r = !Double.le r b := (Double.not_le_eq_lt hr hb).symm
  have horder : Double.lt b a = false := by
    rw [← Double.not_le_eq_lt ha hb, hab, Bool.not_true]
  cases hfirst : Double.le a r with
  | false =>
    have hlast : Double.le r b = true := by
      by_contra h
      have habove : Double.lt b r = true := by simpa [hhigh] using h
      have hbelow : Double.lt r a = true := by simp [hlow, hfirst]
      rw [Double.lt_trans habove hbelow] at horder
      cases horder
    refine ⟨.below, fun other => ?_⟩
    cases other <;> simp [holds, hlow, hhigh, hfirst, hlast]
  | true =>
    cases hlast : Double.le r b with
    | false =>
      refine ⟨.above, fun other => ?_⟩
      cases other <;> simp [holds, hlow, hhigh, hfirst, hlast]
    | true =>
      refine ⟨.within, fun other => ?_⟩
      cases other <;> simp [holds, hlow, hhigh, hfirst, hlast]

/-- **The two readers agree on numerals**, so the selectors are for bands of the same numbers. -/
theorem accepts_selector (hfirst : IsNumeral first) (hlast : IsNumeral last)
    (hfirst' : digitsValue first ≤ Double.integerLimit)
    (hlast' : digitsValue last ≤ Double.integerLimit) (band : Band) :
    (NumericSelector.parse (band.selector first last)).accepts r =
      band.holds (Double.ofInt (digitsValue first)) (Double.ofInt (digitsValue last)) r := by
  have hlimit := Double.integerLimit_le
  have hhead : ∀ {t : Text}, IsNumeral t → t.head? ≠ some '=' := by
    intro t ht h
    have := ht.isDigit_head [] '=' (by rw [List.append_nil]; exact h)
    cases this
  cases band with
  | below =>
    have hsign : Band.below.selector first last = Comparison.lessThan.sign ++ first := rfl
    rw [hsign, NumericSelector.parse_sign _ hfirst.1 (hhead hfirst),
      Double.readLenient_numeral hfirst (by omega), NumericSelector.accepts, Comparison.holds, holds]
  | within =>
    rw [selector, NumericSelector.parse_range hfirst hlast hfirst' hlast', NumericSelector.accepts,
      holds]
  | above =>
    have hsign : Band.above.selector first last = Comparison.greaterThan.sign ++ last := rfl
    rw [hsign, NumericSelector.parse_sign _ hlast.1 (hhead hlast),
      Double.readLenient_numeral hlast (by omega), NumericSelector.accepts, Comparison.holds, holds]

/-- A selector of a band has digits and the three signs in it, and nothing else. -/
theorem not_mem_selector (band : Band) (hfirst : IsNumeral first) (hlast : IsNumeral last) {c : Char}
    (hdigit : c.isDigit = false) (hsign : c ∉ ['<', '-', '>']) : c ∉ band.selector first last := by
  have hnofirst := hfirst.not_mem hdigit
  have hnolast := hlast.not_mem hdigit
  simp only [List.mem_cons, List.not_mem_nil, or_false, not_or] at hsign
  cases band <;> simp [selector, hnofirst, hnolast, hsign]

end

end Band

/-! ## Templates of bands -/

namespace Choices

/-- The pairs of some choices are the three bands, each with its text, and perhaps defaults. -/
def HasBands (c : Choices) (first last : Text) (text : Band → Text) : Prop :=
  (∀ band, Band.choice first last text band ∈ c.items) ∧
  ∀ i ∈ c.items, i.selector = [] ∨ ∃ band, i = Band.choice first last text band

section
variable {c : Choices} {first last : Text} {text : Band → Text} {r : Double} {band : Band}

theorem accepted_of_hasBands [PatternEngine] (hc : c.HasBands first last text)
    (hband : ∀ other, (NumericSelector.parse (Band.selector first last other)).accepts r = true ↔
      other = band) (options : MatchOptions) :
    c.accepted? options (.number r) = some (band.choice first last text) := by
  obtain ⟨hall, honly⟩ := hc
  rw [accepted?]
  cases haccepted : c.items.find? fun i => (Reference.number r).accepts options i.selector with
  | none =>
    have hnone := List.find?_eq_none.mp haccepted _ (hall band)
    exact absurd ((hband band).mpr rfl) hnone
  | some i =>
    have haccepts := List.find?_some haccepted
    rcases honly i (List.mem_of_find?_eq_some haccepted) with hempty | ⟨other, rfl⟩
    · rw [hempty, not_accepts_nil] at haccepts
      cases haccepts
    · rw [(hband other).mp haccepts]

theorem selectNumeric_of_accepted [PatternEngine] {i : Choice}
    (h : c.accepted? .standard (.number r) = some i) : c.selectNumeric r = i.text := by
  have hresolve := resolve_eq c .standard (.number r)
  rw [h] at hresolve
  exact hresolve

/-- Bands in any order, written as a template, are read as bands. -/
theorem hasBands_parse_render (hfirst : IsNumeral first) (hlast : IsNumeral last)
    (htext : ∀ band, '|' ∉ text band ∧ '"' ∉ text band) {order : List Band}
    (hall : ∀ band, band ∈ order) :
    (parse (render (order.map (Band.choice first last text)))).HasBands first last text := by
  have hwritable : ∀ i ∈ order.map (Band.choice first last text), i.Writable := by
    intro i hi
    obtain ⟨band, -, rfl⟩ := List.mem_map.mp hi
    exact
      { hash_selector := band.not_mem_selector hfirst hlast rfl (by decide)
        bar_selector := band.not_mem_selector hfirst hlast rfl (by decide)
        quote_selector := band.not_mem_selector hfirst hlast rfl (by decide)
        bar_text := (htext band).1
        quote_text := (htext band).2 }
  rw [parse_render hwritable, HasBands, items_ofList]
  constructor
  · intro band
    exact List.mem_map_of_mem (hall band)
  · intro i hi
    obtain ⟨band, -, rfl⟩ := List.mem_map.mp hi
    exact Or.inr ⟨band, rfl⟩

end

end Choices

open NumericSelector in
/-- **Comparisons and ranges divide the numbers.** For each text that can be a bound, a reference that
is not NaN is accepted by one of the two opposite selectors. For numerals in the window of selectors,
in order, it is accepted by one of the three bands. Choices of these bands give the text of that band,
whatever the default is, and so does each template that has the bands written in some order. -/
theorem comparisons_and_ranges_divide [PatternEngine] (r : Double) (hr : r ≠ .nan) :
    (∀ bound : Text, bound ≠ [] → bound.head? ≠ some '=' →
      (parse ('<' :: bound)).accepts r = !(parse ('>' :: '=' :: bound)).accepts r ∧
      (parse ('<' :: '=' :: bound)).accepts r = !(parse ('>' :: bound)).accepts r) ∧
    ∀ first last : Text, IsNumeral first → IsNumeral last →
      digitsValue first ≤ digitsValue last → digitsValue last ≤ Double.integerLimit →
      ∃ band : Band,
        (∀ other : Band, (parse (other.selector first last)).accepts r = true ↔ other = band) ∧
        (∀ (c : Choices) (text : Band → Text), c.HasBands first last text →
          (∀ options, c.accepted? options (.number r) = some (band.choice first last text)) ∧
          c.selectNumeric r = text band) ∧
        ∀ (order : List Band) (text : Band → Text), (∀ other, other ∈ order) →
          (∀ other, '|' ∉ text other ∧ '"' ∉ text other) →
          (Choices.parse (Choices.render (order.map (Band.choice first last text)))).selectNumeric r =
            text band := by
  constructor
  · intro bound hne h
    exact ⟨accepts_opposite .atLeast hne h hr, accepts_opposite .greaterThan hne h hr⟩
  · intro first last hfirst hlast hle hlimit
    have hexact : Double.integerLimit ≤ 2 ^ 53 := by decide
    have hfirst' : digitsValue first ≤ Double.integerLimit := by omega
    have horder : Double.le (Double.ofInt (digitsValue first)) (Double.ofInt (digitsValue last)) =
        true := by
      rw [Double.le_ofInt (by omega) (by omega)]
      simpa using hle
    obtain ⟨band, hband⟩ :=
      Band.exists_band (Double.ofInt_ne_nan _) (Double.ofInt_ne_nan _) hr horder
    have haccepts : ∀ other : Band,
        (parse (other.selector first last)).accepts r = true ↔ other = band := by
      intro other
      rw [Band.accepts_selector hfirst hlast hfirst' hlimit]
      exact hband other
    have hselect : ∀ {c : Choices} {text : Band → Text}, c.HasBands first last text →
        c.selectNumeric r = text band := fun hc =>
      Choices.selectNumeric_of_accepted (Choices.accepted_of_hasBands hc haccepts .standard)
    refine ⟨band, haccepts, ?_, ?_⟩
    · intro c text hc
      exact ⟨Choices.accepted_of_hasBands hc haccepts, hselect hc⟩
    · intro order text hall htext
      exact hselect (Choices.hasBands_parse_render hfirst hlast htext hall)

/-- Three bands out of order, with a default between them. -/
def sizeTemplate : Text := ">20#large|#unknown|10-20#medium|<10#small".toList

/-- The texts of the bands. -/
def sizeText : Band → Text
  | .below => "small".toList
  | .within => "medium".toList
  | .above => "large".toList

theorem sizeTemplate_divided :
    (Choices.parse sizeTemplate).HasBands (Text.ofNat 10) (Text.ofNat 20) sizeText ∧
    (Choices.parse sizeTemplate).selectNumeric (.infinity true) = "small".toList ∧
    (Choices.parse "10-20#medium,|>20#large,|<10#small,".toList).selectNumeric (.infinity true) =
      "small".toList ∧
    (NumericSelector.parse "<1kg".toList).accepts (.infinity true) =
      !(NumericSelector.parse ">=1kg".toList).accepts (.infinity true) := by
  have hitems : (Choices.parse sizeTemplate).items =
      [⟨">20".toList, "large".toList⟩, ⟨[], "unknown".toList⟩, ⟨"10-20".toList, "medium".toList⟩,
        ⟨"<10".toList, "small".toList⟩] := by decide
  have hbands : (Choices.parse sizeTemplate).HasBands (Text.ofNat 10) (Text.ofNat 20) sizeText := by
    unfold Choices.HasBands
    rw [hitems]
    constructor
    · intro band
      cases band <;> decide
    · intro i hi
      simp only [List.mem_cons, List.not_mem_nil, or_false] at hi
      rcases hi with rfl | rfl | rfl | rfl
      · exact Or.inr ⟨.above, by decide⟩
      · exact Or.inl rfl
      · exact Or.inr ⟨.within, by decide⟩
      · exact Or.inr ⟨.below, by decide⟩
  obtain ⟨hbounds, hnumerals⟩ := comparisons_and_ranges_divide (.infinity true) nofun
  obtain ⟨band, hband, hselect, hwritten⟩ := hnumerals (Text.ofNat 10) (Text.ofNat 20) (isNumeral_ofNat 10)
    (isNumeral_ofNat 20) (by rw [digitsValue_ofNat, digitsValue_ofNat]; decide)
    (by rw [digitsValue_ofNat]; decide)
  have hbelow : Band.below = band := (hband .below).mp (by decide +kernel)
  have hrender : "10-20#medium,|>20#large,|<10#small,".toList =
      Choices.render ([.within, .above, .below].map
        (Band.choice (Text.ofNat 10) (Text.ofNat 20) sizeText)) := by decide
  refine ⟨hbands, ?_, ?_, (hbounds "1kg".toList (by decide) (by decide)).1⟩
  · rw [(hselect _ sizeText hbands).2, ← hbelow]
    rfl
  · rw [hrender, hwritten _ sizeText (by intro other; cases other <;> decide)
      (by intro other; cases other <;> decide), ← hbelow]
    rfl

end ChoiceTemplate

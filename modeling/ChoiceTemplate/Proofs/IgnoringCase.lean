import ChoiceTemplate.Pattern.Basic
import ChoiceTemplate.Proofs.Folding
import ChoiceTemplate.Proofs.NumberLiterals

/-
  Where ASCII letter case makes no difference.

    1. Two texts are equal up to case exactly if they are the same in lower case
       (`equalsIgnoreCase_iff`), so this is an equivalence.
    2. A selector in lower case is the same keyword, the same comparison, range or number
       (`classify_lowercase`, `parse_lowercase`) and, where selectors are folded, the same pattern.
       So a reference accepts it as before (`accepts_lowercase`).
    3. A text reference is put into lower case before anything else is done with it.

  `case_never_shows` says what follows for resolving: neither the case of a text reference nor, for
  booleans, numbers and folded patterns, that of the selectors is seen in the text that is chosen.
-/
namespace ChoiceTemplate

/-! ## Equality up to case -/

theorem equalsIgnoreCase_iff {a b : Text} :
    equalsIgnoreCase a b = true ↔ Text.lowercase a = Text.lowercase b := by
  induction a generalizing b with
  | nil => cases b <;> simp [equalsIgnoreCase]
  | cons c a ih =>
    cases b with
    | nil => simp [equalsIgnoreCase]
    | cons d b =>
      rw [equalsIgnoreCase, Bool.and_eq_true, beq_iff_eq, ih, Text.lowercase_cons,
        Text.lowercase_cons, List.cons.injEq]

theorem equalsIgnoreCase_equivalence :
    Equivalence fun a b : Text => equalsIgnoreCase a b = true := by
  simp only [equalsIgnoreCase_iff]
  exact ⟨fun _ => rfl, Eq.symm, Eq.trans⟩

/-- Putting one of two texts into lower case does not change whether they are equal up to case. -/
theorem equalsIgnoreCase_lowercase (a b : Text) :
    equalsIgnoreCase (Text.lowercase a) b = equalsIgnoreCase a b := by
  rw [Bool.eq_iff_iff, equalsIgnoreCase_iff, equalsIgnoreCase_iff, Text.lowercase_lowercase]

/-! ## Selectors -/

section
variable (s : Text)

theorem lowercase_eq_nil : Text.lowercase s = [] ↔ s = [] := by
  rw [Text.lowercase, List.map_eq_nil_iff]

theorem classify_lowercase : Keyword.classify (Text.lowercase s) = Keyword.classify s := by
  have hsame : equalsIgnoreCase (Text.lowercase s) = equalsIgnoreCase s :=
    funext (equalsIgnoreCase_lowercase s)
  rw [Keyword.classify, Keyword.classify, hsame]

theorem bound?_lowercase (comparison : Comparison) :
    Comparison.bound? (Text.lowercase s) comparison =
      (Comparison.bound? s comparison).map Text.lowercase := by
  have hsign : ∀ c ∈ comparison.sign, c.isAlpha = false := by
    cases comparison <;> simp [Comparison.sign]
  rw [Comparison.bound?, Comparison.bound?, Text.afterStart?_lowercase hsign]
  cases Text.afterStart? comparison.sign s with
  | none => rfl
  | some bound =>
    cases bound <;> rfl

theorem split_lowercase :
    Comparison.split (Text.lowercase s) =
      (Comparison.split s).map (Prod.map id Text.lowercase) := by
  rw [Comparison.split, Comparison.split]
  induction Comparison.all with
  | nil => rfl
  | cons comparison rest ih =>
    rw [List.findSome?_cons, List.findSome?_cons, bound?_lowercase]
    cases Comparison.bound? s comparison with
    | none => exact ih
    | some bound => rfl

/-- A numeric selector is read the same in lower case, whichever form it has. -/
theorem parse_lowercase :
    NumericSelector.parse (Text.lowercase s) = NumericSelector.parse s := by
  simp only [NumericSelector.parse, lowercase_eq_nil, split_lowercase,
    Text.splitOnce_lowercase (c := '-') rfl, classify_lowercase, readInteger_lowercase]
  cases Comparison.split s with
  | some cut =>
    obtain ⟨comparison, bound⟩ := cut
    simp only [Option.map_some, Prod.map_apply, id_eq, readLenient_lowercase]
  | none =>
    cases Text.splitOnce '-' s with
    | some cut =>
      obtain ⟨first, last⟩ := cut
      simp only [Option.map_some, Option.map_none, Prod.map_apply, readInteger_lowercase]
    | none => rfl

theorem compileSelector_lowercase [PatternEngine] (limit : Nat) :
    compileSelector (Text.lowercase s) ⟨limit, true⟩ = compileSelector s ⟨limit, true⟩ := by
  show PatternEngine.compile (Text.lowercase (Text.lowercase s)) limit =
    PatternEngine.compile (Text.lowercase s) limit
  rw [Text.lowercase_lowercase]

/-- A reference accepts a selector in lower case as it accepts the selector, except that a text may
see a difference where patterns are not folded. -/
theorem accepts_lowercase [PatternEngine] (limit : Nat) (r : Reference) :
    r.accepts ⟨limit, true⟩ (Text.lowercase s) = r.accepts ⟨limit, true⟩ s := by
  cases r with
  | boolean value => rw [Reference.accepts, Reference.accepts, classify_lowercase]
  | number value => rw [Reference.accepts, Reference.accepts, parse_lowercase]
  | text value =>
    simp only [Reference.accepts, compileSelector_lowercase, ne_eq, lowercase_eq_nil]

end

/-! ## Choices -/

/-- Pairs with the same text, and with selectors that are equal up to case. -/
def Choice.SameUpToCase (i j : Choice) : Prop :=
  equalsIgnoreCase i.selector j.selector = true ∧ i.text = j.text

namespace Choices

theorem lowered_of_sameUpToCase {items items' : List Choice}
    (h : List.Forall₂ Choice.SameUpToCase items items') :
    items.map Choice.lowered = items'.map Choice.lowered := by
  induction h with
  | nil => rfl
  | @cons i j items items' hij _ ih =>
    have hlowered : i.lowered = j.lowered := by
      rw [Choice.lowered, Choice.lowered, equalsIgnoreCase_iff.mp hij.1, hij.2]
    rw [List.map_cons, List.map_cons, hlowered, ih]

/-- Where patterns are folded, no reference sees the case of selectors. -/
theorem resolve_sameUpToCase [PatternEngine] {items items' : List Choice}
    (h : List.Forall₂ Choice.SameUpToCase items items') (limit : Nat) (r : Reference) :
    (ofList items).resolve ⟨limit, true⟩ r = (ofList items').resolve ⟨limit, true⟩ r := by
  have haccepts : ∀ s, r.accepts ⟨limit, true⟩ (Text.lowercase s) = r.accepts ⟨limit, true⟩ s :=
    fun s => accepts_lowercase s limit r
  calc (ofList items).resolve ⟨limit, true⟩ r
      = (ofList (items.map Choice.lowered)).resolve ⟨limit, true⟩ r :=
        (resolve_map_lowered haccepts items).symm
    _ = (ofList (items'.map Choice.lowered)).resolve ⟨limit, true⟩ r := by
        rw [lowered_of_sameUpToCase h]
    _ = (ofList items').resolve ⟨limit, true⟩ r := resolve_map_lowered haccepts items'

/-- **ASCII letter case never shows where it should not.** To be equal up to case is to be equal in
lower case, and an equivalence. Text references that are equal up to case choose the same from every
template with any options. Choices with the same texts and with selectors that are equal up to case
give each boolean and each number the same text, and each text reference if patterns are folded. -/
theorem case_never_shows [PatternEngine] :
    (Equivalence fun a b : Text => equalsIgnoreCase a b = true) ∧
    (∀ a b : Text, equalsIgnoreCase a b = true ↔ Text.lowercase a = Text.lowercase b) ∧
    (∀ (template : Text) (options : MatchOptions) (a b : Text), equalsIgnoreCase a b = true →
      (Message.ofText template options).choice? (.text a) =
        (Message.ofText template options).choice? (.text b)) ∧
    ∀ items items' : List Choice, List.Forall₂ Choice.SameUpToCase items items' →
      (∀ value, (ofList items).selectBoolean value = (ofList items').selectBoolean value) ∧
      (∀ value, (ofList items).selectNumeric value = (ofList items').selectNumeric value) ∧
      ∀ limit value,
        (ofList items).selectText (PatternSet.compile (ofList items) ⟨limit, true⟩) value =
          (ofList items').selectText (PatternSet.compile (ofList items') ⟨limit, true⟩) value := by
  refine ⟨equalsIgnoreCase_equivalence, fun a b => equalsIgnoreCase_iff, ?_, ?_⟩
  · intro template options a b h
    have haccepted : ∀ c : Choices, c.resolve options (.text a) = c.resolve options (.text b) := by
      intro c
      rw [resolve, resolve, selectText, selectText, equalsIgnoreCase_iff.mp h]
    rw [Message.choice_ofText, Message.choice_ofText, Message.plainChoice, Message.plainChoice,
      haccepted]
  · intro items items' h
    refine ⟨?_, ?_, ?_⟩
    · exact fun value => resolve_sameUpToCase h 0 (.boolean value)
    · exact fun value => resolve_sameUpToCase h 0 (.number value)
    · exact fun limit value => resolve_sameUpToCase h limit (.text value)

/-- A bound with an exponent, a keyword, and a word with a letter that is not ASCII. -/
def quietPairs : List Choice :=
  [⟨">1e2".toList, "many".toList⟩, ⟨"yes".toList, "one".toList⟩, ⟨"grün".toList, "green".toList⟩]

def loudPairs : List Choice :=
  [⟨">1E2".toList, "many".toList⟩, ⟨"YES".toList, "one".toList⟩, ⟨"GRüN".toList, "green".toList⟩]

theorem loudPairs_resolve_like_quietPairs :
    List.Forall₂ Choice.SameUpToCase quietPairs loudPairs ∧
    (∀ value, (ofList quietPairs).selectNumeric value = (ofList loudPairs).selectNumeric value) ∧
    equalsIgnoreCase "Grün".toList "gRüN".toList = true ∧
    (Message.ofText "grün#green".toList .standard).choice? (.text "Grün".toList) =
      (Message.ofText "grün#green".toList .standard).choice? (.text "gRüN".toList) := by
  have h : List.Forall₂ Choice.SameUpToCase quietPairs loudPairs :=
    .cons ⟨rfl, rfl⟩ (.cons ⟨rfl, rfl⟩ (.cons ⟨rfl, rfl⟩ .nil))
  exact ⟨h, (case_never_shows.2.2.2 quietPairs loudPairs h).2.1, rfl,
    case_never_shows.2.2.1 _ .standard _ _ rfl⟩

end Choices

end ChoiceTemplate

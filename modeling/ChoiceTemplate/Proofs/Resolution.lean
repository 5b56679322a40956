import ChoiceTemplate.Message
import ChoiceTemplate.Proofs.Defaults
import Mathlib.Data.List.Find

/-
  One rule for the three kinds of references.

  Booleans and numbers are compared with the selectors as they stand. Patterns are compiled
  beforehand, only those that are valid, and each with the index of its choice, through which the
  text is found in the end. `find_compileFrom` says that this detour loses nothing: the index that
  comes out is that of the first selector that accepts the text. So for every kind of reference
  the text is that of the first pair whose selector it accepts, and otherwise the default text
  (`resolve_eq`).

  The compiled patterns are those of the selectors, each with its index (`mem_compileFrom`), so none
  points beyond the choices (`index_lt_of_mem_compile`).
-/
namespace ChoiceTemplate

/-- Whether a reference accepts a selector. A text, put into lower case, must be the first match
of the selector, which must not be empty and must compile. -/
def Reference.accepts [PatternEngine] (options : MatchOptions) (selector : Text) : Reference → Bool
  | .boolean value => Keyword.classify selector == some value
  | .number value => (NumericSelector.parse selector).accepts value
  | .text value =>
    selector ≠ [] && match compileSelector selector options with
      | .ok pattern => pattern.matchesWhole (Text.lowercase value)
      | .error _ => false

/-- The text that a reference selects from some choices. -/
def Choices.resolve [PatternEngine] (c : Choices) (options : MatchOptions) : Reference → Text
  | .boolean value => c.selectBoolean value
  | .number value => c.selectNumeric value
  | .text value => c.selectText (PatternSet.compile c options) value

/-- The first pair whose selector a reference accepts. -/
def Choices.accepted? [PatternEngine] (c : Choices) (options : MatchOptions) (r : Reference) :
    Option Choice :=
  c.items.find? fun i => r.accepts options i.selector

/-! ## What is accepted -/

section
variable [PatternEngine] {options : MatchOptions} {selector : Text}

/-- An empty selector only ever gives the default. -/
theorem not_accepts_nil (r : Reference) : r.accepts options [] = false := by
  cases r with
  | boolean value => rfl
  | text value => rfl
  | number value => rfl

theorem not_accepts_of_error {error : PatternEngine.Refusal}
    (h : compileSelector selector options = .error error) (value : Text) :
    (Reference.text value).accepts options selector = false := by
  simp [Reference.accepts, h]

/-- A pattern is kept for a selector that is not empty and compiles. -/
theorem selectorPattern?_eq_some {p : PatternEngine.Compiled} :
    selectorPattern? selector options = some p ↔
      selector ≠ [] ∧ compileSelector selector options = .ok p := by
  rw [selectorPattern?]
  by_cases h : selector = []
  · simp [h]
  · cases compileSelector selector options <;> simp [h, Except.toOption]

/-- A text is accepted by the patterns that are kept. -/
theorem accepts_text (value : Text) :
    (Reference.text value).accepts options selector =
      (selectorPattern? selector options).any fun p => p.matchesWhole (Text.lowercase value) := by
  rw [Reference.accepts, selectorPattern?]
  by_cases h : selector = []
  · simp [h]
  · cases compileSelector selector options <;> simp [h, Except.toOption]

end

/-! ## The way through the patterns -/

namespace PatternSet

section
variable [PatternEngine]

theorem compileFrom_cons_none {options : MatchOptions} {selector : Text}
    (h : selectorPattern? selector options = none) (index : Nat) (rest : List Text) :
    compileFrom options index (selector :: rest) = compileFrom options (index + 1) rest := by
  rw [compileFrom, h]

theorem compileFrom_cons_some {options : MatchOptions} {selector : Text} {p : PatternEngine.Compiled}
    (h : selectorPattern? selector options = some p) (index : Nat) (rest : List Text) :
    compileFrom options index (selector :: rest) =
      (index, p) :: compileFrom options (index + 1) rest := by
  rw [compileFrom, h]

theorem find_compileFrom (options : MatchOptions) (t : Text) (index : Nat)
    (selectors : List Text) :
    ((compileFrom options index selectors).find? fun e => e.2.matchesWhole t).map Prod.fst =
      (selectors.findIdx? fun s => (selectorPattern? s options).any fun p => p.matchesWhole t).map
        (· + index) := by
  induction selectors generalizing index with
  | nil => rfl
  | cons s rest ih =>
    -- A selector that is skipped still counts: what follows it is one further along on both sides.
    have shift : ∀ o : Option Nat, o.map (· + (index + 1)) = (o.map (· + 1)).map (· + index) := by
      intro o
      rw [Option.map_map]
      exact congrArg (o.map ·) (funext fun n => by simp only [Function.comp]; omega)
    rw [List.findIdx?_cons]
    cases hs : selectorPattern? s options with
    | none => rw [compileFrom_cons_none hs, ih, shift]; rfl
    | some p =>
      rw [compileFrom_cons_some hs]
      cases hp : p.matchesWhole t
      · rw [List.find?_cons_of_neg (by simp [hp]), ih, shift]
        simp [hp]
      · rw [List.find?_cons_of_pos (by simp [hp])]
        simp [hp]

/-- The patterns are those that the selectors compile to, each with the index of its selector. -/
theorem mem_compileFrom {options : MatchOptions} {selectors : List Text} {index i : Nat}
    {p : PatternEngine.Compiled} :
    (i, p) ∈ compileFrom options index selectors ↔
      ∃ k s, i = index + k ∧ selectors[k]? = some s ∧ selectorPattern? s options = some p := by
  induction selectors generalizing index with
  | nil => simp [compileFrom]
  | cons s rest ih =>
    -- A pattern is that of the first selector, or it is found one further on.
    have hcons : (∃ k x, i = index + k ∧ (s :: rest)[k]? = some x ∧
          selectorPattern? x options = some p) ↔
        (i = index ∧ selectorPattern? s options = some p) ∨
          ∃ k x, i = index + 1 + k ∧ rest[k]? = some x ∧ selectorPattern? x options = some p := by
      constructor
      · rintro ⟨k, x, hi, hk, hx⟩
        cases k with
        | zero =>
          cases hk
          exact Or.inl ⟨hi, hx⟩
        | succ k => exact Or.inr ⟨k, x, by omega, hk, hx⟩
      · rintro (⟨hi, hs⟩ | ⟨k, x, hi, hk, hx⟩)
        · exact ⟨0, s, hi, rfl, hs⟩
        · exact ⟨k + 1, x, by omega, hk, hx⟩
    rw [hcons, ← ih]
    cases hs : selectorPattern? s options with
    | none =>
      rw [compileFrom_cons_none hs]
      simp
    | some q =>
      rw [compileFrom_cons_some hs, List.mem_cons, Prod.mk.injEq, Option.some.injEq,
        eq_comm (a := p)]

theorem index_lt_of_mem_compile {c : Choices} {options : MatchOptions} {e : Nat × PatternEngine.Compiled}
    (h : e ∈ (compile c options).patterns) : e.1 < c.size := by
  obtain ⟨i, p⟩ := e
  obtain ⟨k, s, hi, hs, -⟩ := mem_compileFrom.mp h
  have hlt : k < c.size := (List.getElem?_eq_some_iff.mp hs).1
  show i < c.size
  omega

/-- The index that compiled patterns find leads to a text. -/
theorem texts_of_findWhole {c : Choices} {options : MatchOptions} {t : Text} {i : Nat}
    (h : (compile c options).findWhole? t = some i) : ∃ x, c.texts[i]? = some x := by
  obtain ⟨e, he, rfl⟩ := Option.map_eq_some_iff.mp h
  have hlt := index_lt_of_mem_compile (List.mem_of_find?_eq_some he)
  exact ⟨_, List.getElem?_eq_getElem (c.length_texts.symm ▸ hlt)⟩

end

end PatternSet

/-! ## The rule -/

namespace Choices

/-- Only what is asked about the selectors at hand matters. -/
theorem select_congr {c : Choices} {p q : Text → Bool}
    (h : ∀ i ∈ c.items, p i.selector = q i.selector) : c.select p = c.select q := by
  rw [select, select, List.find?_congr h]

section
variable (c : Choices) (options : MatchOptions)

theorem select_eq (matching : Text → Bool) :
    c.select matching =
      ((c.items.find? fun i => matching i.selector).map Choice.text).getD c.defaultText := by
  rw [select]
  cases c.items.find? fun i => matching i.selector <;> rfl

theorem findWhole_eq_accepted [PatternEngine] (value : Text) :
    ((PatternSet.compile c options).findWhole? (Text.lowercase value)).bind (fun i => c.items[i]?) =
      c.accepted? options (.text value) := by
  simp only [accepted?, accepts_text]
  rw [PatternSet.findWhole?, PatternSet.compile, PatternSet.find_compileFrom, selectors_eq,
    List.findIdx?_map, List.find?_eq_bind_findIdx?_getElem?]
  simp only [Nat.add_zero, Option.map_id']
  rfl

/-- **First accepted selector, else the default.** The rule is the same for booleans, numbers and
texts. -/
theorem resolve_eq [PatternEngine] (r : Reference) :
    c.resolve options r = ((c.accepted? options r).map Choice.text).getD c.defaultText := by
  cases r with
  | boolean value => exact select_eq c fun s => (Reference.boolean value).accepts options s
  | number value => exact select_eq c fun s => (Reference.number value).accepts options s
  | text value =>
    rw [resolve, selectText, findWhole_eq_accepted]
    cases c.accepted? options (.text value) <;> rfl

end

/-- An empty template has nothing to select. -/
theorem resolve_parse_nil [PatternEngine] (options : MatchOptions) (r : Reference) :
    (parse []).resolve options r = [] := by
  cases r <;> rfl

end Choices

end ChoiceTemplate

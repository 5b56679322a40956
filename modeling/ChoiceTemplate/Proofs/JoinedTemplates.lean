import ChoiceTemplate.Pattern.Basic
import ChoiceTemplate.Proofs.Concatenation
import ChoiceTemplate.Proofs.Separators

/-
  What is read from two templates joined by `|`, and what is warned about.

  The loops over the entries of a template hand on an index and the last default, and strict reading
  stops early. Over the entries of the second template they go on with the number of entries of the
  first and its default. So everything about the second template is raised by that number
  (`unseparated_raise`, `entryWarnings_raise`), and the default shows in one place only: the first
  empty selector of the second template replaces it, about which there is one more warning
  (`entryWarnings_seam`).

  `joined_templates_compose` puts together what the joined template is for the entries, for both
  readings and for the warnings.
-/
namespace ChoiceTemplate

/-- The refusal of an entry that has `n` more entries before it. -/
def TemplateError.raise (n : Nat) : TemplateError → TemplateError
  | .missingSeparator index entry => .missingSeparator (n + index) entry

/-- The warning about an entry that has `n` more entries before it. -/
def Warning.raise (n : Nat) : Warning → Warning
  | .missingSeparator index entry => .missingSeparator (n + index) entry
  | .shadowedDefault index previous => .shadowedDefault (n + index) (n + previous)
  | .invalidPattern index selector message => .invalidPattern (n + index) selector message
  | .uppercasePattern index selector => .uppercasePattern (n + index) selector
  | .unparsableBound index selector => .unparsableBound (n + index) selector
  | .nearKeyword index selector suggestion => .nearKeyword (n + index) selector suggestion

theorem Warning.index_raise (n : Nat) (w : Warning) : (w.raise n).index = n + w.index := by
  cases w <;> rfl

namespace Choices

/-! ## The first entry without `#` -/

theorem unseparated_raise (n index : Nat) (es : List Text) :
    unseparated (n + index) es = (unseparated index es).map fun e => (e.1, n + e.2) := by
  induction es generalizing index with
  | nil => rfl
  | cons e es ih =>
    by_cases h : '#' ∈ e
    · rw [unseparated_cons_of_mem h, unseparated_cons_of_mem h, Nat.add_assoc, ih]
    · rw [unseparated_cons_of_not_mem h, unseparated_cons_of_not_mem h, Nat.add_assoc, ih]
      rfl

theorem unseparated_append (index : Nat) (es more : List Text) :
    unseparated index (es ++ more) =
      unseparated index es ++ unseparated (index + es.length) more := by
  rw [unseparated, List.zipIdx_append, List.filter_append, unseparated, unseparated]

theorem parseStrict_bar (a b : Text) :
    parseStrict (a ++ '|' :: b) =
      match parseStrict a, parseStrict b with
      | .error e, _ => .error e
      | .ok _, .error e => .error (e.raise (entries a).length)
      | .ok c, .ok d => .ok (c.append d) := by
  have hraise : unseparated (0 + (entries a).length) (entries b) =
      (unseparated 0 (entries b)).map fun e => (e.1, (entries a).length + e.2) := by
    rw [Nat.zero_add]
    exact unseparated_raise (entries a).length 0 (entries b)
  rw [parseStrict_eq, parseStrict_eq, parseStrict_eq, parse_bar, entries_bar, unseparated_append,
    hraise, List.head?_append, List.head?_map]
  cases (unseparated 0 (entries a)).head? with
  | some e => rfl
  | none => cases (unseparated 0 (entries b)).head? <;> rfl

/-- The first empty selector of a template is that of the first entry that begins with `#`. -/
theorem findIdx?_selectors (t : Text) :
    (parse t).selectors.findIdx? (· = []) = (entries t).findIdx? hasEmptySelector := by
  have hsame : ∀ es : List Text, (∀ e ∈ es, e ≠ []) →
      (es.map ofEntry).findIdx? Choice.isDefault = es.findIdx? hasEmptySelector := by
    intro es hne
    induction es with
    | nil => rfl
    | cons e es ih =>
      have hes := ih fun x hx => hne x (List.mem_cons_of_mem e hx)
      rw [List.map_cons, List.findIdx?_cons, List.findIdx?_cons, hes,
        isDefault_ofEntry (hne e List.mem_cons_self)]
  rw [selectors_eq, List.findIdx?_map, items_parse]
  exact hsame (entries t) fun e he => ne_nil_of_mem_entries he

end Choices

/-! ## Warnings -/

namespace Lint

section
variable [PatternEngine] (options : MatchOptions) (n : Nat)

theorem selectorWarnings_raise (index : Nat) (selector : Text) :
    selectorWarnings (n + index) selector options =
      (selectorWarnings index selector options).map (Warning.raise n) := by
  have hpattern : patternWarning? (n + index) selector options =
      (patternWarning? index selector options).map (Warning.raise n) := by
    rw [patternWarning?, patternWarning?]
    split
    · rfl
    · split <;> rfl
  have hbound : boundWarning? (n + index) selector =
      (boundWarning? index selector).map (Warning.raise n) := by
    rw [boundWarning?, boundWarning?]
    split
    · split <;> rfl
    · rfl
  have hkeyword : keywordWarning? (n + index) selector =
      (keywordWarning? index selector).map (Warning.raise n) := by
    rw [keywordWarning?, keywordWarning?, Option.map_map]
    rfl
  rw [selectorWarnings, selectorWarnings, hpattern, hbound, hkeyword, Option.toList_map,
    Option.toList_map, Option.toList_map, List.map_append, List.map_append]

theorem warningsAbout_raise (index : Nat) (previous : Option Nat) (entry : Text) :
    warningsAbout options (n + index) (previous.map (n + ·)) entry =
      (warningsAbout options index previous entry).map (Warning.raise n) := by
  rw [warningsAbout, warningsAbout]
  split
  · rfl
  · cases previous <;> rfl
  · exact selectorWarnings_raise options n index _

/-- With `n` more entries before them and the same default among these, entries are warned about as
before. -/
theorem entryWarnings_raise (index : Nat) (previous : Option Nat) (es : List Text) :
    entryWarnings options (n + index) (previous.map (n + ·)) es =
      (entryWarnings options index previous es).map (Warning.raise n) := by
  induction es generalizing index previous with
  | nil => rfl
  | cons e es ih =>
    have hprevious : (if Choices.hasEmptySelector e then some (n + index)
        else previous.map (n + ·)) =
        (if Choices.hasEmptySelector e then some index else previous).map (n + ·) := by
      split <;> rfl
    rw [entryWarnings_cons, entryWarnings_cons, hprevious, List.map_append, warningsAbout_raise,
      Nat.add_assoc, ih]

end

section
variable [PatternEngine] {options : MatchOptions} {index q : Nat} {es : List Text}

/-- The default before some entries makes no difference if no selector among them is empty. -/
theorem entryWarnings_of_findIdx?_eq_none (h : es.findIdx? Choices.hasEmptySelector = none)
    (p : Option Nat) :
    entryWarnings options index p es = entryWarnings options index none es := by
  induction es generalizing index with
  | nil => rfl
  | cons e es ih =>
    have hnone := List.findIdx?_eq_none_iff.mp h
    have he : Choices.hasEmptySelector e = false := hnone e List.mem_cons_self
    have hes : es.findIdx? Choices.hasEmptySelector = none :=
      List.findIdx?_eq_none_iff.mpr fun x hx => hnone x (List.mem_cons_of_mem e hx)
    rw [entryWarnings_cons, entryWarnings_cons, he, warningsAbout_of_not_empty he p none,
      if_neg Bool.false_ne_true, if_neg Bool.false_ne_true, ih hes]

/-- Otherwise it makes a difference for the first empty selector, and for nothing else: this one
replaces the default, about which there is a warning between the warnings that there are anyway. -/
theorem entryWarnings_seam (options : MatchOptions) (index : Nat)
    (h : es.findIdx? Choices.hasEmptySelector = some q) :
    ∃ before after, entryWarnings options index none es = before ++ after ∧
      (∀ w ∈ before, w.index < index + q) ∧ (∀ w ∈ after, index + q < w.index) ∧
      ∀ p, entryWarnings options index (some p) es =
        before ++ .shadowedDefault (index + q) p :: after := by
  induction es generalizing index q with
  | nil => cases h
  | cons e es ih =>
    rw [List.findIdx?_cons] at h
    cases he : Choices.hasEmptySelector e with
    | true =>
      rw [he, if_pos rfl, Option.some.injEq] at h
      subst h
      refine ⟨[], entryWarnings options (index + 1) (some index) es, ?_, ?_, ?_, ?_⟩
      · rw [entryWarnings_cons, warningsAbout_of_empty he, he]
        rfl
      · exact fun w hw => absurd hw List.not_mem_nil
      · intro w hw
        obtain ⟨k, -, -, hindex, -⟩ := concerns_of_mem_entryWarnings hw
        omega
      · intro p
        rw [entryWarnings_cons, warningsAbout_of_empty he, he]
        rfl
    | false =>
      rw [he, if_neg Bool.false_ne_true] at h
      obtain ⟨k, hk, rfl⟩ := Option.map_eq_some_iff.mp h
      obtain ⟨before, after, hes, hbefore, hafter, hseam⟩ := ih (index + 1) hk
      have hsum : index + 1 + k = index + (k + 1) := by omega
      rw [hsum] at hbefore hafter hseam
      refine ⟨warningsAbout options index none e ++ before, after, ?_, ?_, hafter, ?_⟩
      · rw [entryWarnings_cons, he, if_neg Bool.false_ne_true, hes, List.append_assoc]
      · intro w hw
        rcases List.mem_append.mp hw with hw | hw
        · have hindex := (concerns_of_mem_warningsAbout hw).1
          omega
        · exact hbefore w hw
      · intro p
        rw [entryWarnings_cons, he, if_neg Bool.false_ne_true, hseam,
          warningsAbout_of_not_empty he (some p) none, List.append_assoc]

end

theorem lint_bar [PatternEngine] (a b : Text) (options : MatchOptions) :
    lint (a ++ '|' :: b) options =
      lint a options ++ entryWarnings options (Choices.entries a).length
        (Choices.parse a).defaultIndex (Choices.entries b) := by
  rw [lint, Choices.entries_bar, entryWarnings_append, Choices.defaultIndex_parse, Option.or_none,
    Nat.zero_add, lint]

end Lint

namespace Choices

/-- **Joining templates by `|` joins all that is read from them and warned about.** The joined
template has the entries of the one and then those of the other, `n` being the number of the former.
Lenient reading gives the pairs of both, with the default of the second if it has one. Strict
reading fails where the first fails, or else where the second does, `n` entries further on, or else
reads both. There are the warnings about the first and those about the second, `n` entries further
on; and, exactly if the first has a default `p` and the second an empty selector, the first one
being `q`, one more: `n + q` replaces `p`. It stands where it belongs by its index. -/
theorem joined_templates_compose [PatternEngine] (a b : Text) (options : MatchOptions) :
    let n := (entries a).length
    entries (a ++ '|' :: b) = entries a ++ entries b ∧
    parse (a ++ '|' :: b) = (parse a).append (parse b) ∧ (parse a).size = n ∧
    (parseStrict (a ++ '|' :: b) =
      match parseStrict a, parseStrict b with
      | .error e, _ => .error e
      | .ok _, .error e => .error (e.raise n)
      | .ok c, .ok d => .ok (c.append d)) ∧
    match (parse a).defaultIndex, (parse b).selectors.findIdx? (· = []) with
    | some p, some q =>
      ∃ before after, lint b options = before ++ after ∧
        (∀ w ∈ before, w.index < q) ∧ (∀ w ∈ after, q < w.index) ∧
        lint (a ++ '|' :: b) options =
          lint a options ++ before.map (Warning.raise n) ++
            .shadowedDefault (n + q) p :: after.map (Warning.raise n)
    | _, _ =>
      lint (a ++ '|' :: b) options = lint a options ++ (lint b options).map (Warning.raise n) := by
  intro n
  have hraise : Lint.entryWarnings options n none (entries b) =
      (lint b options).map (Warning.raise n) :=
    Lint.entryWarnings_raise options n 0 none (entries b)
  refine ⟨entries_bar a b, parse_bar a b, size_parse a, parseStrict_bar a b, ?_⟩
  rw [Lint.lint_bar, findIdx?_selectors]
  cases (parse a).defaultIndex with
  | none => rw [hraise]
  | some p =>
    cases hq : (entries b).findIdx? hasEmptySelector with
    | none => rw [Lint.entryWarnings_of_findIdx?_eq_none hq, hraise]
    | some q =>
      obtain ⟨raised, raised', hb, hlt, hgt, hseam⟩ :=
        Lint.entryWarnings_seam options n hq
      obtain ⟨before, after, hlint, rfl, rfl⟩ := List.map_eq_append_iff.mp (hraise.symm.trans hb)
      refine ⟨before, after, hlint, ?_, ?_, ?_⟩
      · intro w hw
        have := hlt _ (List.mem_map_of_mem hw)
        rw [Warning.index_raise] at this
        omega
      · intro w hw
        have := hgt _ (List.mem_map_of_mem hw)
        rw [Warning.index_raise] at this
        omega
      · rw [hseam, List.append_assoc]

/-- A template with one default, and one with two and an entry without `#`. -/
theorem three_defaults_compose :
    let a := "#x|1#one".toList
    let b := "two|#y|#z".toList
    (∃ before after, lint b .standard = before ++ after ∧ (∀ w ∈ before, w.index < 1) ∧
      (∀ w ∈ after, 1 < w.index) ∧
      lint (a ++ '|' :: b) .standard =
        lint a .standard ++ before.map (Warning.raise 2) ++
          .shadowedDefault 3 0 :: after.map (Warning.raise 2)) ∧
    lint b .standard = [.missingSeparator 0 "two".toList, .shadowedDefault 2 1] ∧
    parseStrict (a ++ '|' :: b) = .error (.missingSeparator 2 "two".toList) := by
  obtain ⟨-, -, -, hstrict, hseam⟩ :=
    joined_templates_compose "#x|1#one".toList "two|#y|#z".toList .standard
  exact ⟨hseam, rfl, hstrict⟩

end Choices

end ChoiceTemplate

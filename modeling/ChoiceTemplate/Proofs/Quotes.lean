import ChoiceTemplate.Lint
import ChoiceTemplate.Pattern.Basic
import ChoiceTemplate.Proofs.Concatenation

/-
  Double quotes in a template.

  Quotes are taken out of each piece after the template has been cut, and before a final comma is
  taken off. Whether a piece is empty is asked twice, with the quotes and without, and the second time
  decides (`cleanAll_eq`). A quote is not what is cut at, so it could as well have been taken out
  first: the pieces are those of the text without quotes, but for the quotes in them
  (`pieces_unquoted`). So a template has the entries that it has without its quotes
  (`entries_unquoted`), and all that is read from entries agrees.

  One question is asked of the template itself: whether it is empty. A template that consists of quotes
  is not, but has no entries. A reference then chooses the empty text and not nothing, which is filled
  with values in the same way (`quotes_carry_nothing`).
-/
namespace ChoiceTemplate

namespace Text

/-- A text without its double quotes. -/
def unquoted (t : Text) : Text := t.filter (· ≠ '"')

section
variable {c d : Char} (t : Text)

/-! ## Cutting -/

theorem unquoted_cons_of_ne (h : c ≠ '"') : unquoted (c :: t) = c :: unquoted t :=
  List.filter_cons_of_pos (decide_eq_true h)

theorem unquoted_cons_quote : unquoted ('"' :: t) = unquoted t :=
  List.filter_cons_of_neg (by simp)

theorem unquoted_unquoted : unquoted (unquoted t) = unquoted t := by
  rw [unquoted, unquoted, List.filter_filter]
  simp only [Bool.and_self]

/-- A character that is put in front of the first piece stays there unless it is a quote. -/
theorem map_unquoted_consFirst {ps : List Text} (hne : ps ≠ []) :
    (consFirst c ps).map unquoted =
      if c = '"' then ps.map unquoted else consFirst c (ps.map unquoted) := by
  obtain ⟨p, ps, rfl⟩ := List.exists_cons_of_ne_nil hne
  by_cases h : c = '"'
  · rw [if_pos h, h, consFirst, List.map_cons, List.map_cons, unquoted_cons_quote]
  · rw [if_neg h, consFirst, List.map_cons, List.map_cons, unquoted_cons_of_ne p h, consFirst]

theorem pieces_unquoted (hd : d ≠ '"') :
    pieces [d] (unquoted t) = (pieces [d] t).map unquoted := by
  induction t with
  | nil => rfl
  | cons c t ih =>
    by_cases hc : c = d
    · rw [hc, unquoted_cons_of_ne t hd, pieces_cons_self, pieces_cons_self, ih]
      rfl
    · rw [pieces_cons_of_ne hc, map_unquoted_consFirst (pieces_ne_nil d t)]
      by_cases hquote : c = '"'
      · rw [if_pos hquote, hquote, unquoted_cons_quote, ih]
      · rw [if_neg hquote, unquoted_cons_of_ne t hquote, pieces_cons_of_ne hc, ih]

/-! ## Cleaning -/

theorem clean_unquoted : clean (unquoted t) = clean t :=
  congrArg dropFinalComma (unquoted_unquoted t)

/-- A piece that is empty from the start is one of those that cleaning leaves empty. -/
theorem cleanAll_eq (ps : List Text) : cleanAll ps = (ps.map clean).filter (· ≠ []) := by
  induction ps with
  | nil => rfl
  | cons p ps ih =>
    by_cases hp : p = []
    · subst hp
      exact ih
    · have hkeep : (p :: ps).filter (· ≠ []) = p :: ps.filter (· ≠ []) :=
        List.filter_cons_of_pos (by simpa using hp)
      rw [cleanAll] at ih ⊢
      rw [hkeep, List.map_cons, List.map_cons, List.filter_cons, List.filter_cons, ih]

theorem split_unquoted (hd : d ≠ '"') : split (unquoted t) [d] = split t [d] := by
  have hclean : clean ∘ unquoted = clean := funext clean_unquoted
  rw [split_eq_cleanAll, split_eq_cleanAll, pieces_unquoted t hd, cleanAll_eq, cleanAll_eq,
    List.map_map, hclean]

end

end Text

namespace Choices

theorem entries_unquoted (t : Text) : entries (Text.unquoted t) = entries t :=
  Text.split_unquoted t (by decide)

/-- Without quotes nothing is left of the template, so it has no entries. -/
theorem parse_of_unquoted_eq_nil {t : Text} (h : Text.unquoted t = []) : parse t = parse [] := by
  rw [parse, ← entries_unquoted, h, parse]

end Choices

namespace Message

/-- A template that consists of quotes has an empty text to choose. -/
theorem choice_of_unquoted_eq_nil [PatternEngine] {t : Text} (h : Text.unquoted t = []) (hne : t ≠ [])
    (options : MatchOptions) (r : Reference) :
    (ofText t options).choice? r = some (ofText [] options) := by
  rw [choice_ofText, plainChoice, if_neg hne, Choices.parse_of_unquoted_eq_nil h,
    Choices.resolve_parse_nil]

theorem choice_nil [PatternEngine] (options : MatchOptions) (r : Reference) :
    (ofText [] options).choice? r = none := rfl

end Message

/-- **Quotes carry nothing.** Two templates that are equal without their double quotes have the same
entries, are read as the same choices, leniently and strictly, or are refused for the same reason, and
have the same warnings under all options. Every reference chooses the same text from both, filled with
any values. As a message, too, it chooses the same, unless just one of the templates is empty: from
this one it chooses nothing, and from the other one, which consists of quotes, the empty text. -/
theorem quotes_carry_nothing [PatternEngine] {t₁ t₂ : Text} (h : Text.unquoted t₁ = Text.unquoted t₂)
    (options : MatchOptions) :
    Choices.entries t₁ = Choices.entries t₂ ∧
    Choices.parse t₁ = Choices.parse t₂ ∧
    Choices.parseStrict t₁ = Choices.parseStrict t₂ ∧
    lint t₁ options = lint t₂ options ∧
    ∀ r : Reference,
      let m₁ := Message.ofText t₁ options
      let m₂ := Message.ofText t₂ options
      (∀ values, m₁.formatChoice r values = m₂.formatChoice r values) ∧
      ((t₁ = [] ↔ t₂ = []) → m₁.choice? r = m₂.choice? r) ∧
      (t₁ = [] → t₂ ≠ [] → m₁.choice? r = none ∧ m₂.choice? r = some (Message.ofText [] options)) ∧
      (t₁ ≠ [] → t₂ = [] → m₁.choice? r = some (Message.ofText [] options) ∧ m₂.choice? r = none) := by
  have hentries : Choices.entries t₁ = Choices.entries t₂ := by
    rw [← Choices.entries_unquoted t₁, h, Choices.entries_unquoted]
  have hparse : Choices.parse t₁ = Choices.parse t₂ := by
    rw [Choices.parse, Choices.parse, hentries]
  refine ⟨hentries, hparse, ?_, ?_, ?_⟩
  · rw [Choices.parseStrict, Choices.parseStrict, hentries]
  · rw [lint, lint, hentries]
  · intro r m₁ m₂
    refine ⟨?_, ?_, ?_, ?_⟩
    · intro values
      rw [Message.formatChoice_ofText, Message.formatChoice_ofText, hparse]
    · intro hboth
      rw [Message.choice_ofText, Message.choice_ofText, Message.plainChoice, Message.plainChoice,
        hparse]
      simp only [hboth]
    · intro hnil hne
      subst hnil
      exact ⟨Message.choice_nil options r, Message.choice_of_unquoted_eq_nil h.symm hne options r⟩
    · intro hne hnil
      subst hnil
      exact ⟨Message.choice_of_unquoted_eq_nil h hne options r, Message.choice_nil options r⟩

/-- Quotes beside a comma, a `#` and a `|`, in a piece of their own, and in a text. -/
def quotedTemplate : Text := "\"1\"#o\"ne,\"|\",\"|\"\"|\"#d\",,".toList

/-- The same without quotes. -/
def bareTemplate : Text := "1#one,|,||#d,,".toList

theorem quotedTemplate_reads_as_bare :
    (Text.unquoted quotedTemplate = Text.unquoted bareTemplate ∧
      Choices.entries quotedTemplate = ["1#one".toList, "#d,".toList] ∧
      Choices.entries bareTemplate = ["1#one".toList, "#d,".toList] ∧
      lint quotedTemplate .standard = lint bareTemplate .standard) ∧
    Text.unquoted ['"', '"'] = Text.unquoted [] ∧
    ∀ r : Reference, (Message.ofText [] .standard).choice? r = none ∧
      (Message.ofText ['"', '"'] .standard).choice? r = some (Message.ofText [] .standard) := by
  have hbare : Text.unquoted quotedTemplate = Text.unquoted bareTemplate := by decide
  have hempty : Text.unquoted ['"', '"'] = Text.unquoted [] := by decide
  obtain ⟨hentries, -, -, hlint, -⟩ := quotes_carry_nothing hbare .standard
  have hquoted : Choices.entries quotedTemplate = ["1#one".toList, "#d,".toList] := by decide
  refine ⟨⟨hbare, hquoted, hentries ▸ hquoted, hlint⟩, hempty, ?_⟩
  intro r
  obtain ⟨-, -, -, -, hchoice⟩ := quotes_carry_nothing hempty.symm .standard
  exact (hchoice r).2.2.1 rfl (by decide)

end ChoiceTemplate

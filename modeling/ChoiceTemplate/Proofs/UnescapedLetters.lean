import ChoiceTemplate.Lint
import Mathlib.Algebra.Ring.Parity
import Mathlib.Data.List.Induction

/-
  Which upper-case letters of a selector are seen.

  The scan for upper-case letters reads a selector once and keeps one flag, whether the character that
  comes next is escaped. This file

    1. says what one character does to the flag (`nextEscaped`) and to the answer
       (`hasUppercaseFrom_cons`), so that the letters that are seen are those before which the flag is
       not set (`hasUppercaseFrom_iff`);
    2. shows that the flag alternates along a run of backslashes and that any other character clears
       it, so that after a text it is set exactly when an odd number of backslashes ends the text
       (`escaped_after_run_iff`);
    3. concludes that a letter is seen exactly when the run of backslashes before it is even
       (`upper_seen_iff_even_run`).

  A selector that has `(?i` anywhere, be it behind a backslash, is not scanned at all. What that means
  for the answer needs only that `contains` finds what occurs in one piece (`contains_iff`).
-/
namespace ChoiceTemplate

/-! ## Occurrences of a text -/

namespace Text

variable {s t : Text}

theorem isSome_afterStart?_iff : (afterStart? s t).isSome = true ↔ s <+: t := by
  rw [Option.isSome_iff_exists]
  constructor
  · rintro ⟨rest, h⟩
    exact ⟨rest, (afterStart?_eq_some.mp h).symm⟩
  · rintro ⟨rest, h⟩
    exact ⟨rest, afterStart?_eq_some.mpr h.symm⟩

/-- A text can be cut at another one exactly when it has it in one piece. -/
theorem isSome_splitAt?_iff : (splitAt? s t).isSome = true ↔ s <:+: t := by
  induction t with
  | nil =>
    rw [splitAt?, List.infix_nil]
    by_cases hs : s = [] <;> simp [hs]
  | cons c t ih =>
    rw [splitAt?, List.infix_cons_iff, ← ih, ← isSome_afterStart?_iff]
    cases afterStart? s (c :: t) with
    | none => simp
    | some rest => simp

end Text

namespace Lint

theorem contains_iff {part t : Text} : contains part t = true ↔ part <:+: t :=
  Text.isSome_splitAt?_iff

/-! ## The flag -/

/-- Whether what comes after a character is escaped: a backslash does that, unless it is escaped
itself. -/
def nextEscaped (escaped : Bool) (c : Char) : Bool := !escaped && c == '\\'

section
variable {before : Text}

theorem hasUppercaseFrom_cons (escaped : Bool) (c : Char) (t : Text) :
    hasUppercaseFrom escaped (c :: t) =
      (!escaped && c.isUpper || hasUppercaseFrom (nextEscaped escaped c) t) := by
  cases escaped with
  | true => rfl
  | false =>
    by_cases hc : c = '\\'
    · subst hc
      rfl
    · have hflag : nextEscaped false c = false := by simp [nextEscaped, hc]
      simp [hasUppercaseFrom, hc, hflag]

/-- The upper-case letters that are seen are those before which the flag is not set. -/
theorem hasUppercaseFrom_iff (escaped : Bool) (t : Text) :
    hasUppercaseFrom escaped t = true ↔
      ∃ before letter after, t = before ++ letter :: after ∧ letter.isUpper = true ∧
        before.foldl nextEscaped escaped = false := by
  induction t generalizing escaped with
  | nil => simp [hasUppercaseFrom]
  | cons c t ih =>
    rw [hasUppercaseFrom_cons, Bool.or_eq_true, Bool.and_eq_true, Bool.not_eq_true', ih]
    constructor
    · rintro (⟨hflag, hupper⟩ | ⟨before, letter, after, rfl, hupper, hflag⟩)
      · exact ⟨[], c, t, rfl, hupper, hflag⟩
      · exact ⟨c :: before, letter, after, rfl, hupper, hflag⟩
    · rintro ⟨before, letter, after, heq, hupper, hflag⟩
      cases before with
      | nil =>
        obtain ⟨rfl, rfl⟩ := List.cons.inj heq
        exact Or.inl ⟨hflag, hupper⟩
      | cons d before =>
        obtain ⟨rfl, rfl⟩ := List.cons.inj heq
        exact Or.inr ⟨before, letter, after, rfl, hupper, hflag⟩

/-! ## Runs of backslashes -/

/-- The backslashes that end a text, all of them. -/
theorem exists_final_run (t : Text) :
    ∃ before run, t = before ++ List.replicate run '\\' ∧ before.getLast? ≠ some '\\' := by
  induction t using List.reverseRecOn with
  | nil => exact ⟨[], 0, rfl, by simp⟩
  | append_singleton t c ih =>
    by_cases hc : c = '\\'
    · obtain ⟨before, run, rfl, hends⟩ := ih
      refine ⟨before, run + 1, ?_, hends⟩
      rw [hc, List.replicate_succ', List.append_assoc]
    · exact ⟨t ++ [c], 0, (List.append_nil _).symm, by simpa using hc⟩

theorem not_escaped_of_not_ends (hends : before.getLast? ≠ some '\\') :
    before.foldl nextEscaped false = false := by
  rcases List.eq_nil_or_concat before with rfl | ⟨t, c, rfl⟩
  · rfl
  · have hc : c ≠ '\\' := by simpa using hends
    simp [nextEscaped, hc]

/-- The flag alternates along a run of backslashes: it is set after those of odd length. -/
theorem escaped_after_run_iff (hends : before.getLast? ≠ some '\\') (run : Nat) :
    (before ++ List.replicate run '\\').foldl nextEscaped false = true ↔ Odd run := by
  induction run with
  | zero => simp [not_escaped_of_not_ends hends]
  | succ run ih =>
    rw [List.replicate_succ', ← List.append_assoc, List.foldl_append, Nat.odd_add_one, ← ih]
    simp [nextEscaped]

end

/-- **A letter is seen exactly when the run of backslashes before it is even.** The scan finds an
upper-case letter if and only if the selector has no `(?i` in it and has, somewhere, an upper-case ASCII
letter right after an even number of backslashes that no further backslash stands before. No backslash
at all is an even number of them. -/
theorem upper_seen_iff_even_run (selector : Text) :
    hasUppercaseLiteral selector = true ↔
      ¬"(?i".toList <:+: selector ∧
      ∃ before run letter after,
        selector = before ++ List.replicate run '\\' ++ letter :: after ∧
        before.getLast? ≠ some '\\' ∧ Even run ∧ letter.isUpper = true := by
  rw [hasUppercaseLiteral, Bool.and_eq_true, Bool.not_eq_true', ← Bool.not_eq_true, contains_iff,
    hasUppercaseFrom_iff]
  apply and_congr Iff.rfl
  constructor
  · rintro ⟨text, letter, after, rfl, hupper, hflag⟩
    obtain ⟨before, run, rfl, hends⟩ := exists_final_run text
    have hodd : ¬Odd run := by
      rw [← escaped_after_run_iff hends, hflag]
      exact Bool.false_ne_true
    exact ⟨before, run, letter, after, rfl, hends, Nat.not_odd_iff_even.mp hodd, hupper⟩
  · rintro ⟨before, run, letter, after, rfl, hends, heven, hupper⟩
    refine ⟨_, letter, after, rfl, hupper, ?_⟩
    rw [← Bool.not_eq_true, escaped_after_run_iff hends]
    exact Nat.not_odd_iff_even.mpr heven

/-- Two backslashes are one that is escaped, and a third one escapes the letter. -/
example : hasUppercaseLiteral ['\\', '\\', 'A'] = true ∧
    hasUppercaseLiteral ['\\', '\\', '\\', 'A'] = false := by
  decide

end Lint

end ChoiceTemplate

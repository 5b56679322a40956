import ChoiceTemplate.Proofs.Splitting
import ChoiceTemplate.Text.Lines
import Mathlib

/-
  The lines of a text, one after another.

  A text without a line feed is its own line, unless it is empty (`lines_of_not_mem`), and a text up
  to its first line feed is the first line of it (`lines_append_feed`). Every text is of one of these
  two forms, so what holds of lines is shown by `lineInduction`. A carriage return before the line
  feed is no part of the line; `returnEndings` counts the lines that end so.

  A text that a line feed ends consists of whole lines (`Ended`): as many as it has line feeds
  (`length_lines_of_ended`), and the same whatever follows (`lines_append`).
-/
namespace ChoiceTemplate.Text

/-! ## Endings -/

/-- The number of line feeds that come right after a carriage return. -/
def returnEndings : Text → Nat
  | [] => 0
  | [_] => 0
  | c :: d :: t => (if c = '\r' ∧ d = '\n' then 1 else 0) + returnEndings (d :: t)

/-- One for a carriage return at the end. -/
def finalReturn (t : Text) : Nat := if t.getLast? = some '\r' then 1 else 0

section
variable {l t : Text}

theorem dropFinalReturn_concat (u : Text) : dropFinalReturn (u ++ ['\r']) = u := by
  induction u with
  | nil => rfl
  | cons c u ih =>
    cases u with
    | nil => rfl
    | cons d u => rw [List.cons_append, List.cons_append, dropFinalReturn, ← List.cons_append, ih]

theorem dropFinalReturn_of_ne (h : l.getLast? ≠ some '\r') : dropFinalReturn l = l := by
  induction l with
  | nil => rfl
  | cons c l ih =>
    cases l with
    | nil =>
      have hc : c ≠ '\r' := fun e => h (e ▸ rfl)
      rw [dropFinalReturn, if_neg hc]
    | cons d l => rw [dropFinalReturn, ih (by rwa [List.getLast?_cons_cons] at h)]

/-- What a line loses is the carriage return at its end. -/
theorem dropFinalReturn_append (l : Text) :
    ∃ ending, l = dropFinalReturn l ++ ending ∧ byteLength ending = finalReturn l := by
  by_cases h : l.getLast? = some '\r'
  · obtain ⟨u, rfl⟩ := List.getLast?_eq_some_iff.mp h
    refine ⟨['\r'], ?_, ?_⟩
    · rw [dropFinalReturn_concat]
    · rw [finalReturn, if_pos h]
      rfl
  · refine ⟨[], ?_, ?_⟩
    · rw [dropFinalReturn_of_ne h, List.append_nil]
    · rw [finalReturn, if_neg h]
      rfl

theorem returnEndings_append_feed (h : '\n' ∉ l) (t : Text) :
    returnEndings (l ++ '\n' :: t) = finalReturn l + returnEndings t := by
  have hfeed : returnEndings ('\n' :: t) = returnEndings t := by
    cases t with
    | nil => rfl
    | cons d t => simp [returnEndings]
  induction l with
  | nil => simpa [finalReturn] using hfeed
  | cons c l ih =>
    cases l with
    | nil =>
      rw [List.cons_append, List.nil_append, returnEndings, hfeed, finalReturn]
      simp
    | cons d l =>
      have hd : d ≠ '\n' := by
        rintro rfl
        exact h (List.mem_cons_of_mem c List.mem_cons_self)
      have hrest := ih fun hmem => h (List.mem_cons_of_mem c hmem)
      rw [List.cons_append, List.cons_append, returnEndings, if_neg fun hcd => hd hcd.2, Nat.zero_add,
        ← List.cons_append, hrest, finalReturn, finalReturn, List.getLast?_cons_cons]

/-! ## Lines -/

theorem linesFrom_append (h : '\n' ∉ l) (line t : Text) :
    linesFrom line (l ++ t) = linesFrom (l.reverse ++ line) t := by
  induction l generalizing line with
  | nil => rfl
  | cons c l ih =>
    have hc : c ≠ '\n' := (List.ne_of_not_mem_cons h).symm
    have hl : '\n' ∉ l := List.not_mem_of_not_mem_cons h
    rw [List.cons_append, linesFrom, if_neg hc, ih hl, List.reverse_cons, List.append_assoc]
    rfl

theorem lines_of_not_mem (h : '\n' ∉ t) (hne : t ≠ []) : lines t = [t] := by
  have hread := linesFrom_append h [] []
  rw [List.append_nil, List.append_nil] at hread
  rw [lines, hread, linesFrom, if_neg (by simpa using hne), List.reverse_reverse]

theorem lines_append_feed (h : '\n' ∉ l) (t : Text) :
    lines (l ++ '\n' :: t) = dropFinalReturn l :: lines t := by
  rw [lines, linesFrom_append h, linesFrom, if_pos rfl, List.append_nil, List.reverse_reverse, lines]

/-- Every text is built by putting lines in front of one without a line feed. -/
@[elab_as_elim]
theorem lineInduction {motive : Text → Prop} (last : ∀ t, '\n' ∉ t → motive t)
    (more : ∀ l t, '\n' ∉ l → motive t → motive (l ++ '\n' :: t)) (t : Text) : motive t := by
  induction hn : t.length using Nat.strongRecOn generalizing t with
  | ind n ih =>
    cases hcut : splitOnce '\n' t with
    | none => exact last t (splitOnce_eq_none.mp hcut)
    | some cut =>
      obtain ⟨l, rest⟩ := cut
      obtain ⟨rfl, hl⟩ := splitOnce_eq_some.mp hcut
      apply more l rest hl
      apply ih rest.length _ rest rfl
      rw [← hn, List.length_append, List.length_cons]
      omega

theorem not_mem_of_mem_lines {line : Text} (h : line ∈ lines t) : '\n' ∉ line := by
  induction t using lineInduction with
  | last t ht =>
    by_cases hne : t = []
    · subst hne
      exact absurd h List.not_mem_nil
    · rw [lines_of_not_mem ht hne, List.mem_singleton] at h
      exact h ▸ ht
  | more l t hl ih =>
    rw [lines_append_feed hl] at h
    rcases List.mem_cons.mp h with rfl | h
    · obtain ⟨ending, heq, -⟩ := dropFinalReturn_append l
      intro hmem
      apply hl
      rw [heq]
      exact List.mem_append_left ending hmem
    · exact ih h

/-! ## Whole lines -/

/-- A text of whole lines, each with its ending. -/
def Ended (t : Text) : Prop := t = [] ∨ t.getLast? = some '\n'

/-- A line with its ending, put in front, leaves a text as ended as it was. -/
theorem ended_append_feed (l t : Text) : Ended (l ++ '\n' :: t) ↔ Ended t := by
  unfold Ended
  cases t with
  | nil => simp
  | cons c t =>
    have hlast : (l ++ '\n' :: c :: t).getLast? = (c :: t).getLast? := by
      rw [List.getLast?_append_cons, List.getLast?_cons_cons]
    rw [hlast]
    simp

theorem eq_nil_of_ended (h : Ended t) (hfeed : '\n' ∉ t) : t = [] := by
  rcases h with h | h
  · exact h
  · exact absurd (List.mem_of_getLast? h) hfeed

/-- Whole lines are read by themselves, whatever follows. -/
theorem lines_append (h : Ended t) (u : Text) : lines (t ++ u) = lines t ++ lines u := by
  induction t using lineInduction with
  | last t ht =>
    rw [eq_nil_of_ended h ht]
    rfl
  | more l t hl ih =>
    rw [List.append_assoc, List.cons_append, lines_append_feed hl, lines_append_feed hl,
      ih ((ended_append_feed l t).mp h), List.cons_append]

theorem length_lines_of_ended (h : Ended t) : (lines t).length = t.count '\n' := by
  induction t using lineInduction with
  | last t ht =>
    rw [eq_nil_of_ended h ht]
    rfl
  | more l t hl ih =>
    rw [lines_append_feed hl, List.length_cons, ih ((ended_append_feed l t).mp h), List.count_append,
      List.count_eq_zero_of_not_mem hl, List.count_cons_self, Nat.zero_add]

end

end ChoiceTemplate.Text

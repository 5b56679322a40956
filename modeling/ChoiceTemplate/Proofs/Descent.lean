import ChoiceTemplate.Pattern.Basic
import ChoiceTemplate.Proofs.Concatenation
import ChoiceTemplate.Proofs.RoundTrip

/-
  Resolving what was chosen, again and again.

  A chosen text is a template in its own right. It is the end of an entry, after a `#`, or empty
  (`resolve_parse`). An entry has its characters from the template, in their order, so

    1. a chosen text has fewer bytes than the template, and fewer `#` unless it is empty, and
       cleaning has taken every `|` and `"` out of it (`chosenFrom_resolve`);
    2. without a `|` there is at most one entry to choose from (`size_parse_le_one`);
    3. a descent makes at most one more choice than there are `#` in the text that it starts from,
       whatever the references are (`exists_endsAt`).

  `descent_bottoms_out` states these for every message that a run can leave at hand.
-/
namespace ChoiceTemplate

/-- What a chosen text is beside the template that it is chosen from. -/
structure ChosenFrom (template chosen : Text) : Prop where
  bytes_lt : chosen.byteLength < template.byteLength
  no_bar : '|' ∉ chosen
  no_quote : '"' ∉ chosen
  hashes_lt : chosen ≠ [] → chosen.count '#' < template.count '#'

namespace Choices

section
variable {t : Text} {i : Choice}

/-! ## One choice -/

/-- A text that is not empty has stood in the template, after a `#`. -/
theorem hash_text_sublist (h : i ∈ (parse t).items) (hne : i.text ≠ []) :
    ('#' :: i.text).Sublist t := by
  rw [items_parse] at h
  obtain ⟨entry, hentry, rfl⟩ := List.mem_map.mp h
  rcases ofEntry_cases entry with ⟨-, he⟩ | ⟨-, he⟩
  · rw [he] at hne
    exact absurd rfl hne
  · have hsub : (ofEntry entry).entry.Sublist t := by
      rw [he]
      exact Text.sublist_of_mem_split hentry
    exact (List.sublist_append_right _ _).trans hsub

theorem chosenFrom_nil (h : t ≠ []) : ChosenFrom t [] := by
  refine ⟨?_, List.not_mem_nil, List.not_mem_nil, fun hne => absurd rfl hne⟩
  obtain ⟨c, rest, rfl⟩ := List.exists_cons_of_ne_nil h
  rw [Text.byteLength_nil, Text.byteLength_cons]
  exact Nat.add_pos_left (Char.utf8Size_pos c) _

theorem chosenFrom_text (h : i ∈ (parse t).items) (hne : i.text ≠ []) : ChosenFrom t i.text := by
  have hsub := hash_text_sublist h hne
  have hwritable : i.Writable := writable_of_mem_parse h
  refine ⟨?_, hwritable.bar_text, hwritable.quote_text, fun _ => ?_⟩
  · have hbytes := Text.byteLength_le_of_sublist hsub
    rw [Text.byteLength_cons] at hbytes
    have hhash := Char.utf8Size_pos '#'
    omega
  · have hcount := hsub.count_le '#'
    rwa [List.count_cons_self] at hcount

/-- Every reference selects the text of a pair, or else no text. -/
theorem resolve_parse [PatternEngine] (t : Text) (options : MatchOptions) (r : Reference) :
    (parse t).resolve options r = [] ∨
      ∃ i ∈ (parse t).items, (parse t).resolve options r = i.text := by
  rw [resolve_eq]
  cases haccepted : (parse t).accepted? options r with
  | some i => exact .inr ⟨i, List.mem_of_find?_eq_some haccepted, rfl⟩
  | none =>
    rw [defaultText_parse]
    cases hdefault : lastDefault? (parse t).items with
    | none => exact .inl rfl
    | some i =>
      have hi := List.mem_of_getLast? hdefault
      exact .inr ⟨i, (List.mem_filter.mp hi).1, rfl⟩

theorem chosenFrom_resolve [PatternEngine] (h : t ≠ []) (options : MatchOptions) (r : Reference) :
    ChosenFrom t ((parse t).resolve options r) := by
  rcases resolve_parse t options r with hnil | ⟨i, hi, htext⟩
  · rw [hnil]
    exact chosenFrom_nil h
  · rw [htext]
    by_cases hne : i.text = []
    · rw [hne]
      exact chosenFrom_nil h
    · exact chosenFrom_text hi hne

theorem size_parse_le_one (h : '|' ∉ t) : (parse t).size ≤ 1 := by
  rw [size_parse, entries, Text.split_eq_cleanAll, Text.pieces_of_not_mem h]
  exact Text.length_cleanAll_le [t]

end

end Choices

namespace Message

/-! ## One choice after another -/

/-- The message after a number of choices, each made from the message chosen before, unless one of
them chooses nothing. -/
def descend [PatternEngine] (m : Message) (references : Nat → Reference) : Nat → Option Message
  | 0 => some m
  | n + 1 =>
    (m.choice? (references 0)).bind fun chosen => chosen.descend (fun k => references (k + 1)) n

/-- Exactly `last` choices can be made. -/
def EndsAt [PatternEngine] (m : Message) (references : Nat → Reference) (last : Nat) : Prop :=
  ∀ n, (m.descend references n).isSome ↔ n ≤ last

section
variable [PatternEngine] {text : Text} {options : MatchOptions} {m chosen : Message}
  {references : Nat → Reference}

theorem choice_of_nil (h : m.text = []) (r : Reference) : m.choice? r = none := by
  rw [choice?, choiceKept_of_nil h]

theorem choice_of_ne_nil (h : Coherent text options m) (hne : text ≠ []) (r : Reference) :
    m.choice? r = some (ofText ((Choices.parse text).resolve options r) options) := by
  rw [choice?, choiceKept_answer h, plainChoice, if_neg hne]

theorem of_choice_eq_some (h : Coherent text options m) {r : Reference}
    (hchosen : m.choice? r = some chosen) :
    text ≠ [] ∧ chosen = ofText ((Choices.parse text).resolve options r) options := by
  rw [choice?, choiceKept_answer h, plainChoice] at hchosen
  split at hchosen
  · cases hchosen
  · next hne => exact ⟨hne, (Option.some.inj hchosen).symm⟩

theorem endsAt_zero (h : m.text = []) : m.EndsAt references 0 := by
  intro n
  cases n with
  | zero => simp [descend]
  | succ n => simp [descend, choice_of_nil h]

theorem endsAt_succ {last : Nat} (hm : m.choice? (references 0) = some chosen)
    (h : chosen.EndsAt (fun k => references (k + 1)) last) : m.EndsAt references (last + 1) := by
  intro n
  cases n with
  | zero => simp [descend]
  | succ n =>
    rw [descend, hm, Option.bind_some, h n, Nat.succ_le_succ_iff]

/-- By induction on the number of `#`: a choice leaves fewer of them, or an empty text. -/
theorem exists_endsAt (h : Coherent text options m) (references : Nat → Reference) :
    ∃ last ≤ text.count '#' + 1, m.EndsAt references last := by
  induction hcount : text.count '#' using Nat.strongRecOn generalizing text m references with
  | ind count ih =>
    by_cases hne : text = []
    · exact ⟨0, Nat.zero_le _, endsAt_zero (h.text_eq.trans hne)⟩
    · have hchoice := choice_of_ne_nil h hne (references 0)
      have hchosen := Choices.chosenFrom_resolve hne options (references 0)
      by_cases hnil : (Choices.parse text).resolve options (references 0) = []
      · exact ⟨1, Nat.le_add_left 1 count, endsAt_succ hchoice (endsAt_zero hnil)⟩
      · have hlt := hchosen.hashes_lt hnil
        rw [hcount] at hlt
        obtain ⟨last, hlast, hends⟩ :=
          ih _ hlt (coherent_ofText _ options) (fun k => references (k + 1)) rfl
        exact ⟨last + 1, by omega, endsAt_succ hchoice hends⟩

/-- A descent from a text without `|` comes upon no other text. -/
theorem no_bar_of_descend {n : Nat} (h : Coherent text options m) (hbar : '|' ∉ text)
    (hdescend : m.descend references n = some chosen) : '|' ∉ chosen.text := by
  induction n generalizing text m references with
  | zero =>
    rw [descend, Option.some.injEq] at hdescend
    rw [← hdescend, h.text_eq]
    exact hbar
  | succ n ih =>
    obtain ⟨next, hnext, hrest⟩ := Option.bind_eq_some_iff.mp hdescend
    obtain ⟨hne, rfl⟩ := of_choice_eq_some h hnext
    exact ih (coherent_ofText _ options) (Choices.chosenFrom_resolve hne options _).no_bar hrest

theorem size_le_one_of_descend {n : Nat} (h : Coherent text options m)
    (hdescend : m.descend references (n + 1) = some chosen) :
    (Choices.parse chosen.text).size ≤ 1 := by
  obtain ⟨next, hnext, hrest⟩ := Option.bind_eq_some_iff.mp hdescend
  obtain ⟨hne, rfl⟩ := of_choice_eq_some h hnext
  have hbar := (Choices.chosenFrom_resolve hne options (references 0)).no_bar
  exact Choices.size_parse_le_one (no_bar_of_descend (coherent_ofText _ options) hbar hrest)

/-- **A descent always bottoms out.** Take any message that a run leaves at hand. If its text is
empty, nothing can be chosen. Otherwise every reference chooses a message with the same options,
whose text has fewer bytes, neither `|` nor `"` and, unless it is empty, fewer `#`. So whatever the
references are, exactly some number of choices can be made one after another, at most one more than
there are `#` in the text, and then none any more; and from the first choice on there is at most one
entry left to choose from. -/
theorem descent_bottoms_out {pool : List Message} {asked : List (Operation × Answer)}
    (h : Run text options pool asked) (m : Message) (hm : m ∈ pool) :
    (m.text = [] → ∀ r, m.choice? r = none) ∧
    (m.text ≠ [] → ∀ r, ∃ chosen, m.choice? r = some chosen ∧ chosen.options = m.options ∧
      ChosenFrom m.text chosen.text) ∧
    ∀ references : Nat → Reference,
      (∃ last ≤ m.text.count '#' + 1, m.EndsAt references last) ∧
      ∀ n chosen, m.descend references (n + 1) = some chosen →
        (Choices.parse chosen.text).size ≤ 1 := by
  have hc := run_coherent h m hm
  refine ⟨choice_of_nil, ?_, ?_⟩
  · intro hne r
    rw [hc.text_eq] at hne ⊢
    exact ⟨_, choice_of_ne_nil hc hne r, hc.options_eq.symm,
      Choices.chosenFrom_resolve hne options r⟩
  · intro references
    refine ⟨?_, fun n chosen => size_le_one_of_descend hc⟩
    rw [hc.text_eq]
    exact exists_endsAt hc references

end

/-- Three `#`, each of them at the beginning of what a choice is made from. -/
def deepTemplate : Text := "yes##1#one|no".toList

theorem deepTemplate_bottoms_out : ∃ pool asked, Run deepTemplate .standard pool asked ∧
    asked.length = 1 ∧
    (∀ m ∈ pool, ∀ references, ∃ last ≤ 4, m.EndsAt references last) ∧
    (ofText deepTemplate .standard).descend (fun _ => .boolean true) 4 =
      some (ofText [] .standard) := by
  have h : Run deepTemplate .standard _ _ := .step [] [] _ (.choice (.boolean true)) .start
  refine ⟨_, _, h, rfl, ?_, rfl⟩
  intro m hm references
  have htext : m.text = deepTemplate := (run_coherent h m hm).text_eq
  have hends := ((descent_bottoms_out h m hm).2.2 references).1
  rw [htext] at hends
  exact hends

end Message

end ChoiceTemplate

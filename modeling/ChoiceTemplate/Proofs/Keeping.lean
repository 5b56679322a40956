import ChoiceTemplate.Pattern.Basic
import ChoiceTemplate.Proofs.Resolution

/-
  What a message keeps never shows.

  A message parses its choices and compiles its patterns when they are first asked for. This file

    1. says what may be kept (`Coherent`): the choices of the text, and the patterns of these
       choices under the options, the latter never without the former;
    2. gives each operation the same two facts: from a coherent message it answers what the text
       and the options alone say (`Operation.plain`), and leaves a coherent message
       (`perform_answer`, `perform_coherent`). Only a text reference has patterns compiled
       (`keptPatterns_selectKept`);
    3. lets operations follow one another on a message and on the copies made of it (`Run`), and
       concludes that in every run each operation answers as it would on a fresh message
       (`kept_never_shows`).
-/
namespace ChoiceTemplate.Message

/-- What can be asked of a message. -/
inductive Operation where
  | choices
  | reparse
  | choice (reference : Reference)
  | formatChoice (reference : Reference) (values : Values)
  | format (values : Values)
  | lint
  | clone

section
variable [PatternEngine]

/-- What a message with a given text and given options may keep. -/
structure Coherent (text : Text) (options : MatchOptions) (m : Message) : Prop where
  text_eq : m.text = text
  options_eq : m.options = options
  choices_eq : ∀ c, m.keptChoices = some c → c = Choices.parse text
  patterns_eq : ∀ s, m.keptPatterns = some s →
    s = PatternSet.compile (Choices.parse text) options ∧
      m.keptChoices = some (Choices.parse text)

theorem coherent_of_none {text : Text} {options : MatchOptions} {m : Message}
    (ht : m.text = text) (ho : m.options = options) (hc : m.keptChoices = none)
    (hs : m.keptPatterns = none) : Coherent text options m := by
  refine ⟨ht, ho, ?_, ?_⟩
  · intro c h
    rw [hc] at h
    cases h
  · intro s h
    rw [hs] at h
    cases h

theorem coherent_ofText (text : Text) (options : MatchOptions) :
    Coherent text options (ofText text options) :=
  coherent_of_none rfl rfl rfl rfl

/-! ## One operation after another -/

/-- What is answered. A copy is seen as its text and its options. -/
inductive Answer where
  | choices (value : Choices)
  | chosen (value : Option Message)
  | filled (value : Text)
  | warnings (value : List Warning)
  | copy (text : Text) (options : MatchOptions)

/-- The answer to an operation, and the message with what it keeps now. -/
def perform (m : Message) : Operation → Answer × Message
  | .choices => (.choices m.choicesKept.1, m.choicesKept.2)
  | .reparse => (.choices m.reparse.1, m.reparse.2)
  | .choice r => (.chosen (m.choiceKept r).1, (m.choiceKept r).2)
  | .formatChoice r values =>
    (.filled (m.formatChoiceKept r values).1, (m.formatChoiceKept r values).2)
  | .format values => (.filled (m.format values), m)
  | .lint => (.warnings m.lint, m)
  | .clone => (.copy m.text m.options, m)

/-- The copies that an operation leaves beside a message. A copy keeps what the message keeps. -/
def Operation.copies : Operation → Message → List Message
  | .clone, m => [m]
  | _, _ => []

/-- The messages at hand after a run from a fresh message, and each operation of the run with its
answer. Every operation is performed on one of the messages at hand. -/
inductive Run (text : Text) (options : MatchOptions) :
    List Message → List (Operation × Answer) → Prop
  | start : Run text options [ofText text options] []
  | step {asked : List (Operation × Answer)} (before after : List Message) (m : Message)
      (operation : Operation) : Run text options (before ++ m :: after) asked →
      Run text options
        (before ++ (m.perform operation).2 :: after ++ operation.copies (m.perform operation).2)
        (asked ++ [(operation, (m.perform operation).1)])

/-! ## The answers without anything kept -/

/-- The message that a reference chooses. -/
def plainChoice (text : Text) (options : MatchOptions) (r : Reference) : Option Message :=
  if text = [] then none else some (ofText ((Choices.parse text).resolve options r) options)

/-- The chosen text with values filled in. -/
def plainFormat (values : Values) : Option Message → Text
  | none => []
  | some chosen => if values.isEmpty then chosen.text else fill chosen.text values

/-- What an operation answers, by the text and the options alone. -/
def Operation.plain (text : Text) (options : MatchOptions) : Operation → Answer
  | .choices => .choices (Choices.parse text)
  | .reparse => .choices (Choices.parse text)
  | .choice r => .chosen (plainChoice text options r)
  | .formatChoice r values => .filled (plainFormat values (plainChoice text options r))
  | .format values => .filled (fill text values)
  | .lint => .warnings (ChoiceTemplate.lint text options)
  | .clone => .copy text options

/-! ## Each operation -/

section
variable {text : Text} {options : MatchOptions} {m : Message}

theorem keepChoices_coherent (h : Coherent text options m) :
    Coherent text options { m with keptChoices := some (Choices.parse text) } := by
  refine ⟨h.text_eq, h.options_eq, ?_, ?_⟩
  · intro c hc
    exact (Option.some.inj hc).symm
  · intro s hs
    exact ⟨(h.patterns_eq s hs).1, rfl⟩

theorem keepPatterns_coherent (h : Coherent text options m) :
    Coherent text options { m with
      keptChoices := some (Choices.parse text)
      keptPatterns := some (PatternSet.compile (Choices.parse text) options) } := by
  refine ⟨h.text_eq, h.options_eq, ?_, ?_⟩
  · intro c hc
    exact (Option.some.inj hc).symm
  · intro s hs
    exact ⟨(Option.some.inj hs).symm, rfl⟩

theorem forget_coherent (h : Coherent text options m) :
    Coherent text options { m with keptChoices := none, keptPatterns := none } :=
  coherent_of_none h.text_eq h.options_eq rfl rfl

/-- Whether the choices were kept before makes no difference. -/
theorem choicesKept_eq (h : Coherent text options m) :
    m.choicesKept =
      (Choices.parse text, { m with keptChoices := some (Choices.parse text) }) := by
  rw [choicesKept]
  cases hc : m.keptChoices with
  | none =>
    show (Choices.parse m.text, { m with keptChoices := some (Choices.parse m.text) }) = _
    rw [h.text_eq]
  | some c =>
    have hparse := h.choices_eq c hc
    show (c, m) = _
    rw [← hparse, ← hc]

/-- Nor whether the patterns were: if so, the choices were kept with them. -/
theorem patternsKept_eq (h : Coherent text options m) :
    m.patternsKept =
      (PatternSet.compile (Choices.parse text) options,
        { m with
          keptChoices := some (Choices.parse text)
          keptPatterns := some (PatternSet.compile (Choices.parse text) options) }) := by
  rw [patternsKept, choicesKept_eq h]
  cases hs : m.keptPatterns with
  | none =>
    show (PatternSet.compile (Choices.parse text) m.options,
      { m with
        keptChoices := some (Choices.parse text)
        keptPatterns := some (PatternSet.compile (Choices.parse text) m.options) }) = _
    rw [h.options_eq]
  | some s =>
    obtain ⟨hcompile, hc⟩ := h.patterns_eq s hs
    show (s, m) = _
    rw [← hcompile, ← hs, ← hc]

theorem selectKept_answer (h : Coherent text options m) (r : Reference) :
    (m.selectKept r).1 = (Choices.parse text).resolve options r := by
  rw [selectKept, choicesKept_eq h]
  cases r with
  | boolean value => rfl
  | number value => rfl
  | text value =>
    -- The patterns are asked of the message that keeps the choices by now.
    simp only [patternsKept_eq (keepChoices_coherent h)]
    rfl

theorem selectKept_coherent (h : Coherent text options m) (r : Reference) :
    Coherent text options (m.selectKept r).2 := by
  have hc := keepChoices_coherent h
  rw [selectKept, choicesKept_eq h]
  cases r with
  | boolean value => exact hc
  | number value => exact hc
  | text value =>
    simp only [patternsKept_eq hc]
    exact keepPatterns_coherent h

/-- Booleans and numbers are resolved without patterns. -/
theorem keptPatterns_selectKept (h : Coherent text options m) {r : Reference}
    (hr : ∀ value, r ≠ .text value) : (m.selectKept r).2.keptPatterns = m.keptPatterns := by
  rw [selectKept, choicesKept_eq h]
  cases r with
  | boolean value => rfl
  | number value => rfl
  | text value => exact absurd rfl (hr value)

theorem choiceKept_of_nil (h : m.text = []) (r : Reference) : m.choiceKept r = (none, m) := by
  rw [choiceKept, if_pos h]

theorem choiceKept_of_ne_nil (h : m.text ≠ []) (r : Reference) :
    m.choiceKept r = (some (ofText (m.selectKept r).1 m.options), (m.selectKept r).2) := by
  rw [choiceKept, if_neg h]

theorem choiceKept_answer (h : Coherent text options m) (r : Reference) :
    (m.choiceKept r).1 = plainChoice text options r := by
  rw [plainChoice, ← h.text_eq]
  by_cases ht : m.text = []
  · rw [choiceKept_of_nil ht, if_pos ht]
  · rw [choiceKept_of_ne_nil ht, if_neg ht, selectKept_answer h, h.options_eq, h.text_eq]

theorem choiceKept_coherent (h : Coherent text options m) (r : Reference) :
    Coherent text options (m.choiceKept r).2 := by
  by_cases ht : m.text = []
  · rw [choiceKept_of_nil ht]
    exact h
  · rw [choiceKept_of_ne_nil ht]
    exact selectKept_coherent h r

theorem keptPatterns_choiceKept (h : Coherent text options m) {r : Reference}
    (hr : ∀ value, r ≠ .text value) : (m.choiceKept r).2.keptPatterns = m.keptPatterns := by
  by_cases ht : m.text = []
  · rw [choiceKept_of_nil ht]
  · rw [choiceKept_of_ne_nil ht]
    exact keptPatterns_selectKept h hr

theorem formatChoiceKept_eq (m : Message) (r : Reference) (values : Values) :
    m.formatChoiceKept r values =
      (plainFormat values (m.choiceKept r).1, (m.choiceKept r).2) := by
  rw [formatChoiceKept]
  cases hm : m.choiceKept r with
  | mk chosen kept => cases chosen <;> rfl

theorem perform_answer (h : Coherent text options m) (operation : Operation) :
    (m.perform operation).1 = operation.plain text options := by
  cases operation with
  | choices => rw [perform, choicesKept_eq h, Operation.plain]
  | reparse => rw [perform, reparse, choicesKept_eq (forget_coherent h), Operation.plain]
  | choice r => rw [perform, choiceKept_answer h, Operation.plain]
  | formatChoice r values =>
    rw [perform, formatChoiceKept_eq, choiceKept_answer h, Operation.plain]
  | format values => rw [perform, format, h.text_eq, Operation.plain]
  | lint => rw [perform, lint, h.text_eq, h.options_eq, Operation.plain]
  | clone => rw [perform, h.text_eq, h.options_eq, Operation.plain]

theorem perform_coherent (h : Coherent text options m) (operation : Operation) :
    Coherent text options (m.perform operation).2 := by
  cases operation with
  | choices =>
    rw [perform, choicesKept_eq h]
    exact keepChoices_coherent h
  | reparse =>
    have hf := forget_coherent h
    rw [perform, reparse, choicesKept_eq hf]
    exact keepChoices_coherent hf
  | choice r => exact choiceKept_coherent h r
  | formatChoice r values =>
    rw [perform, formatChoiceKept_eq]
    exact choiceKept_coherent h r
  | format values => exact h
  | lint => exact h
  | clone => exact h

end

/-! ## Runs -/

section
variable {text : Text} {options : MatchOptions} {pool : List Message}
  {asked : List (Operation × Answer)}

/-- A copy is as coherent as the message that it was made of. -/
theorem copies_coherent {m : Message} (h : Coherent text options m) (operation : Operation) :
    ∀ copy ∈ operation.copies m, Coherent text options copy := by
  intro copy hcopy
  cases operation with
  | clone => rw [List.mem_singleton.mp hcopy]; exact h
  | _ => exact absurd hcopy List.not_mem_nil

theorem run_coherent (h : Run text options pool asked) : ∀ m ∈ pool, Coherent text options m := by
  induction h with
  | start =>
    intro m hm
    rw [List.mem_singleton.mp hm]
    exact coherent_ofText text options
  | @step asked before after m operation _ ih =>
    have hm : Coherent text options m := ih m (by simp)
    have hkept := perform_coherent hm operation
    -- A message at hand is an untouched one, the one that was used, or a copy of it.
    intro n hn
    rcases List.mem_append.mp hn with hn | hn
    · rcases List.mem_append.mp hn with hn | hn
      · exact ih n (List.mem_append_left _ hn)
      · rcases List.mem_cons.mp hn with rfl | hn
        · exact hkept
        · exact ih n (List.mem_append_right _ (List.mem_cons_of_mem m hn))
    · exact copies_coherent hkept operation n hn

theorem run_answers (h : Run text options pool asked) :
    ∀ a ∈ asked, a.2 = a.1.plain text options := by
  induction h with
  | start => exact fun a ha => absurd ha List.not_mem_nil
  | @step asked before after m operation hrun ih =>
    intro a ha
    rcases List.mem_append.mp ha with ha | ha
    · exact ih a ha
    · rw [List.mem_singleton.mp ha]
      exact perform_answer (run_coherent hrun m (by simp)) operation

/-- **What is kept never shows.** After any run from a fresh message, on each of the messages at
hand: the text and the options are the first ones; what is kept is what they give; the patterns
that are kept lead to texts; and no boolean or number has patterns compiled. Every answer of the
run is that of the fresh message. -/
theorem kept_never_shows (h : Run text options pool asked) :
    (∀ m ∈ pool, Coherent text options m ∧
      (∀ s, m.keptPatterns = some s →
        (∀ e ∈ s.patterns, e.1 < (Choices.parse text).size) ∧
        ∀ t i, s.findWhole? t = some i → ∃ x, (Choices.parse text).texts[i]? = some x) ∧
      ∀ r : Reference, (∀ value, r ≠ .text value) →
        (m.perform (.choice r)).2.keptPatterns = m.keptPatterns ∧
        ∀ values, (m.perform (.formatChoice r values)).2.keptPatterns = m.keptPatterns) ∧
    ∀ operation answer, (operation, answer) ∈ asked →
      answer = ((ofText text options).perform operation).1 := by
  refine ⟨?_, ?_⟩
  · intro m hm
    have hc := run_coherent h m hm
    refine ⟨hc, ?_, ?_⟩
    · intro s hs
      obtain ⟨rfl, -⟩ := hc.patterns_eq s hs
      exact ⟨fun e he => PatternSet.index_lt_of_mem_compile he, fun t i => PatternSet.texts_of_findWhole⟩
    · intro r hr
      refine ⟨keptPatterns_choiceKept hc hr, ?_⟩
      intro values
      rw [perform, formatChoiceKept_eq]
      exact keptPatterns_choiceKept hc hr
  · intro operation answer ha
    rw [perform_answer (coherent_ofText text options)]
    exact run_answers h (operation, answer) ha

end

end

/-- A text is resolved, the message with its patterns is copied, and then the message, but not its
copy, forgets them. -/
theorem kept_never_shows_beside_copy : ∃ pool asked,
    Run ['a', '#', 'x'] .standard pool asked ∧ asked.length = 3 ∧
    pool.map (fun m => m.keptPatterns.isSome) = [false, true] ∧
    (∀ m ∈ pool, Coherent ['a', '#', 'x'] .standard m) ∧
    ∀ operation answer, (operation, answer) ∈ asked →
      answer = ((ofText ['a', '#', 'x'] .standard).perform operation).1 := by
  have h₁ : Run ['a', '#', 'x'] .standard _ _ := .step [] [] _ (.choice (.text ['A'])) .start
  have h₂ := Run.step [] [] _ .clone h₁
  have h₃ := Run.step [] _ _ .reparse h₂
  obtain ⟨hpool, hasked⟩ := kept_never_shows h₃
  exact ⟨_, _, h₃, rfl, rfl, fun m hm => (hpool m hm).1, hasked⟩

end ChoiceTemplate.Message

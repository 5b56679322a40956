import ChoiceTemplate.Proofs.Concatenation
import ChoiceTemplate.Proofs.LetterCase
import ChoiceTemplate.Proofs.Searching

/-
  Selectors of letters and digits mean themselves.

    1. What is relied on of an engine is that it takes such a text literally
       (`PatternEngine.TakesLiterally`): the text is a pattern, and its first match in a text is its
       leftmost occurrence there. Then the whole of a text is matched if and only if it is that very
       text (`matchesWhole_of_takesLiterally`).
    2. The engine of the program does take such a text literally, within the size limit, which a
       text of at most 100 characters always keeps (`takesLiterally_of_plain`). The text is read as
       the sequence of its characters (`analyze_of_plain`), and that sequence can read the text and
       no other one (`eq_of_reads_word`, `reads_word`), however the search goes about it.
    3. Hence a template of such selectors is a table: a text reference looks up its lower-case form
       (`choice_of_plain_template`). An empty selector is no row of the table; it is the default,
       and of several the last one counts.
-/
namespace ChoiceTemplate

/-! ## What is relied on -/

theorem Text.splitAt?_self (t : Text) : splitAt? t t = some ([], []) := by
  cases t with
  | nil => rfl
  | cons c t =>
    have hstart : afterStart? (c :: t) (c :: t) = some [] :=
      afterStart?_eq_some.mpr (List.append_nil _).symm
    rw [splitAt?, hstart]

section
variable [PatternEngine] {limit : Nat} {s : Text}

/-- Whether an engine takes a text literally under a size limit: the text is a pattern, and its first
match in a text is its leftmost occurrence there. -/
def PatternEngine.TakesLiterally (limit : Nat) (s : Text) : Prop :=
  ∃ p, compile s limit = .ok p ∧
    ∀ t, search p t = (Text.splitAt? s t).map fun cut => ⟨cut.1, s⟩

/-- A text is matched as a whole by itself only. That the search is not bound to the beginning of the
text does no harm: what is found is the pattern, wherever it is, and not a text around it. -/
theorem matchesWhole_of_takesLiterally (h : PatternEngine.TakesLiterally limit s) :
    ∃ p, PatternEngine.compile s limit = .ok p ∧ ∀ t, p.matchesWhole t = (s == t) := by
  obtain ⟨p, hp, hsearch⟩ := h
  refine ⟨p, hp, fun t => ?_⟩
  rw [PatternEngine.Compiled.matchesWhole, hsearch]
  cases hcut : Text.splitAt? s t with
  | some cut => rfl
  | none =>
    have hne : s ≠ t := by
      rintro rfl
      rw [Text.splitAt?_self] at hcut
      cases hcut
    exact (beq_eq_false_iff_ne.mpr hne).symm

end

namespace Pattern

/-! ## Reading -/

/-- The characters of a text, each as a part of a pattern, from an offset on. -/
def literals (offset : Nat) : Text → List Ast
  | [] => []
  | c :: t => .literal ⟨⟨offset, offset + 1⟩, c, false⟩ :: literals (offset + 1) t

/-- The characters of a text one after another, as an expression. -/
def word (offset : Nat) : Text → Expr
  | [] => .empty
  | [c] => .one offset (.single c)
  | c :: d :: t => .seq (.one offset (.single c)) (word (offset + 1) (d :: t))

theorem stepAt_of_isAlphanum (s : ReadState) {c : Char} (h : c.isAlphanum = true) :
    s.stepAt c = .ok (s.push (.literal ⟨s.cursor.here, c, false⟩) s.cursor.next) := by
  rw [ReadState.stepAt.eq_def]
  split
  case h_9 =>
    rw [ReadState.readPrimitive.eq_def]
    split
    case h_5 => rfl
    all_goals exact absurd h (by decide)
  all_goals exact absurd h (by decide)

/-- Reading a text of letters and digits to its end adds its characters to the sequence. -/
theorem run_of_plain {t : Text} (h : Text.isPlain t = true) {count : Nat} (hcount : t.length < count)
    (parts : List Ast) (offset : Nat) :
    ReadState.run count ⟨parts, 0, false, [], [], ⟨offset, t⟩⟩ =
      .ok (.ofSequence ⟨0, offset + t.length⟩ (parts.reverse ++ literals offset t)) := by
  induction t generalizing count parts offset with
  | nil =>
    obtain ⟨count, rfl⟩ := Nat.exists_eq_succ_of_ne_zero (Nat.ne_of_gt hcount)
    show ReadState.finish ⟨parts, 0, false, [], [], ⟨offset, []⟩⟩ = _
    simp [ReadState.finish, ReadState.closeAlternatives, ReadState.sequence, literals]
  | cons c t ih =>
    obtain ⟨count, rfl⟩ := Nat.exists_eq_succ_of_ne_zero (Nat.ne_of_gt (Nat.zero_lt_of_lt hcount))
    obtain ⟨hc, ht⟩ : c.isAlphanum = true ∧ Text.isPlain t = true := by simpa [Text.isPlain] using h
    have hstep : ReadState.run (count + 1) ⟨parts, 0, false, [], [], ⟨offset, c :: t⟩⟩ =
        (ReadState.stepAt ⟨parts, 0, false, [], [], ⟨offset, c :: t⟩⟩ c).bind
          (ReadState.run count) := rfl
    have hspan : offset + 1 + t.length = offset + (c :: t).length := by
      rw [List.length_cons]
      omega
    rw [hstep, stepAt_of_isAlphanum _ hc]
    show ReadState.run count ⟨.literal ⟨⟨offset, offset + 1⟩, c, false⟩ :: parts, 0, false, [], [],
      ⟨offset + 1, t⟩⟩ = _
    rw [ih ht (Nat.lt_of_succ_lt_succ hcount), hspan, literals, List.reverse_cons,
      List.append_assoc, List.singleton_append]

theorem chain_literals_cons (offset : Nat) (c d : Char) (t : Text) :
    Ast.chain .andThen (literals offset (c :: d :: t)) =
      .andThen (.literal ⟨⟨offset, offset + 1⟩, c, false⟩)
        (Ast.chain .andThen (literals (offset + 1) (d :: t))) := rfl

theorem tooDeep_literals (offset depth : Nat) (t : Text) :
    (Ast.chain .andThen (literals offset t)).tooDeep? depth = none := by
  induction t generalizing offset with
  | nil => rfl
  | cons c t ih =>
    cases t with
    | nil => rfl
    | cons d t =>
      rw [chain_literals_cons, Ast.tooDeep?, ih]
      rfl

theorem resolve_literals (offset : Nat) (t : Text) :
    (Ast.chain .andThen (literals offset t)).resolve .initial = .ok (word offset t, .initial) := by
  induction t generalizing offset with
  | nil => rfl
  | cons c t ih =>
    cases t with
    | nil => rfl
    | cons d t =>
      have hliteral : (Ast.literal ⟨⟨offset, offset + 1⟩, c, false⟩).resolve .initial =
          .ok (.one offset (.single c), .initial) := rfl
      rw [chain_literals_cons, Ast.resolve, hliteral]
      simp only [bind, Except.bind, ih]
      rfl

theorem captures_literals (offset : Nat) (t : Text) :
    (Ast.chain .andThen (literals offset t)).captures = 0 := by
  induction t generalizing offset with
  | nil => rfl
  | cons c t ih =>
    cases t with
    | nil => rfl
    | cons d t =>
      rw [chain_literals_cons, Ast.captures, ih]
      rfl

theorem sequence_literals (t : Text) :
    let ast := Ast.ofSequence ⟨0, t.length⟩ (literals 0 t)
    ast.tooDeep? 0 = none ∧ ast.resolve .initial = .ok (word 0 t, .initial) ∧ ast.captures = 0 := by
  match t with
  | [] => exact ⟨rfl, rfl, rfl⟩
  | [c] => exact ⟨rfl, rfl, rfl⟩
  | c :: d :: t =>
    exact ⟨tooDeep_literals 0 1 (c :: d :: t), resolve_literals 0 (c :: d :: t),
      captures_literals 0 (c :: d :: t)⟩

/-- A text of letters and digits is the pattern of its characters one after another. -/
theorem analyze_of_plain {t : Text} (h : Text.isPlain t = true) : analyze t = .ok (word 0 t, 0) := by
  have hrun : (ReadState.start t).run (t.length + 1) =
      .ok (.ofSequence ⟨0, 0 + t.length⟩ (literals 0 t)) :=
    run_of_plain h (Nat.lt_succ_self t.length) [] 0
  rw [Nat.zero_add] at hrun
  obtain ⟨hdeep, hresolve, hcaptures⟩ := sequence_literals t
  simp [analyze, read, hrun, hdeep, hresolve, hcaptures, bind, Except.bind]

/-! ## Matching -/

theorem textCount_word (offset : Nat) (t : Text) : (word offset t).textCount? = some 1 := by
  have hone : ∀ (offset : Nat) (c : Char),
      (Expr.one offset (.single c)).textCount? = some 1 := by
    intro offset c
    simp [Expr.textCount?, CharSet.single, CharSet.count?, CharSet.spelledOut]
  induction t generalizing offset with
  | nil => rfl
  | cons c t ih =>
    cases t with
    | nil => exact hone offset c
    | cons d t =>
      rw [word, Expr.textCount?, hone, ih]
      rfl

theorem canBeEmpty_word (offset : Nat) {t : Text} (h : t ≠ []) :
    (word offset t).canBeEmpty = false := by
  match t with
  | [] => exact absurd rfl h
  | [c] => rfl
  | c :: d :: t => rfl

theorem utf8Size_of_isAlphanum {c : Char} (h : c.isAlphanum = true) : c.utf8Size = 1 := by
  rw [Char.utf8Size_eq_one_iff]
  simp [Char.isAlphanum, Char.isAlpha, Char.isUpper, Char.isLower, Char.isDigit,
    UInt32.le_iff_toNat_le] at h ⊢
  omega

/-- A text of letters and digits is as long as it is in bytes, and has a state for each of them. -/
theorem longest_weight_word (offset : Nat) {t : Text} (h : Text.isPlain t = true) (hne : t ≠ []) :
    (word offset t).longest = t.length ∧ (word offset t).weight = stateWeight * t.length := by
  have hone : ∀ (offset : Nat) {c : Char}, c.isAlphanum = true →
      (Expr.one offset (.single c)).longest = 1 ∧
        (Expr.one offset (.single c)).weight = stateWeight := by
    intro offset c hc
    simp [Expr.longest, Expr.weight, CharSet.single, CharSet.longest, CharSet.weight,
      utf8Size_of_isAlphanum hc]
  induction t generalizing offset with
  | nil => exact absurd rfl hne
  | cons c t ih =>
    obtain ⟨hc, ht⟩ : c.isAlphanum = true ∧ Text.isPlain t = true := by simpa [Text.isPlain] using h
    obtain ⟨hlongest, hweight⟩ := hone offset hc
    cases t with
    | nil => exact ⟨hlongest, by simpa [word] using hweight⟩
    | cons d t =>
      obtain ⟨ihlongest, ihweight⟩ := ih (offset + 1) ht (List.cons_ne_nil d t)
      rw [word, Expr.longest, Expr.weight, hlongest, hweight, ihlongest, ihweight,
        List.length_cons, Nat.mul_succ]
      exact ⟨Nat.add_comm _ _, Nat.add_comm _ _⟩

/-- A text of letters and digits is a pattern. It is too large only if it is both longer than what
is compared as a whole and larger than the limit. -/
theorem compile_of_plain {t : Text} {limit : Nat} (h : Text.isPlain t = true) (hne : t ≠ [])
    (hsize : t.length ≤ Expr.lengthLimit ∨ baseWeight + stateWeight * t.length ≤ limit) :
    compile t limit = .ok ⟨t, word 0 t⟩ := by
  obtain ⟨hlongest, hweight⟩ := longest_weight_word 0 h hne
  have hfits : fits limit (word 0 t) 0 = true := by
    simpa [fits, Expr.isTexts, textCount_word, canBeEmpty_word 0 hne, hlongest, hweight] using hsize
  simp [compile, analyze_of_plain h, hfits]

theorem eq_of_reads_word {before : Option Char} {offset : Nat} {s t rest : Text} (hne : s ≠ [])
    (h : Reads before [word offset s] t rest) : t = s := by
  have hfirst : ∀ {c d : Char}, (CharSet.single c).contains d = true → d = c := by
    intro c d h
    rw [CharSet.contains_single] at h
    exact (beq_iff_eq.mp h).symm
  induction s generalizing before offset t with
  | nil => exact absurd rfl hne
  | cons c s ih =>
    cases s with
    | nil =>
      obtain ⟨d, u, rfl, hd, hu⟩ := of_reads_one h
      rw [hfirst hd, reads_nil.mp hu]
    | cons d s =>
      obtain ⟨d', u, rfl, hd, hu⟩ := of_reads_one (of_reads_seq h)
      rw [hfirst hd, ih (List.cons_ne_nil d s) hu]

theorem reads_word {before : Option Char} {offset : Nat} {s : Text} (hne : s ≠ []) (rest : Text) :
    Reads before [word offset s] s rest := by
  induction s generalizing before offset with
  | nil => exact absurd rfl hne
  | cons c s ih =>
    have hc : (CharSet.single c).contains c = true := by simp [CharSet.contains_single]
    cases s with
    | nil => exact .one hc (reads_nil.mpr rfl)
    | cons d s => exact .step .seq (.one hc (ih (List.cons_ne_nil d s)))

/-- At a place where its text begins, the pattern matches that text, and elsewhere nothing. -/
theorem matchAt_word {s : Text} (hne : s ≠ []) (before : Option Char) (t : Text) :
    (word 0 s).matchAt? before t = (Text.afterStart? s t).map fun _ => s := by
  cases hstart : Text.afterStart? s t with
  | some rest =>
    obtain rfl := Text.afterStart?_eq_some.mp hstart
    obtain ⟨w, hw⟩ := Option.isSome_iff_exists.mp (matchAt_of_reads (reads_word hne rest))
    obtain ⟨_, -, hreads⟩ := reads_of_matchAt hw
    rw [hw, eq_of_reads_word hne hreads]
    rfl
  | none =>
    cases hw : (word 0 s).matchAt? before t with
    | none => rfl
    | some w =>
      obtain ⟨rest, rfl, hreads⟩ := reads_of_matchAt hw
      obtain rfl := eq_of_reads_word hne hreads
      rw [Text.afterStart?_eq_some.mpr rfl] at hstart
      cases hstart

/-- The search tries the places from left to right, and so finds the leftmost occurrence. -/
theorem findFrom_word {s : Text} (hne : s ≠ []) (passed t : Text) :
    (word 0 s).findFrom? passed t =
      (Text.splitAt? s t).map fun cut => ⟨passed.reverse ++ cut.1, s⟩ := by
  induction t generalizing passed with
  | nil =>
    have hnone : Text.afterStart? s [] = none := by
      cases s with
      | nil => exact absurd rfl hne
      | cons c s => rfl
    rw [Expr.findFrom?, matchAt_word hne, hnone, Text.splitAt?, if_neg hne]
    rfl
  | cons c t ih =>
    rw [Expr.findFrom?, matchAt_word hne, Text.splitAt?]
    cases Text.afterStart? s (c :: t) with
    | some rest => simp
    | none => simp [ih, Function.comp_def]

/-- **Letters and digits are taken literally by the engine of the program**, as far as the size limit
lets them. -/
theorem takesLiterally_of_plain {s : Text} {limit : Nat} (h : Text.isPlain s = true) (hne : s ≠ [])
    (hsize : s.length ≤ Expr.lengthLimit ∨ baseWeight + stateWeight * s.length ≤ limit) :
    PatternEngine.TakesLiterally limit s :=
  ⟨⟨s, word 0 s⟩, compile_of_plain h hne hsize, fun t => findFrom_word hne [] t⟩

end Pattern

/-! ## Templates -/

section
variable {options : MatchOptions} {selector : Text}

theorem isPlain_patternSource (h : Text.isPlain selector = true) :
    Text.isPlain (options.patternSource selector) = true := by
  rw [MatchOptions.patternSource]
  split
  · exact Text.isPlain_lowercase h
  · exact h

/-- A text is accepted by the selector that it is, up to the case of the text, and up to that of the
selector as well if the options ask for it. -/
theorem accepts_text_of_takesLiterally [PatternEngine] (h : selector ≠ [] →
    PatternEngine.TakesLiterally options.sizeLimit (options.patternSource selector))
    (value : Text) :
    (Reference.text value).accepts options selector =
      (selector ≠ [] && options.patternSource selector == Text.lowercase value) := by
  by_cases hnil : selector = []
  · simp [Reference.accepts, hnil]
  · obtain ⟨p, hp, hmatches⟩ := matchesWhole_of_takesLiterally (h hnil)
    simp only [Reference.accepts, compileSelector, hp, hmatches]

end

namespace Choices

/-- The texts that the patterns of the non-empty selectors are compiled from. -/
def patternSources (c : Choices) (options : MatchOptions) : List Text :=
  (c.selectors.filter (· ≠ [])).map options.patternSource

/-- The first choice whose non-empty selector is a text in lower case, where the selector may have
upper-case letters if `fold` holds. -/
def row? (c : Choices) (fold : Bool) (value : Text) : Option Choice :=
  c.items.find? fun i => i.selector ≠ [] &&
    (if fold then Text.lowercase i.selector else i.selector) == Text.lowercase value

theorem accepted_of_plain [PatternEngine] {c : Choices} {limit : Nat} {fold : Bool}
    (h : ∀ i ∈ c.items, Text.isPlain i.selector = true)
    (hengine : ∀ s ∈ c.patternSources ⟨limit, fold⟩, Text.isPlain s = true →
      PatternEngine.TakesLiterally limit s) (value : Text) :
    c.accepted? ⟨limit, fold⟩ (.text value) = c.row? fold value := by
  refine List.find?_congr fun i hi => accepts_text_of_takesLiterally (fun hne => ?_) value
  have hsource : MatchOptions.patternSource ⟨limit, fold⟩ i.selector ∈
      c.patternSources ⟨limit, fold⟩ := by
    have hselector := selector_mem_of_mem_items hi
    exact List.mem_map_of_mem (List.mem_filter.mpr ⟨hselector, decide_eq_true hne⟩)
  exact hengine _ hsource (isPlain_patternSource (h i hi))

end Choices

namespace Message

/-- **Selectors of letters and digits are looked up.** In a template whose selectors consist of
ASCII letters and digits, a text reference chooses the text of the first entry whose non-empty
selector equals the reference in lower case, the selector itself being put into lower case only
where the options ask for it; without such an entry, the default text, which is that of the last
entry with an empty selector. Where selectors are taken as they are, an entry with an upper-case
letter in its selector is never chosen. The empty template has nothing to choose. All that is asked
of the engine is that it takes these selectors literally under the size limit. -/
theorem choice_of_plain_template [PatternEngine] (template : Text) (limit : Nat) (fold : Bool)
    (value : Text) (h : ∀ i ∈ (Choices.parse template).items, Text.isPlain i.selector = true)
    (hengine : ∀ s ∈ (Choices.parse template).patternSources ⟨limit, fold⟩,
      Text.isPlain s = true → PatternEngine.TakesLiterally limit s) :
    (ofText template ⟨limit, fold⟩).choice? (.text value) =
      (if template = [] then none
      else some (ofText
        (match (Choices.parse template).row? fold value with
        | some i => i.text
        | none => ((Choices.lastDefault? (Choices.parse template).items).map Choice.text).getD [])
        ⟨limit, fold⟩)) ∧
    (fold = false → ∀ k i,
      (PatternSet.compile (Choices.parse template) ⟨limit, fold⟩).findWhole?
        (Text.lowercase value) = some k →
      (Choices.parse template).items[k]? = some i → Text.NoUpper i.selector) := by
  have hrow := Choices.accepted_of_plain h hengine value
  constructor
  · rw [choice_ofText, plainChoice, Choices.resolve_eq, hrow, Choices.defaultText_parse]
    cases (Choices.parse template).row? fold value <;> rfl
  · rintro rfl k i hk hi
    have hfound : (Choices.parse template).row? false value = some i := by
      rw [← hrow, ← Choices.findWhole_eq_accepted, hk]
      exact hi
    have hsame := List.find?_some hfound
    simp only [Bool.false_eq_true, if_false, Bool.and_eq_true, beq_iff_eq] at hsame
    exact hsame.2 ▸ Text.noUpper_lowercase value

end Message

/-- The same word in two cases, a selector twice, and two defaults. -/
def wordTable : Text := "#first|Male#upper|male#lower|male#again|2#two|#last".toList

theorem Message.wordTable_looked_up :
    (∀ i ∈ (Choices.parse wordTable).items, Text.isPlain i.selector = true) ∧
    (∀ limit fold, ∀ s ∈ (Choices.parse wordTable).patternSources ⟨limit, fold⟩,
      Text.isPlain s = true → PatternEngine.TakesLiterally limit s) ∧
    (ofText wordTable .standard).choice? (.text "MALE".toList) =
      some (ofText "lower".toList .standard) ∧
    (ofText wordTable ⟨0, true⟩).choice? (.text "MALE".toList) =
      some (ofText "upper".toList ⟨0, true⟩) ∧
    (ofText wordTable .standard).choice? (.text "ale".toList) =
      some (ofText "last".toList .standard) := by
  have h : ∀ i ∈ (Choices.parse wordTable).items, Text.isPlain i.selector = true := by decide
  have hengine : ∀ limit fold, ∀ s ∈ (Choices.parse wordTable).patternSources ⟨limit, fold⟩,
      Text.isPlain s = true → PatternEngine.TakesLiterally limit s := by
    intro limit fold s hs hplain
    have hshort : ∀ fold, ∀ s ∈ (Choices.parse wordTable).patternSources ⟨0, fold⟩,
        s ≠ [] ∧ s.length ≤ Pattern.Expr.lengthLimit := by decide
    obtain ⟨hne, hlength⟩ := hshort fold s hs
    exact Pattern.takesLiterally_of_plain hplain hne (Or.inl hlength)
  exact ⟨h, hengine, (choice_of_plain_template wordTable _ false _ h (hengine _ _)).1,
    (choice_of_plain_template wordTable 0 true _ h (hengine _ _)).1,
    (choice_of_plain_template wordTable _ false _ h (hengine _ _)).1⟩

/-- An empty selector equals the empty reference, but it is the default and no row: of two of them,
the last one counts. -/
theorem Message.first_default_not_looked_up :
    (∀ i ∈ (Choices.parse "#a|#b".toList).items, Text.isPlain i.selector = true) ∧
    ((Choices.parse "#a|#b".toList).items.find? fun i => i.selector == Text.lowercase []) =
      some ⟨[], ['a']⟩ ∧
    (ofText "#a|#b".toList .standard).choice? (.text []) = some (ofText ['b'] .standard) :=
  ⟨by decide, rfl, rfl⟩

end ChoiceTemplate

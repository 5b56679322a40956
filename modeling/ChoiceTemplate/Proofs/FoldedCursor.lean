import ChoiceTemplate.Pattern.Cursor
import ChoiceTemplate.Proofs.LetterCase
import ChoiceTemplate.Proofs.UnescapedLetters

/-
  A cursor on a pattern and a cursor on the same pattern in lower case.

  Putting a pattern into lower case changes what it says unless the letters that change mean nothing
  or mean the same. One letter does the latter: the `U` of a character code in braces. So a text is
  looked at whose upper-case letters all are such letters (`Text.UpperOpensCode`), behind a backslash
  that is not escaped itself (`FoldsFrom`, which says this of what is left of a text, given whether its
  first character is escaped).

  A reader of patterns moves a cursor. Here each move is shown to do the same to a cursor and to its
  lower-case form (`Cursor.lower`): passing over a character, over white space and comments, over a
  given text, and collecting characters. A cursor between two parts of a pattern stays `Safe`: what is
  left behind it is such a text, and its first character is not escaped. After the moves stands what it
  means for two readings to go alike (`Twins`), with one rule for each way in which readers are
  combined.
-/
namespace ChoiceTemplate

/-! ## Texts whose upper-case letters open character codes -/

/-- Whether every upper-case letter of a text is a `U` with an opening brace after it. -/
def Text.UpperOpensCode : Text → Prop
  | [] => True
  | c :: t => (c.isUpper = true → c = 'U' ∧ t.head? = some '\x7b') ∧ UpperOpensCode t

instance Text.decidableUpperOpensCode : (t : Text) → Decidable t.UpperOpensCode
  | [] => .isTrue trivial
  | _ :: t => @instDecidableAnd _ _ _ (decidableUpperOpensCode t)

namespace Pattern

/-- Whether every upper-case letter of a text is escaped and opens a character code in braces, where
`escaped` says whether a backslash before the text escapes its first character. -/
structure FoldsFrom (escaped : Bool) (t : Text) : Prop where
  seen : Lint.hasUppercaseFrom escaped t = false
  opens : t.UpperOpensCode

section
variable {escaped : Bool} {c : Char} {t : Text}

theorem foldsFrom_nil (escaped : Bool) : FoldsFrom escaped [] := ⟨rfl, trivial⟩

theorem foldsFrom_cons : FoldsFrom escaped (c :: t) ↔
    (c.isUpper = true → escaped = true ∧ c = 'U' ∧ t.head? = some '\x7b') ∧
      FoldsFrom (Lint.nextEscaped escaped c) t := by
  constructor
  · rintro ⟨hseen, hcode, hopens⟩
    rw [Lint.hasUppercaseFrom_cons, Bool.or_eq_false_iff] at hseen
    refine ⟨fun hc => ⟨?_, hcode hc⟩, hseen.2, hopens⟩
    simpa [hc] using hseen.1
  · rintro ⟨hc, hseen, hopens⟩
    refine ⟨?_, fun hu => (hc hu).2, hopens⟩
    rw [Lint.hasUppercaseFrom_cons, hseen, Bool.or_false]
    cases hu : c.isUpper
    · simp
    · simp [(hc hu).1]

/-- What is not escaped is in lower case already. -/
theorem FoldsFrom.toLower_head (h : FoldsFrom false (c :: t)) : c.toLower = c := by
  refine Char.toLower_eq_of_not_isUpper fun hu => ?_
  obtain ⟨hescaped, -⟩ := (foldsFrom_cons.mp h).1 hu
  cases hescaped

theorem FoldsFrom.tail (h : FoldsFrom escaped (c :: t)) : FoldsFrom (Lint.nextEscaped escaped c) t :=
  (foldsFrom_cons.mp h).2

theorem FoldsFrom.tail_of_ne (h : FoldsFrom escaped (c :: t)) (hc : c ≠ '\\') : FoldsFrom false t := by
  have hnext : Lint.nextEscaped escaped c = false := by simp [Lint.nextEscaped, hc]
  exact hnext ▸ h.tail

/-- The character after a backslash ends the escape. -/
theorem FoldsFrom.tail_escaped (h : FoldsFrom true (c :: t)) : FoldsFrom false t := h.tail

end

namespace Cursor

/-- The cursor at the same place of the text in lower case. -/
def lower (c : Cursor) : Cursor := ⟨c.offset, Text.lowercase c.rest⟩

/-- Whether what is left may be put into lower case, its first character not being escaped. -/
def Safe (c : Cursor) : Prop := FoldsFrom false c.rest

section
variable {c : Cursor} {ch : Char} {t : Text}

@[simp] theorem lower_mk (offset : Nat) (t : Text) :
    lower ⟨offset, t⟩ = ⟨offset, Text.lowercase t⟩ := rfl

@[simp] theorem offset_lower (c : Cursor) : c.lower.offset = c.offset := rfl

@[simp] theorem rest_lower (c : Cursor) : c.lower.rest = Text.lowercase c.rest := rfl

@[simp] theorem atEnd_lower (c : Cursor) : c.lower.atEnd = c.atEnd := by
  obtain ⟨offset, rest⟩ := c
  cases rest <;> rfl

@[simp] theorem here_lower (c : Cursor) : c.lower.here = c.here := by simp [here]

@[simp] theorem since_lower (first : Nat) (c : Cursor) : c.lower.since first = c.since first := rfl

@[simp] theorem next_lower (c : Cursor) : c.lower.next = c.next.lower := by
  obtain ⟨offset, rest⟩ := c
  cases rest <;> rfl

theorem head_lower (c : Cursor) (h : ch.isAlpha = false) :
    c.lower.rest.head? = some ch ↔ c.rest.head? = some ch := by
  obtain ⟨offset, rest⟩ := c
  cases rest with
  | nil => simp
  | cons d t => simp [Text.toLower_eq_iff h]

theorem isAt_lower (c : Cursor) (h : ch.isAlpha = false) : c.lower.isAt ch = c.isAt ch := by
  rw [isAt, isAt, Bool.eq_iff_iff, beq_iff_eq, beq_iff_eq, head_lower c h]

theorem isAt_iff : c.isAt ch = true ↔ ∃ t, c.rest = ch :: t := by
  rw [isAt, beq_iff_eq, List.head?_eq_some_iff]

/-- A safe cursor that is not at the end stands on a character that is in lower case already. -/
theorem Safe.rest_lower_cons (h : c.Safe) (hrest : c.rest = ch :: t) :
    c.lower.rest = ch :: Text.lowercase t := by
  have hsafe : FoldsFrom false (ch :: t) := hrest ▸ h
  rw [Cursor.rest_lower, hrest, Text.lowercase_cons, hsafe.toLower_head]

/-! ## White space and comments -/

theorem not_isBlankChar_of_isAlpha {c : Char} (h : c.isAlpha = true) :
    Text.isBlankChar c = false := by
  simp [Char.isAlpha, Char.isUpper, Char.isLower, Text.isBlankChar, UInt32.le_iff_toNat_le] at h ⊢
  omega

theorem isBlankChar_toLower (c : Char) : Text.isBlankChar c.toLower = Text.isBlankChar c := by
  by_cases hu : c.isUpper = true
  · have hc : c.isAlpha = true := by simp [Char.isAlpha, hu]
    rw [not_isBlankChar_of_isAlpha hc, not_isBlankChar_of_isAlpha]
    rwa [Char.isAlpha_toLower_eq_isAlpha]
  · rw [Char.toLower_eq_of_not_isUpper hu]

theorem skipSpaceFrom_lower (inComment : Bool) (offset : Nat) (t : Text) :
    skipSpaceFrom inComment offset (Text.lowercase t) = (skipSpaceFrom inComment offset t).lower := by
  induction t generalizing inComment offset with
  | nil => rfl
  | cons ch t ih =>
    have hfeed : ch.toLower ≠ '\n' ↔ ch ≠ '\n' := (Text.toLower_eq_iff rfl).not
    have hhash : ch.toLower = '#' ↔ ch = '#' := Text.toLower_eq_iff rfl
    simp only [Text.lowercase_cons, skipSpaceFrom, ih, isBlankChar_toLower, hfeed, hhash]
    split
    · rfl
    · split
      · rfl
      · split <;> rfl

@[simp] theorem skipSpace_lower (spaced : Bool) (c : Cursor) :
    c.lower.skipSpace spaced = (c.skipSpace spaced).lower := by
  rw [skipSpace, skipSpace]
  split
  · exact skipSpaceFrom_lower false c.offset c.rest
  · rfl

@[simp] theorem advance_lower (spaced : Bool) (c : Cursor) :
    c.lower.advance spaced = (c.advance spaced).lower := by
  rw [advance, advance, next_lower, skipSpace_lower]

/-- A comment may hold anything: the line feed that ends it is no backslash. -/
theorem safe_skipSpaceFrom {inComment escaped : Bool} {t : Text} (h : FoldsFrom escaped t)
    (hescaped : escaped = true → inComment = true) (offset : Nat) :
    (skipSpaceFrom inComment offset t).Safe := by
  induction t generalizing inComment escaped offset with
  | nil => exact foldsFrom_nil false
  | cons ch t ih =>
    rw [skipSpaceFrom]
    split
    · refine ih h.tail (fun hnext => ?_) (offset + 1)
      have hch : ch = '\\' := by simpa using (Bool.and_eq_true_iff.mp hnext).2
      simp [hch]
    · rename_i hcomment
      obtain rfl : escaped = false := by simpa using mt hescaped hcomment
      split
      · rename_i hblank
        refine ih (h.tail_of_ne ?_) (by simp) (offset + 1)
        rintro rfl
        exact absurd hblank (by decide)
      · split
        · rename_i hhash
          exact ih (h.tail_of_ne (by simp [hhash])) (by simp) (offset + 1)
        · exact h

theorem Safe.skipSpace (h : c.Safe) (spaced : Bool) : (c.skipSpace spaced).Safe := by
  rw [Cursor.skipSpace]
  split
  · exact safe_skipSpaceFrom h (by simp) c.offset
  · exact h

theorem Safe.next (h : c.Safe) (hch : ¬c.isAt '\\' = true) : c.next.Safe := by
  obtain ⟨offset, rest⟩ := c
  cases rest with
  | nil => exact h
  | cons d t => exact h.tail_of_ne fun hd => hch (isAt_iff.mpr ⟨t, by rw [hd]⟩)

theorem Safe.next_of_rest (h : c.Safe) (hrest : c.rest = ch :: t) (hch : ch ≠ '\\') :
    c.next.Safe := by
  refine h.next fun hat => hch ?_
  rw [isAt, hrest, List.head?_cons, beq_iff_eq] at hat
  exact Option.some_inj.mp hat

theorem Safe.advance_of_rest (h : c.Safe) (hrest : c.rest = ch :: t) (hch : ch ≠ '\\')
    (spaced : Bool) : (c.advance spaced).Safe :=
  (h.next_of_rest hrest hch).skipSpace spaced

theorem Safe.next_of_isAt (h : c.Safe) (hat : c.isAt ch = true) (hch : ch ≠ '\\') : c.next.Safe := by
  obtain ⟨t, hrest⟩ := isAt_iff.mp hat
  exact h.next_of_rest hrest hch

theorem Safe.advance_of_isAt (h : c.Safe) (hat : c.isAt ch = true) (hch : ch ≠ '\\') (spaced : Bool) :
    (c.advance spaced).Safe :=
  (h.next_of_isAt hat hch).skipSpace spaced

/-! ## What is seen from a cursor -/

/-- A text without backslashes comes next in lower case if it comes next at all. -/
theorem afterStart?_lower {start : Text} (hstart : '\\' ∉ start) (h : FoldsFrom false t) :
    Text.afterStart? start (Text.lowercase t) = (Text.afterStart? start t).map Text.lowercase ∧
      ∀ rest, Text.afterStart? start t = some rest → FoldsFrom false rest := by
  induction start generalizing t with
  | nil => exact ⟨rfl, fun rest hrest => by cases hrest; exact h⟩
  | cons d start ih =>
    cases t with
    | nil => exact ⟨rfl, fun rest hrest => by cases hrest⟩
    | cons ch t =>
      rw [Text.lowercase_cons, h.toLower_head, Text.afterStart?, Text.afterStart?]
      by_cases hd : d = ch
      · subst hd
        rw [if_pos rfl, if_pos rfl]
        refine ih (List.not_mem_of_not_mem_cons hstart) (h.tail_of_ne ?_)
        exact fun hd => hstart (hd ▸ List.mem_cons_self)
      · rw [if_neg hd, if_neg hd]
        exact ⟨rfl, fun rest hrest => by cases hrest⟩

theorem Safe.after?_lower (h : c.Safe) {text : Text} (htext : '\\' ∉ text) :
    c.lower.after? text = (c.after? text).map lower := by
  rw [after?, after?, rest_lower, (afterStart?_lower htext h).1, Option.map_map, Option.map_map]
  rfl

theorem Safe.after? (h : c.Safe) {text : Text} (htext : '\\' ∉ text) {after : Cursor}
    (hafter : c.after? text = some after) : after.Safe := by
  obtain ⟨rest, hrest, rfl⟩ := Option.map_eq_some_iff.mp hafter
  exact (afterStart?_lower htext h).2 rest hrest

/-- White space at the beginning of a text and what follows it are found in lower case where they
are found as they are written. -/
theorem span_isBlankChar_lower (t : Text) :
    (Text.lowercase t).takeWhile Text.isBlankChar =
        Text.lowercase (t.takeWhile Text.isBlankChar) ∧
      (Text.lowercase t).dropWhile Text.isBlankChar =
        Text.lowercase (t.dropWhile Text.isBlankChar) := by
  have hblank : Text.isBlankChar ∘ Char.toLower = Text.isBlankChar := funext isBlankChar_toLower
  rw [Text.lowercase, List.takeWhile_map, List.dropWhile_map, hblank, Text.lowercase,
    Text.lowercase]
  exact ⟨rfl, rfl⟩

theorem peek?_lower (spaced : Bool) (c : Cursor) :
    c.lower.peek? spaced = (c.peek? spaced).map Char.toLower := by
  have htail : c.lower.rest.drop 1 = Text.lowercase (c.rest.drop 1) := (List.map_drop ..).symm
  have hhead : ∀ t : Text, (Text.lowercase t).head? = t.head?.map Char.toLower := fun t =>
    List.head?_map ..
  have hempty : ∀ t : Text, (Text.lowercase t).isEmpty = t.isEmpty := fun t => List.isEmpty_map ..
  cases spaced with
  | false => simp only [peek?, htail, hhead, Bool.false_eq_true, if_false]
  | true =>
    simp only [peek?, htail, (span_isBlankChar_lower _).2, if_true]
    cases (c.rest.drop 1).dropWhile Text.isBlankChar with
    | nil => simp [hhead]
    | cons d u =>
      by_cases hd : d = '#'
      · subst hd
        have hhash : Text.lowercase ('#' :: u) = '#' :: Text.lowercase u := rfl
        simp only [hhash, (span_isBlankChar_lower _).2, hhead, hempty]
        split <;> rfl
      · have hlower : d.toLower ≠ '#' := mt (Text.toLower_eq_iff rfl).mp hd
        simp [Text.lowercase_cons, hlower, hd]

theorem peek?_eq_lower (spaced : Bool) (c : Cursor) (h : ch.isAlpha = false) :
    (c.lower.peek? spaced == some ch) = (c.peek? spaced == some ch) := by
  rw [peek?_lower]
  cases c.peek? spaced with
  | none => rfl
  | some d =>
    rw [Option.map_some, Bool.eq_iff_iff, beq_iff_eq, beq_iff_eq, Option.some_inj, Option.some_inj,
      Text.toLower_eq_iff h]

/-! ## Collecting characters -/

/-- Collecting characters other than backslashes meets none in upper case. -/
theorem Safe.collect (h : c.Safe) {accept : Char → Bool} (haccept : accept '\\' = false)
    (spaced : Bool) (count : Nat) :
    c.lower.collect spaced accept count =
        Prod.map id lower (c.collect spaced accept count) ∧
      (c.collect spaced accept count).2.Safe := by
  induction count generalizing c with
  | zero => exact ⟨rfl, h⟩
  | succ count ih =>
    rw [Cursor.collect, Cursor.collect]
    cases hrest : c.rest with
    | nil =>
      rw [rest_lower, hrest]
      exact ⟨rfl, h⟩
    | cons ch t =>
      rw [h.rest_lower_cons hrest]
      dsimp only
      by_cases hch : accept ch = true
      · have hne : ch ≠ '\\' := by
          rintro rfl
          rw [haccept] at hch
          cases hch
        obtain ⟨htwin, hsafe⟩ := ih (h.advance_of_rest hrest hne spaced)
        rw [if_pos hch, if_pos hch, advance_lower, htwin]
        exact ⟨rfl, hsafe⟩
      · rw [if_neg hch, if_neg hch]
        exact ⟨rfl, h⟩

/-- What is collected without backslashes is the same, and is left at a safe cursor. -/
theorem Safe.collectAll (h : c.Safe) (accept : Char → Bool) (haccept : accept '\\' = false)
    (spaced : Bool) :
    ∃ text stop, c.collectAll spaced accept = (text, stop) ∧
      c.lower.collectAll spaced accept = (text, stop.lower) ∧ stop.Safe := by
  obtain ⟨htwin, hsafe⟩ := h.collect haccept spaced c.rest.length
  refine ⟨_, _, rfl, ?_, hsafe⟩
  rw [Cursor.collectAll, Cursor.rest_lower, Text.lowercase, List.length_map, htwin]
  rfl

/-- What is collected up to a character that is no letter is left at the same place. -/
theorem collectAll_lower (h : ch.isAlpha = false) (spaced : Bool) (c : Cursor) :
    c.lower.collectAll spaced (· ≠ ch) =
      Prod.map Text.lowercase lower (c.collectAll spaced (· ≠ ch)) := by
  have hcollect : ∀ (count : Nat) (c : Cursor), c.lower.collect spaced (· ≠ ch) count =
      Prod.map Text.lowercase lower (c.collect spaced (· ≠ ch) count) := by
    intro count
    induction count with
    | zero => exact fun c => rfl
    | succ count ih =>
      intro c
      rw [collect, collect]
      cases hrest : c.rest with
      | nil =>
        rw [rest_lower, hrest]
        rfl
      | cons d t =>
        have hd : d.toLower ≠ ch ↔ d ≠ ch := (Text.toLower_eq_iff h).not
        rw [rest_lower, hrest, Text.lowercase_cons, advance_lower]
        simp only [decide_eq_true_eq, hd, ih]
        split <;> rfl
  rw [collectAll, collectAll, hcollect, rest_lower, Text.lowercase, List.length_map]

/-- White space and comments are passed over from left to right. -/
theorem skipSpaceFrom_passes (inComment : Bool) (offset : Nat) (t : Text) :
    ∃ passed, t = passed ++ (skipSpaceFrom inComment offset t).rest ∧
      (skipSpaceFrom inComment offset t).offset = offset + passed.length := by
  induction t generalizing inComment offset with
  | nil => exact ⟨[], rfl, rfl⟩
  | cons ch t ih =>
    have htail : ∀ b, ∃ passed, ch :: t = passed ++ (skipSpaceFrom b (offset + 1) t).rest ∧
        (skipSpaceFrom b (offset + 1) t).offset = offset + passed.length := by
      intro b
      obtain ⟨passed, ht, hoffset⟩ := ih b (offset + 1)
      refine ⟨ch :: passed, congrArg (ch :: ·) ht, ?_⟩
      rw [hoffset, List.length_cons]
      omega
    rw [skipSpaceFrom]
    split
    · exact htail _
    · split
      · exact htail _
      · split
        · exact htail _
        · exact ⟨[], rfl, rfl⟩

theorem skipSpace_passes (spaced : Bool) (c : Cursor) :
    ∃ passed, c.rest = passed ++ (c.skipSpace spaced).rest ∧
      (c.skipSpace spaced).offset = c.offset + passed.length := by
  rw [Cursor.skipSpace]
  split
  · exact skipSpaceFrom_passes false c.offset c.rest
  · exact ⟨[], rfl, rfl⟩

theorem length_advance_lt (spaced : Bool) (hrest : c.rest = ch :: t) :
    (c.advance spaced).rest.length < c.rest.length := by
  have hnext : c.next.rest = t := by rw [next, hrest]
  obtain ⟨passed, hpassed, -⟩ := skipSpace_passes spaced c.next
  rw [advance, hrest, ← hnext, hpassed, List.length_cons, List.length_append]
  omega

theorem offset_lt_advance (spaced : Bool) (hrest : c.rest = ch :: t) :
    c.offset < (c.advance spaced).offset := by
  have hnext : c.next.offset = c.offset + 1 := by rw [next, hrest]
  obtain ⟨passed, -, hoffset⟩ := skipSpace_passes spaced c.next
  rw [advance, hoffset, hnext]
  omega

/-- Collecting ends at the end or at a character that is not accepted. -/
theorem rest_collectAll (accept : Char → Bool) (spaced : Bool) (c : Cursor)
    (hrest : (c.collectAll spaced accept).2.rest = ch :: t) : accept ch = false := by
  have hcollect : ∀ (count : Nat) (c : Cursor), c.rest.length ≤ count →
      (c.collect spaced accept count).2.rest = ch :: t → accept ch = false := by
    intro count
    induction count with
    | zero =>
      intro c hlength hrest
      have hempty : c.rest = [] := List.length_eq_zero_iff.mp (Nat.le_zero.mp hlength)
      exact absurd (hempty.symm.trans hrest) (by simp)
    | succ count ih =>
      intro c hlength hrest
      rw [collect] at hrest
      split at hrest
      · rename_i hempty
        exact absurd (hempty.symm.trans hrest) (by simp)
      · rename_i d u hc
        split at hrest
        · have hshorter := length_advance_lt spaced hc
          exact ih (c.advance spaced) (by omega) hrest
        · rename_i hd
          obtain ⟨rfl, -⟩ := List.cons.inj (hc.symm.trans hrest)
          exact Bool.eq_false_iff.mpr hd
  exact hcollect _ c (Nat.le_refl _) hrest

theorem exists_foldsFrom_skipSpaceFrom (inComment : Bool) (offset : Nat)
    (h : ∃ escaped, FoldsFrom escaped t) :
    ∃ escaped, FoldsFrom escaped (skipSpaceFrom inComment offset t).rest := by
  induction t generalizing inComment offset with
  | nil => exact h
  | cons ch t ih =>
    obtain ⟨escaped, h⟩ := h
    have htail := fun b => ih b (offset + 1) ⟨_, h.tail⟩
    rw [skipSpaceFrom]
    split
    · exact htail _
    · split
      · exact htail _
      · split
        · exact htail _
        · exact ⟨escaped, h⟩

/-- Whatever characters are collected, what is left may be put into lower case, although its first
character may be escaped. -/
theorem exists_foldsFrom_collectAll (accept : Char → Bool) (spaced : Bool)
    (h : ∃ escaped, FoldsFrom escaped c.rest) :
    ∃ escaped, FoldsFrom escaped (c.collectAll spaced accept).2.rest := by
  have hcollect : ∀ (count : Nat) (c : Cursor), (∃ escaped, FoldsFrom escaped c.rest) →
      ∃ escaped, FoldsFrom escaped (c.collect spaced accept count).2.rest := by
    intro count
    induction count with
    | zero => exact fun c h => h
    | succ count ih =>
      rintro ⟨offset, rest⟩ ⟨escaped, h⟩
      cases rest with
      | nil => exact ⟨escaped, h⟩
      | cons ch t =>
        rw [Cursor.collect]
        dsimp only
        split
        · refine ih _ ?_
          rw [advance, Cursor.skipSpace]
          split
          · exact exists_foldsFrom_skipSpaceFrom false _ ⟨_, h.tail⟩
          · exact ⟨_, h.tail⟩
        · exact ⟨escaped, h⟩
  exact hcollect c.rest.length c h

/-- Collecting up to a character other than a backslash may pass over backslashes, but that character
leaves nothing escaped. -/
theorem Safe.next_collectAll (h : c.Safe) (ch : Char) (hch : ch ≠ '\\') (spaced : Bool) :
    (c.collectAll spaced (· ≠ ch)).2.next.Safe := by
  obtain ⟨escaped, hleft⟩ := exists_foldsFrom_collectAll (· ≠ ch) spaced ⟨false, h⟩
  have hstop : ∀ d u, (c.collectAll spaced (· ≠ ch)).2.rest = d :: u → d = ch := fun d u hrest => by
    simpa using rest_collectAll (· ≠ ch) spaced c hrest
  cases hrest : (c.collectAll spaced (· ≠ ch)).2.rest with
  | nil =>
    rw [Cursor.next, hrest, Safe, hrest]
    exact foldsFrom_nil false
  | cons d u =>
    rw [hrest] at hleft
    rw [Cursor.next, hrest]
    exact hleft.tail_of_ne (hstop d u hrest ▸ hch)

end

end Cursor

/-! ## Readings that go alike -/

/-- What stands at a cursor, and so has a form at the same place of the text in lower case. -/
class Placed (α : Type) where
  lower : α → α
  Safe : α → Prop

instance : Placed Cursor := ⟨Cursor.lower, Cursor.Safe⟩

instance {β α : Type} [Placed α] : Placed (β × α) :=
  ⟨Prod.map id Placed.lower, fun x => Placed.Safe x.2⟩

instance {α β : Type} [Placed α] [Placed β] : Placed (α ⊕ β) :=
  ⟨Sum.map Placed.lower Placed.lower, Sum.elim Placed.Safe Placed.Safe⟩

/-- The one reading fails as the other does, or they give the same, the other in lower case. -/
inductive Twins {α : Type} [Placed α] : Except Fault α → Except Fault α → Prop
  | error (fault : Fault) : Twins (.error fault) (.error fault)
  | ok {a : α} : Placed.Safe a → Twins (.ok a) (.ok (Placed.lower a))

namespace Twins

section
variable {α β γ : Type} [Placed α] [Placed β] {x x' y y' : Except Fault α}

theorem fail (cause : Cause) (span : Span) :
    Twins (Pattern.fail cause span : Except Fault α) (Pattern.fail cause span) := .error _

theorem eq_ok {a : α} (h : Twins x y) (hx : x = .ok a) : y = .ok (Placed.lower a) := by
  cases h with
  | error fault => cases hx
  | ok hsafe => rw [Except.ok.inj hx]

theorem bind {f g : α → Except Fault β} (h : Twins x y)
    (hfg : ∀ a, Placed.Safe a → Twins (f a) (g (Placed.lower a))) : Twins (x >>= f) (y >>= g) := by
  cases h with
  | error fault => exact .error fault
  | ok hsafe => exact hfg _ hsafe

/-- What is read up to a cursor is the same in both readings, and more may be known of the first one
of them. -/
theorem bind_read_of {x y : Except Fault (γ × Cursor)} {f g : γ × Cursor → Except Fault β}
    (h : Twins x y) (hfg : ∀ c (at' : Cursor), x = .ok (c, at') → at'.Safe →
      Twins (f (c, at')) (g (c, at'.lower))) : Twins (x >>= f) (y >>= g) := by
  cases h with
  | error fault => exact .error fault
  | @ok read hsafe => exact hfg read.1 read.2 rfl hsafe

theorem bind_read {x y : Except Fault (γ × Cursor)} {f g : γ × Cursor → Except Fault β}
    (h : Twins x y) (hfg : ∀ c (at' : Cursor), at'.Safe → Twins (f (c, at')) (g (c, at'.lower))) :
    Twins (x >>= f) (y >>= g) :=
  h.bind_read_of fun c at' _ hsafe => hfg c at' hsafe

/-- Before both readings go on, the same is done in both. -/
theorem bind_left {z : Except Fault γ} {f g : γ → Except Fault β}
    (hfg : ∀ c, Twins (f c) (g c)) : Twins (z >>= f) (z >>= g) := by
  cases z with
  | error fault => exact .error fault
  | ok c => exact hfg c

theorem map {f g : α → β} (h : Twins x y)
    (hfg : ∀ a, Placed.Safe a → Placed.Safe (f a) ∧ g (Placed.lower a) = Placed.lower (f a)) :
    Twins (x.map f) (y.map g) := by
  cases h with
  | error fault => exact .error fault
  | @ok a hsafe =>
    obtain ⟨hf, hg⟩ := hfg a hsafe
    show Twins (.ok (f a)) (.ok (g (Placed.lower a)))
    rw [hg]
    exact .ok hf

theorem ite {p q : Prop} [Decidable p] [Decidable q] (hpq : q ↔ p) (hp : p → Twins x y)
    (hn : ¬p → Twins x' y') : Twins (if p then x else x') (if q then y else y') := by
  by_cases h : p
  · rw [if_pos h, if_pos (hpq.mpr h)]
    exact hp h
  · rw [if_neg h, if_neg (mt hpq.mp h)]
    exact hn h

end

end Twins

end Pattern

end ChoiceTemplate

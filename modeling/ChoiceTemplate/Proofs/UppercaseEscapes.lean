import ChoiceTemplate.Proofs.FoldedClasses

/-
  Escape sequences that lower case changes.

  The `U` of a character code in braces may be put into lower case. No other upper-case letter behind
  a backslash may (`readEscape_lower_ne`). Most such letters are no escape at all. The others are listed
  by `readEscape_of_isUpper`, and in lower case each of them says something else: `\D`, `\S`, `\W` and
  `\P` become their complement, the anchor `\A` becomes a control character, `\B` any of the anchors
  that `\b` begins, and of the eight digits behind `\U` only four are read (`readHexDigits_add`).
-/
namespace ChoiceTemplate.Pattern

open Cursor

section
variable {c : Cursor} {t code : Text} {spaced negated : Bool} {ch : Char} {p p' : Primitive}
  {after after' : Cursor} {start m n : Nat}

theorem bind_eq_ok {α β : Type} {x : Except Fault α} {f : α → Except Fault β} {b : β} :
    (x >>= f) = .ok b ↔ ∃ a, x = .ok a ∧ f a = .ok b := by
  cases x <;> simp [bind, Except.bind]

/-- The first of some digits are read on their own as well, and end further to the left. -/
theorem readHexDigits_add (h : readHexDigits spaced (m + n) c = .ok (code, after)) :
    ∃ first mid, readHexDigits spaced m c = .ok (first, mid) ∧ mid.offset + n ≤ after.offset := by
  induction m generalizing c code with
  | zero =>
    refine ⟨[], c, rfl, ?_⟩
    rw [Nat.zero_add] at h
    induction n generalizing c code with
    | zero =>
      cases h
      exact Nat.le_refl _
    | succ n ih =>
      rw [readHexDigits] at h
      split at h
      · cases h
      · rename_i ch t hrest
        split at h
        · obtain ⟨⟨rest, stop⟩, hread, hok⟩ := bind_eq_ok.mp h
          cases hok
          have hle := ih hread
          have hlt := offset_lt_advance spaced hrest
          omega
        · cases h
  | succ m ih =>
    rw [Nat.add_right_comm, readHexDigits] at h
    rw [readHexDigits]
    split at h
    · cases h
    · rename_i ch t hrest
      split at h
      · rename_i hdigit
        obtain ⟨⟨rest, stop⟩, hread, hok⟩ := bind_eq_ok.mp h
        cases hok
        obtain ⟨first, mid, hfirst, hle⟩ := ih hread
        refine ⟨ch :: first, mid, ?_, hle⟩
        rw [if_pos hdigit, hfirst]
        rfl
      · cases h

theorem span_of_readHex (hbrace : ¬c.isAt '\x7b' = true)
    (h : readHex spaced start n c = .ok (p, after)) :
    p.span = after.since start ∧ ∃ code, readHexDigits spaced n c = .ok (code, after) := by
  rw [readHex, if_neg hbrace] at h
  split at h
  · cases h
  · obtain ⟨⟨code, stop⟩, hread, h⟩ := bind_eq_ok.mp h
    dsimp only at h
    split at h
    · cases h
    · cases h
      exact ⟨rfl, code, hread⟩

theorem negated_of_readProperty (h : readProperty spaced start negated c = .ok (p, after)) :
    ∃ property : PropertyClass, p = .property property ∧ property.negated = negated := by
  rw [readProperty] at h
  split at h
  · cases h
  · split at h
    · dsimp only at h
      split at h
      · cases h
      · cases h
        exact ⟨_, rfl, rfl⟩
    · split at h
      · cases h
      · cases h
        exact ⟨_, rfl, rfl⟩

theorem boundaryNamed?_ne (name : Text) : boundaryNamed? name ≠ some .notWordBoundary := by
  rw [boundaryNamed?]
  split_ifs <;> simp

theorem ne_of_readBoundary (h : readBoundary spaced start c = .ok (p, after)) (span : Span) :
    p ≠ .anchor span .notWordBoundary := by
  rw [readBoundary] at h
  dsimp only at h
  split at h
  · cases h
    simp
  · split at h
    · cases h
    · split at h
      · cases h
        simp
      · split at h
        · cases h
        · split at h
          · cases h
          · rename_i kind hkind
            cases h
            rintro hp
            have hkind' : kind = .notWordBoundary := (Primitive.anchor.inj hp).2
            exact boundaryNamed?_ne _ (hkind' ▸ hkind)

theorem ne_of_isUpper {d : Char} (hch : ch.isUpper = true) (hd : d.isUpper = false) : ch ≠ d := by
  rintro rfl
  rw [hch] at hd
  cases hd

theorem isEscapable_of_isUpper (hch : ch.isUpper = true) : isEscapable ch = false := by
  have hmeta : isMeta ch = false := by
    have hlower : ['\\', '.', '+', '*', '?', '(', ')', '|', '[', ']', '\x7b', '\x7d', '^', '$', '#',
        '&', '-', '~'].all (fun d => !d.isUpper) = true := rfl
    rw [isMeta, List.contains_eq_mem, decide_eq_false_iff_not]
    intro hmem
    have hnot := List.all_eq_true.mp hlower ch hmem
    rw [hch] at hnot
    cases hnot
  have halnum : ch.isAlphanum = true := by
    rw [Char.isAlphanum, Char.isAlpha, hch]
    rfl
  rw [isEscapable, hmeta, halnum]
  simp

theorem not_isDigit_of_isUpper (hch : ch.isUpper = true) : ch.isDigit = false := by
  simp [Char.isUpper, Char.isDigit, UInt32.le_iff_toNat_le] at hch ⊢
  omega

/-- The anchors with an upper-case letter; no control character has one. -/
theorem letterEscape?_of_isUpper (hch : ch.isUpper = true) :
    letterEscape? ch =
      if ch = 'A' then some (.inr .textStart)
      else if ch = 'B' then some (.inr .notWordBoundary)
      else none := by
  by_cases hA : ch = 'A'
  · subst hA
    rfl
  · by_cases hB : ch = 'B'
    · subst hB
      rfl
    · rw [if_neg hA, if_neg hB, letterEscape?.eq_def]
      split <;> first | rfl | contradiction

/-- The escapes with an upper-case letter. -/
theorem readEscape_of_isUpper (hrest : c.rest = '\\' :: ch :: t) (hch : ch.isUpper = true) :
    readEscape spaced c =
      if ch = 'U' then readHex spaced c.offset 8 (c.next.advance spaced)
      else if ch = 'P' then readProperty spaced c.offset true (c.next.advance spaced)
      else
        match letterClass? ch.toLower with
        | some kind => .ok (.letter (c.next.next.since c.offset) true kind, c.next.next)
        | none =>
          if ch = 'A' then .ok (.anchor (c.next.next.since c.offset) .textStart, c.next.next)
          else if ch = 'B' then
            .ok (.anchor (c.next.next.since c.offset) .notWordBoundary, c.next.next)
          else fail .escapeUnrecognized (c.next.next.since c.offset) := by
  have hnext : c.next.rest = ch :: t := by rw [next, hrest]
  have hne : ∀ {d : Char}, d.isUpper = false → ch ≠ d := ne_of_isUpper hch
  rw [readEscape]
  simp only [hnext, not_isDigit_of_isUpper hch, isEscapable_of_isUpper hch,
    letterEscape?_of_isUpper hch, hch, hne (d := 'x') rfl, hne (d := 'u') rfl, hne (d := 'p') rfl,
    hne (d := 'b') rfl, false_or, if_false, Bool.false_eq_true]
  refine if_congr Iff.rfl rfl ?_
  by_cases hP : ch = 'P'
  · simp [hP]
  · rw [if_neg hP, if_neg hP]
    cases letterClass? ch.toLower with
    | some kind => rfl
    | none =>
      dsimp only
      split_ifs <;> rfl

theorem readEscape_of_letterClass {kind : LetterClass} (hrest : c.rest = '\\' :: ch :: t)
    (h : letterClass? ch = some kind) :
    readEscape spaced c =
      .ok (.letter (c.next.next.since c.offset) false kind, c.next.next) := by
  have hnext : c.next.rest = ch :: t := by rw [next, hrest]
  rw [readEscape, hnext]
  rw [letterClass?.eq_def] at h
  split at h <;> cases h <;> rfl

/-- Of a code without braces, four digits are read in lower case and eight as it is written. -/
theorem ne_of_readHex (hsafe : c.Safe) (hbrace : ¬c.isAt '\x7b' = true)
    (h : readHex spaced start 8 c = .ok (p, after))
    (h' : readHex spaced start 4 c.lower = .ok (p', after')) : p' ≠ p := by
  obtain ⟨hspan, code, hcode⟩ := span_of_readHex hbrace h
  obtain ⟨hspan', code', hcode'⟩ := span_of_readHex (by rwa [isAt_lower _ rfl]) h'
  obtain ⟨first, mid, hfirst, hle⟩ := readHexDigits_add (m := 4) (n := 4) hcode
  have hmid : after' = mid.lower := by
    have hfirst' := (twins_readHexDigits hsafe spaced 4).eq_ok hfirst
    exact (Prod.mk.inj (Except.ok.inj (hcode'.symm.trans hfirst'))).2
  rintro rfl
  have hoffset : after'.offset = after.offset := by
    have hsince := hspan'.symm.trans hspan
    simpa [since] using hsince
  rw [hmid, offset_lower] at hoffset
  omega

/-- **No other upper-case letter behind a backslash keeps its meaning.** Where the escape is read as
it is written and in lower case, what is read is not the same: a class or a property becomes its
complement, an anchor a control character or another anchor, and a code of eight digits ends behind
four of them. -/
theorem readEscape_lower_ne (hrest : c.rest = '\\' :: ch :: t) (hch : ch.isUpper = true)
    (hbrace : ¬(ch = 'U' ∧ (c.next.advance spaced).isAt '\x7b' = true)) (hsafe : FoldsFrom false t)
    (h : readEscape spaced c = .ok (p, after))
    (h' : readEscape spaced c.lower = .ok (p', after')) : p' ≠ p := by
  have hnext : c.next.rest = ch :: t := by rw [next, hrest]
  have hinner : (c.next.advance spaced).Safe := by
    refine Safe.skipSpace ?_ spaced
    rwa [Safe, next, hnext]
  have hlower : c.lower.next.rest = ch.toLower :: Text.lowercase t := by
    rw [next_lower, rest_lower, hnext, Text.lowercase_cons]
  rw [readEscape_of_isUpper hrest hch] at h
  by_cases hU : ch = 'U'
  · subst hU
    rw [if_pos rfl] at h
    have h' : readHex spaced c.offset 4 (c.next.advance spaced).lower = .ok (p', after') := by
      rwa [readEscape, hlower, next_lower, advance_lower] at h'
    exact ne_of_readHex hinner (fun hat => hbrace ⟨rfl, hat⟩) h h'
  rw [if_neg hU] at h
  by_cases hP : ch = 'P'
  · subst hP
    rw [readEscape, hlower] at h'
    obtain ⟨property, rfl, hnegated⟩ := negated_of_readProperty h
    obtain ⟨property', rfl, hnegated'⟩ := negated_of_readProperty h'
    rintro heq
    rw [Primitive.property.inj heq, hnegated] at hnegated'
    cases hnegated'
  rw [if_neg hP] at h
  cases hkind : letterClass? ch.toLower with
  | some kind =>
    rw [hkind] at h
    cases h
    have hrestLower : c.lower.rest = '\\' :: ch.toLower :: Text.lowercase t := by
      rw [rest_lower, hrest]
      rfl
    rw [readEscape_of_letterClass hrestLower hkind] at h'
    cases h'
    simp
  | none =>
    rw [hkind] at h
    dsimp only at h
    by_cases hA : ch = 'A'
    · subst hA
      rw [readEscape, hlower] at h'
      cases h
      cases h'
      simp
    · by_cases hB : ch = 'B'
      · subst hB
        rw [readEscape, hlower] at h'
        cases h
        exact ne_of_readBoundary h' _
      · rw [if_neg hA, if_neg hB] at h
        cases h

end
end ChoiceTemplate.Pattern

import ChoiceTemplate.Pattern.Basic
import ChoiceTemplate.Proofs.FoldedClasses

/-
  Patterns in lower case.

  The remaining readers, those of operators and of openings of groups, go alike at a safe cursor and in
  lower case too. So does each step through a pattern (`ReadState.twins_stepAt`), which leaves a safe
  cursor behind, and by induction the whole reading (`ReadState.run_lower`). Hence a text whose
  upper-case letters all open character codes in braces is the same pattern in lower case
  (`analyze_lowercase`).
-/
namespace ChoiceTemplate.Pattern

open Cursor

/-! ## Repetition -/

section
variable {c : Cursor}

theorem foldsFrom_dropWhile {t : Text} (h : FoldsFrom false t) :
    FoldsFrom false (t.dropWhile Text.isBlankChar) := by
  induction t with
  | nil => exact h
  | cons ch t ih =>
    rw [List.dropWhile_cons]
    split
    · rename_i hblank
      refine ih (h.tail_of_ne ?_)
      rintro rfl
      exact absurd hblank (by decide)
    · exact h

theorem readDecimal_lower (h : c.Safe) (spaced : Bool) :
    readDecimal spaced c.lower = Prod.map id lower (readDecimal spaced c) ∧
      (readDecimal spaced c).2.Safe := by
  obtain ⟨hblanks, hrest⟩ := span_isBlankChar_lower c.rest
  have hlength : (c.lower.rest.takeWhile Text.isBlankChar).length =
      (c.rest.takeWhile Text.isBlankChar).length := by
    rw [rest_lower, hblanks, Text.lowercase, List.length_map]
  have hstart : Cursor.Safe ⟨c.offset + (c.rest.takeWhile Text.isBlankChar).length,
      c.rest.dropWhile Text.isBlankChar⟩ := foldsFrom_dropWhile h
  obtain ⟨digits, stop, hdigits, hdigitsLower, hstop⟩ := hstart.collectAll Char.isDigit rfl spaced
  obtain ⟨blanks, after, hafter, hafterLower, hsafe⟩ :=
    hstop.collectAll Text.isBlankChar rfl spaced
  rw [readDecimal, readDecimal]
  dsimp only
  rw [hlength, rest_lower, hrest, offset_lower, ← lower_mk, hdigits, hdigitsLower]
  dsimp only
  rw [hafter, hafterLower]
  dsimp only
  split
  · exact ⟨rfl, hsafe⟩
  · split <;> exact ⟨rfl, hsafe⟩

theorem readLazy_lower (h : c.Safe) :
    readLazy c.lower = Prod.map id lower (readLazy c) ∧ (readLazy c).2.Safe := by
  rw [readLazy, readLazy, isAt_lower c rfl, next_lower]
  split
  · rename_i hat
    exact ⟨rfl, h.next_of_isAt hat (by decide)⟩
  · exact ⟨rfl, h⟩

theorem twins_readCount (h : c.Safe) (hat : c.isAt '\x7b' = true) (spaced : Bool) :
    Twins (readCount spaced c) (readCount spaced c.lower) := by
  have hinner := h.advance_of_isAt hat (by decide) spaced
  obtain ⟨hleast, hstop⟩ := readDecimal_lower hinner spaced
  rw [readCount, readCount]
  dsimp only
  rw [advance_lower, hleast]
  generalize readDecimal spaced (c.advance spaced) = read at hstop ⊢
  obtain ⟨least, stop⟩ := read
  refine .ite (by rw [atEnd_lower]) (fun _ => .fail _ _) fun _ => ?_
  refine .ite (by rw [Prod.map_snd, atEnd_lower]) (fun _ => .fail _ _) fun _ => ?_
  refine .ite (by rw [Prod.map_snd, isAt_lower _ rfl]) (fun hcomma => ?_) fun _ => ?_
  · have hsecond := hstop.advance_of_isAt hcomma (by decide) spaced
    obtain ⟨hmost, hend⟩ := readDecimal_lower hsecond spaced
    rw [Prod.map_snd, advance_lower, hmost]
    generalize readDecimal spaced (stop.advance spaced) = read at hend ⊢
    obtain ⟨most, last⟩ := read
    refine .ite (by rw [atEnd_lower]) (fun _ => .fail _ _) fun _ => ?_
    refine .ite (by rw [isAt_lower _ rfl]) (fun _ => ?_) fun _ => ?_
    · exact .bind_left fun least => .ok hsecond
    · exact .bind_left fun least => .bind_left fun most => .ok hend
  · exact .bind_left fun least => .ok hstop

theorem twins_readBraces (h : c.Safe) (hat : c.isAt '\x7b' = true) (spaced : Bool) :
    Twins (readBraces spaced c) (readBraces spaced c.lower) := by
  rw [readBraces, readBraces]
  refine .bind_read (twins_readCount h hat spaced) fun count close hclose => ?_
  dsimp only
  refine .ite (by rw [isAt_lower close rfl]) (fun _ => .fail _ _) fun hbrace => ?_
  have hend : close.isAt '\x7d' = true := by simpa using hbrace
  obtain ⟨hlazy, hafter⟩ := readLazy_lower (hclose.advance_of_isAt hend (by decide) spaced)
  rw [advance_lower, hlazy]
  generalize readLazy (close.advance spaced) = read at hafter ⊢
  obtain ⟨greedy, after⟩ := read
  exact .ite Iff.rfl (fun _ => .ok hafter) fun _ => .fail _ _

/-- An operator begins with one of four characters. -/
theorem twins_readOperator (h : c.Safe) {op : Char} (hop : op ∈ ['?', '*', '+', '\x7b'])
    (hat : c.isAt op = true) (spaced : Bool) :
    Twins (readOperator spaced c) (readOperator spaced c.lower) := by
  obtain ⟨t, hrest⟩ := isAt_iff.mp hat
  rw [readOperator, readOperator, h.rest_lower_cons hrest, hrest]
  rw [List.head?_cons, List.head?_cons, Option.bind_some]
  cases hcount : simpleCount? op with
  | some count =>
    have hne : op ≠ '\\' := by
      rintro rfl
      cases hcount
    obtain ⟨hlazy, hafter⟩ := readLazy_lower (h.next_of_rest hrest hne)
    rw [next_lower]
    dsimp only
    rw [hlazy]
    exact .ok hafter
  | none =>
    simp only [List.mem_cons, List.not_mem_nil, or_false] at hop
    rcases hop with rfl | rfl | rfl | rfl
    · cases hcount
    · cases hcount
    · cases hcount
    · exact twins_readBraces h hat spaced

end

/-! ## Groups -/

section
variable {c : Cursor} {t : Text}

theorem twins_readNameFrom (h : FoldsFrom false t) (atStart : Bool) (offset : Nat) :
    Twins (readNameFrom atStart offset t) (readNameFrom atStart offset (Text.lowercase t)) := by
  induction t generalizing atStart offset with
  | nil => exact .fail _ _
  | cons ch t ih =>
    have hlower : Cursor.mk offset (ch :: Text.lowercase t) = lower ⟨offset, ch :: t⟩ := by
      rw [lower_mk, Text.lowercase_cons, h.toLower_head]
    rw [Text.lowercase_cons, h.toLower_head, readNameFrom, readNameFrom, hlower]
    refine .ite Iff.rfl (fun _ => .ok h) fun _ => ?_
    refine .ite Iff.rfl (fun hch => ?_) fun _ => .fail _ _
    have hne : ch ≠ '\\' := by
      rintro rfl
      cases atStart <;> exact absurd hch (by decide)
    exact (ih (h.tail_of_ne hne) false (offset + 1)).map fun _ hsafe => ⟨hsafe, rfl⟩

theorem isAt_of_readNameFrom {atStart : Bool} {offset : Nat} {name : Text} {close : Cursor}
    (h : readNameFrom atStart offset t = .ok (name, close)) : close.isAt '>' = true := by
  induction t generalizing atStart offset name with
  | nil => cases h
  | cons ch t ih =>
    rw [readNameFrom] at h
    split at h
    · rename_i hch
      cases h
      exact isAt_iff.mpr ⟨t, by rw [hch]⟩
    · split at h
      · cases hread : readNameFrom false (offset + 1) t with
        | error fault =>
          rw [hread] at h
          cases h
        | ok read =>
          rw [hread] at h
          cases h
          exact ih hread
      · cases h

theorem twins_readName (h : c.Safe) (names : GroupNames) :
    Twins (readName names c) (readName names c.lower) := by
  rw [readName, readName]
  refine .bind_read_of (twins_readNameFrom h true c.offset) fun name close hread hclose => ?_
  dsimp only
  refine .ite Iff.rfl (fun _ => .fail _ _) fun _ => ?_
  rw [since_lower, offset_lower]
  cases names.find? fun known => known.1 == name with
  | some earlier => exact .error _
  | none =>
    rw [next_lower]
    exact .ok (hclose.next_of_isAt (isAt_of_readNameFrom hread) (by decide))

theorem twins_readFlagItems (h : FoldsFrom false t) (items : FlagItems) (offset : Nat) :
    Twins (readFlagItems items offset t) (readFlagItems items offset (Text.lowercase t)) := by
  induction t generalizing items offset with
  | nil => exact .fail _ _
  | cons ch t ih =>
    have hlower : Cursor.mk offset (ch :: Text.lowercase t) = lower ⟨offset, ch :: t⟩ := by
      rw [lower_mk, Text.lowercase_cons, h.toLower_head]
    rw [Text.lowercase_cons, h.toLower_head]
    unfold readFlagItems
    rw [hlower]
    refine .ite Iff.rfl (fun _ => ?_) fun _ => ?_
    · cases items with
      | nil => exact .ok h
      | cons item rest =>
        obtain ⟨flag, span⟩ := item
        cases flag with
        | none => exact .fail _ _
        | some flag => exact .ok h
    refine .ite Iff.rfl (fun _ => .fail _ _) fun hflag => ?_
    cases items.find? fun known => known.1 == flag? ch with
    | some earlier => exact .error _
    | none =>
      have hne : ch ≠ '\\' := by
        rintro rfl
        exact hflag ⟨rfl, by decide⟩
      exact ih (h.tail_of_ne hne) _ _

theorem not_isAt_of_readFlagItems {items read : FlagItems} {offset : Nat} {close : Cursor}
    (h : readFlagItems items offset t = .ok (read, close)) : ¬close.isAt '\\' = true := by
  induction t generalizing items offset with
  | nil => cases h
  | cons ch t ih =>
    unfold readFlagItems at h
    dsimp only at h
    split at h
    · rename_i hch
      have hclose : close = ⟨offset, ch :: t⟩ := by
        split at h
        · cases h
        · cases h
          rfl
      rintro hat
      obtain ⟨u, hrest⟩ := isAt_iff.mp hat
      rw [hclose] at hrest
      obtain ⟨rfl, -⟩ := List.cons.inj hrest
      exact absurd hch (by decide)
    · split at h
      · cases h
      · split at h
        · cases h
        · exact ih h

theorem Cursor.Safe.findSome?_after? (h : c.Safe) {texts : List Text}
    (htexts : ∀ text ∈ texts, '\\' ∉ text) :
    texts.findSome? c.lower.after? = (texts.findSome? c.after?).map lower ∧
      ∀ after, texts.findSome? c.after? = some after → after.Safe := by
  induction texts with
  | nil => exact ⟨rfl, fun _ h => by cases h⟩
  | cons text texts ih =>
    obtain ⟨htext, htexts⟩ := List.forall_mem_cons.mp htexts
    rw [List.findSome?_cons, List.findSome?_cons, h.after?_lower htext]
    cases hafter : c.after? text with
    | none => exact ih htexts
    | some after =>
      refine ⟨rfl, fun after' h' => ?_⟩
      cases h'
      exact h.after? htext hafter

theorem twins_readOpening (h : c.Safe) (hat : c.isAt '(' = true) (spaced : Bool)
    (names : GroupNames) :
    Twins (readOpening spaced names c) (readOpening spaced names c.lower) := by
  have hinner := h.advance_of_isAt hat (by decide) spaced
  obtain ⟨hlook, -⟩ := hinner.findSome?_after?
    (show ∀ text ∈ [['?', '='], ['?', '!'], ['?', '<', '='], ['?', '<', '!']], '\\' ∉ text by decide)
  obtain ⟨hnamed, hnamedSafe⟩ := hinner.findSome?_after?
    (show ∀ text ∈ [['?', 'P', '<'], ['?', '<']], '\\' ∉ text by decide)
  rw [readOpening, readOpening]
  dsimp only
  rw [advance_lower, hlook, hnamed, hinner.after?_lower (by decide)]
  cases [['?', '='], ['?', '!'], ['?', '<', '='], ['?', '<', '!']].findSome?
      (c.advance spaced).after? with
  | some after => exact .fail _ _
  | none =>
    cases hname : [['?', 'P', '<'], ['?', '<']].findSome? (c.advance spaced).after? with
    | some after =>
      exact .bind_read (twins_readName (hnamedSafe after hname) names) fun _ _ hsafe => .ok hsafe
    | none =>
      cases hflags : (c.advance spaced).after? ['?'] with
      | none => exact .ok hinner
      | some after =>
        have hafter : after.Safe := hinner.after? (by decide) hflags
        rw [here_lower]
        refine .ite (by rw [atEnd_lower]) (fun _ => .fail _ _) fun _ => ?_
        refine .bind_read_of (twins_readFlagItems hafter [] after.offset)
          fun items close hread hclose => ?_
        have hnext := hclose.next (not_isAt_of_readFlagItems hread)
        dsimp only
        rw [next_lower]
        refine .ite (by rw [isAt_lower close rfl]) (fun _ => .ok hnext) fun _ => ?_
        exact .ite Iff.rfl (fun _ => .fail _ _) fun _ => .ok hnext

end

/-! ## The whole text -/

namespace ReadState

/-- The state at the same place of the text in lower case. -/
def lower (s : ReadState) : ReadState := { s with cursor := s.cursor.lower }

instance : Placed ReadState := ⟨lower, fun s => s.cursor.Safe⟩

section
variable {s : ReadState}

theorem closeAlternatives_lower (s : ReadState) : s.lower.closeAlternatives = s.closeAlternatives :=
  rfl

theorem twins_openGroup (h : s.cursor.Safe) (hat : s.cursor.isAt '(' = true) :
    Twins s.openGroup s.lower.openGroup := by
  rw [openGroup, openGroup]
  refine .bind (twins_readOpening h hat s.spaced s.names) fun ⟨opening, names, after⟩ hafter => ?_
  cases opening with
  | flags changes => exact .ok hafter
  | group captures changes =>
    dsimp only [lower]
    rw [here_lower]
    exact .ok hafter

theorem twins_closeGroup (h : s.cursor.Safe) (hat : s.cursor.isAt ')' = true) :
    Twins s.closeGroup s.lower.closeGroup := by
  have hafter := h.next_of_isAt hat (by decide)
  rw [closeGroup, closeGroup, closeAlternatives_lower]
  dsimp only [lower]
  rw [next_lower, here_lower]
  obtain ⟨body, stack⟩ := s.closeAlternatives
  cases stack with
  | nil => exact .fail _ _
  | cons frame stack =>
    cases frame with
    | group before offset spaced opening captures changes => exact .ok hafter
    | alternatives parts offset => exact .fail _ _

theorem twins_bar (h : s.cursor.Safe) (hat : s.cursor.isAt '|' = true) :
    Twins (.ok s.bar) (.ok s.lower.bar) := by
  have hafter := h.next_of_isAt hat (by decide)
  have hlower : s.lower.bar = s.bar.lower := by
    simp [bar, lower, sequence]
  rw [hlower]
  exact .ok hafter

theorem twins_repeatLast (h : s.cursor.Safe) {op : Char} (hop : op ∈ ['?', '*', '+', '\x7b'])
    (hat : s.cursor.isAt op = true) : Twins s.repeatLast s.lower.repeatLast := by
  rw [repeatLast.eq_def, repeatLast.eq_def]
  dsimp only [lower]
  split
  · exact .fail _ _
  · exact .fail _ _
  · exact .fail _ _
  · refine .bind (twins_readOperator h hop hat s.spaced) fun ⟨count, greedy, after⟩ hafter => ?_
    exact .ok hafter

theorem twins_readPrimitive (h : s.cursor.Safe) {c : Char} {t : Text}
    (hrest : s.cursor.rest = c :: t) : Twins (s.readPrimitive c) (s.lower.readPrimitive c) := by
  have hnext : c ≠ '\\' → s.cursor.next.Safe := h.next_of_rest hrest
  rw [readPrimitive.eq_def, readPrimitive.eq_def]
  dsimp only [lower]
  rw [here_lower, next_lower]
  split
  · exact twins_readEscape h hrest s.spaced
  · exact .ok (hnext (by decide))
  · exact .ok (hnext (by decide))
  · exact .ok (hnext (by decide))
  · rename_i hne _ _ _
    exact .ok (hnext hne)

theorem twins_stepAt (h : s.cursor.Safe) {c : Char} {t : Text} (hrest : s.cursor.rest = c :: t) :
    Twins (s.stepAt c) (s.lower.stepAt c) := by
  have hat : s.cursor.isAt c = true := isAt_iff.mpr ⟨t, hrest⟩
  rw [stepAt.eq_def, stepAt.eq_def]
  split
  · exact twins_openGroup h hat
  · exact twins_closeGroup h hat
  · exact twins_bar h hat
  · exact (twins_readClass h hat s.spaced).map fun _ hsafe => ⟨hsafe, rfl⟩
  · exact twins_repeatLast h (by decide) hat
  · exact twins_repeatLast h (by decide) hat
  · exact twins_repeatLast h (by decide) hat
  · exact twins_repeatLast h (by decide) hat
  · exact (twins_readPrimitive h hrest).map fun _ hsafe => ⟨hsafe, rfl⟩

theorem finish_lower (s : ReadState) : s.lower.finish = s.finish := by
  rw [finish, finish, closeAlternatives_lower]

/-- Each step goes alike, and what the last one leaves is the same pattern. -/
theorem run_lower (h : s.cursor.Safe) (count : Nat) : s.lower.run count = s.run count := by
  induction count generalizing s with
  | zero => exact finish_lower s
  | succ count ih =>
    have hsafe := h.skipSpace s.spaced
    rw [run, run]
    dsimp only [lower]
    rw [skipSpace_lower]
    cases hrest : (s.cursor.skipSpace s.spaced).rest with
    | nil =>
      rw [rest_lower, hrest]
      exact finish_lower { s with cursor := s.cursor.skipSpace s.spaced }
    | cons c t =>
      rw [hsafe.rest_lower_cons hrest]
      have hstep := @twins_stepAt { s with cursor := s.cursor.skipSpace s.spaced } hsafe c t hrest
      dsimp only [lower] at hstep ⊢
      generalize stepAt _ c = x at hstep ⊢
      generalize stepAt _ c = y at hstep ⊢
      cases hstep with
      | error fault => rfl
      | ok hs => exact ih hs

end

end ReadState

/-- **Putting a pattern into lower case changes nothing** where each of its upper-case letters opens
a character code in braces. -/
theorem analyze_lowercase {source : Text} (h : FoldsFrom false source) :
    analyze (Text.lowercase source) = analyze source := by
  have hlength : (Text.lowercase source).length = source.length := List.length_map ..
  have hrun : ∀ count, (ReadState.start (Text.lowercase source)).run count =
      (ReadState.start source).run count := fun count =>
    @ReadState.run_lower (ReadState.start source) h count
  rw [analyze, analyze, read, read, hlength, hrun]

end ChoiceTemplate.Pattern

import ChoiceTemplate.Pattern.Bracket
import ChoiceTemplate.Proofs.FoldedCursor

/-
  Escape sequences and character classes in lower case.

  Read at a safe cursor, an escape sequence and a character class go as they do in lower case
  (`twins_readEscape`, `twins_readClass`). Each reader is followed through its branches: what it tests
  is no letter, or is a letter in lower case already, so the tests have the same outcome; what it fails
  with points at the same place; and where it ends, the cursor is safe again. Three places need more:

    1. behind a backslash the `U` becomes a `u`, which expects another number of digits, but not in
       front of a brace (`readHex_of_brace`);
    2. the name of a Unicode property may hold anything, but it is matched without case
       (`propertyQuery_lowercase`);
    3. the name of an ASCII class may hold anything as well, but a backslash is in no known name
       (`namedClass_of_backslash`), and without backslashes it is in lower case already.
-/
namespace ChoiceTemplate.Pattern

open Cursor

/-! ## Escape sequences -/

section
variable {c : Cursor} {t : Text}

theorem twins_readHexDigits (h : c.Safe) (spaced : Bool) (count : Nat) :
    Twins (readHexDigits spaced count c) (readHexDigits spaced count c.lower) := by
  induction count generalizing c with
  | zero => exact .ok h
  | succ count ih =>
    rw [readHexDigits, readHexDigits]
    cases hrest : c.rest with
    | nil =>
      rw [rest_lower, hrest]
      exact .fail _ _
    | cons ch t =>
      rw [h.rest_lower_cons hrest]
      refine .ite Iff.rfl (fun hch => ?_) (fun _ => ?_)
      · have hne : ch ≠ '\\' := by
          rintro rfl
          cases hch
        rw [advance_lower]
        exact .bind (ih (h.advance_of_rest hrest hne spaced)) fun _ hsafe => .ok hsafe
      · rw [here_lower]
        exact .fail _ _

/-- Braces hold a character code by themselves, whatever number of digits is expected otherwise. -/
theorem readHex_of_brace (hbrace : c.isAt '\x7b' = true) (spaced : Bool) (start m n : Nat) :
    readHex spaced start m c = readHex spaced start n c := by
  obtain ⟨t, hrest⟩ := isAt_iff.mp hbrace
  have hend : c.atEnd = false := by rw [atEnd, hrest]; rfl
  simp [readHex, hend, hbrace]

theorem twins_readHex (h : c.Safe) (spaced : Bool) (start digits : Nat) :
    Twins (readHex spaced start digits c) (readHex spaced start digits c.lower) := by
  rw [readHex, readHex]
  refine .ite (by rw [atEnd_lower]) (fun _ => .fail _ _) fun _ => ?_
  refine .ite (by rw [isAt_lower c rfl]) (fun hbrace => ?_) fun _ => ?_
  · have hinner := h.advance_of_isAt hbrace (by decide) spaced
    obtain ⟨code, close, hcollect, hlower, hclose⟩ :=
      hinner.collectAll (fun ch => (hexValue? ch).isSome) rfl spaced
    rw [advance_lower, hcollect, hlower]
    refine .ite (by rw [atEnd_lower]) (fun _ => .fail _ _) fun _ => ?_
    refine .ite (by rw [isAt_lower close rfl]) (fun _ => ?_) fun hat => ?_
    · rw [here_lower]
      exact .fail _ _
    · have hafter := hclose.advance_of_isAt (by simpa using hat) (by decide) spaced
      rw [advance_lower]
      refine .ite Iff.rfl (fun _ => .fail _ _) fun _ => ?_
      cases charOfCode? (hexValue code) with
      | none => exact .fail _ _
      | some ch => exact .ok hafter
  · refine .bind_read (twins_readHexDigits h spaced digits) fun code after hafter => ?_
    dsimp only
    cases charOfCode? (hexValue code) with
    | none => exact .fail _ _
    | some ch => exact .ok hafter

theorem isNamePart_toLower (c : Char) : isNamePart c.toLower = isNamePart c := by
  have hascii : ∀ {d : Char}, d.isAlpha = true → d.toNat < 128 := by
    intro d hd
    simp [Char.isAlpha, Char.isUpper, Char.isLower, UInt32.le_iff_toNat_le] at hd ⊢
    omega
  by_cases hu : c.isUpper = true
  · have hc : c.isAlpha = true := by simp [Char.isAlpha, hu]
    have hlower : c.toLower.isAlpha = true := by rwa [Char.isAlpha_toLower_eq_isAlpha]
    have hother : ∀ d : Char, d.isAlpha = false → (c.toLower ≠ d ↔ c ≠ d) := fun d hd =>
      (Text.toLower_eq_iff hd).not
    simp only [isNamePart, hascii hc, hascii hlower, hother ' ' rfl, hother '-' rfl, hother '_' rfl]
  · rw [Char.toLower_eq_of_not_isUpper hu]

theorem plainName_lowercase (name : Text) : plainName (Text.lowercase name) = plainName name := by
  have hpart : isNamePart ∘ Char.toLower = isNamePart := funext isNamePart_toLower
  have hfilter : (Text.lowercase name).filter isNamePart =
      Text.lowercase (name.filter isNamePart) := by
    rw [Text.lowercase, List.filter_map, hpart, Text.lowercase]
  rw [plainName, plainName, hfilter, Text.lowercase_lowercase]

/-- Loose names are without case. -/
theorem looseName_lowercase (name : Text) : looseName (Text.lowercase name) = looseName name := by
  have htake : Text.lowercase ((Text.lowercase name).take 2) = Text.lowercase (name.take 2) := by
    rw [Text.lowercase, Text.lowercase, ← List.map_take]
    exact Text.lowercase_lowercase _
  have hdrop : plainName ((Text.lowercase name).drop 2) = plainName (name.drop 2) := by
    rw [Text.lowercase, ← List.map_drop]
    exact plainName_lowercase _
  rw [looseName, looseName, htake, hdrop, plainName_lowercase]

theorem propertyQuery_lowercase (text : Text) :
    propertyQuery (Text.lowercase text) = propertyQuery text := by
  have hseparator : ∀ c ∈ ['!', '='], c.isAlpha = false :=
    List.forall_mem_cons.mpr ⟨rfl, List.forall_mem_singleton.mpr rfl⟩
  have hunequal := Text.splitAt?_lowercase hseparator text
  have hcolon := Text.splitOnce_lowercase (show ':'.isAlpha = false from rfl) text
  have hequals := Text.splitOnce_lowercase (show '='.isAlpha = false from rfl) text
  have hcut : (Text.splitAt? ['!', '='] (Text.lowercase text)).or
        ((Text.splitOnce ':' (Text.lowercase text)).or (Text.splitOnce '=' (Text.lowercase text))) =
      ((Text.splitAt? ['!', '='] text).or
        ((Text.splitOnce ':' text).or (Text.splitOnce '=' text))).map
        (Prod.map Text.lowercase Text.lowercase) := by
    rw [hunequal, hcolon, hequals, Option.map_or, Option.map_or]
  rw [propertyQuery, propertyQuery, hcut]
  cases (Text.splitAt? ['!', '='] text).or
      ((Text.splitOnce ':' text).or (Text.splitOnce '=' text)) with
  | none => simp [looseName_lowercase]
  | some cut => simp [looseName_lowercase]

theorem twins_readProperty (h : c.Safe) (spaced : Bool) (start : Nat) (negated : Bool) :
    Twins (readProperty spaced start negated c) (readProperty spaced start negated c.lower) := by
  rw [readProperty, readProperty]
  cases hrest : c.rest with
  | nil =>
    rw [rest_lower, hrest]
    exact .fail _ _
  | cons ch t =>
    rw [h.rest_lower_cons hrest]
    refine .ite Iff.rfl (fun hbrace => ?_) fun _ => .ite Iff.rfl (fun _ => ?_) fun hne => ?_
    · -- A name may hold backslashes, but the brace that ends it leaves nothing escaped.
      have hinner : (c.advance spaced).Safe :=
        h.advance_of_rest hrest (hbrace ▸ by decide) spaced
      have hafter := hinner.next_collectAll '\x7d' (by decide) spaced
      rw [advance_lower, collectAll_lower rfl]
      generalize (c.advance spaced).collectAll spaced (· ≠ '\x7d') = collected at hafter ⊢
      obtain ⟨text, close⟩ := collected
      dsimp only [Prod.map_apply]
      rw [propertyQuery_lowercase, next_lower]
      exact .ite (by rw [atEnd_lower]) (fun _ => .fail _ _) fun _ => .ok hafter
    · rw [here_lower]
      exact .fail _ _
    · rw [advance_lower]
      exact .ok (h.advance_of_rest hrest hne spaced)

theorem twins_readBoundary (h : c.Safe) (spaced : Bool) (start : Nat) :
    Twins (readBoundary spaced start c) (readBoundary spaced start c.lower) := by
  rw [readBoundary, readBoundary]
  refine .ite (by rw [isAt_lower c rfl]) (fun _ => .ok h) fun hat => ?_
  have hinner := h.advance_of_isAt (by simpa using hat) (by decide) spaced
  dsimp only
  rw [advance_lower]
  cases hrest' : (c.advance spaced).rest with
  | nil =>
    rw [rest_lower, hrest']
    exact .fail _ _
  | cons ch u =>
    obtain ⟨name, close, hcollect, hlower, hclose⟩ := hinner.collectAll isBoundaryChar rfl spaced
    rw [hinner.rest_lower_cons hrest', hcollect, hlower]
    refine .ite Iff.rfl (fun _ => .ok h) fun _ => ?_
    refine .ite (by rw [isAt_lower close rfl]) (fun _ => .fail _ _) fun hat => ?_
    have hafter := hclose.next_of_isAt (by simpa using hat) (by decide)
    cases boundaryNamed? name with
    | none => exact .fail _ _
    | some kind =>
      rw [next_lower]
      exact .ok hafter

/-- The one upper-case letter after a backslash is the `U` of a character code in braces, and that
is read like a `u`. -/
theorem twins_readEscape (h : c.Safe) (hrest : c.rest = '\\' :: t) (spaced : Bool) :
    Twins (readEscape spaced c) (readEscape spaced c.lower) := by
  have hsafe : FoldsFrom true t := by
    rw [Safe, hrest] at h
    exact h.tail
  have hnext : c.next.rest = t := by rw [next, hrest]
  rw [readEscape, readEscape]
  dsimp only
  rw [next_lower, rest_lower, hnext]
  cases t with
  | nil => exact .fail _ _
  | cons ch u =>
    have hafter : c.next.next.Safe := by
      rw [Safe, next, hnext]
      exact hsafe.tail_escaped
    have hinner : (c.next.advance spaced).Safe := hafter.skipSpace spaced
    rw [Text.lowercase_cons]
    dsimp only
    by_cases hu : ch.isUpper = true
    · obtain ⟨-, rfl, hbrace⟩ := (foldsFrom_cons.mp hsafe).1 hu
      obtain ⟨v, rfl⟩ := List.head?_eq_some_iff.mp hbrace
      have hat : (c.next.advance spaced).isAt '\x7b' = true := by
        rw [advance, skipSpace, next, hnext]
        cases spaced <;> rfl
      have hcode := twins_readHex hinner spaced c.offset 4
      rw [readHex_of_brace hat spaced c.offset 4 8, ← advance_lower] at hcode
      exact hcode
    · simp only [Char.toLower_eq_of_not_isUpper hu, next_lower, advance_lower]
      refine .ite Iff.rfl (fun _ => .fail _ _) fun _ => ?_
      refine .ite Iff.rfl (fun _ => twins_readHex hinner _ _ _) fun _ => ?_
      refine .ite Iff.rfl (fun _ => twins_readHex hinner _ _ _) fun _ => ?_
      refine .ite Iff.rfl (fun _ => twins_readHex hinner _ _ _) fun _ => ?_
      refine .ite Iff.rfl (fun _ => twins_readProperty hinner _ _ _) fun _ => ?_
      refine .ite Iff.rfl (fun _ => twins_readBoundary hafter _ _) fun _ => ?_
      refine .ite Iff.rfl (fun _ => .ok hafter) fun _ => ?_
      cases letterClass? ch with
      | some kind => exact .ok hafter
      | none =>
        cases letterEscape? ch with
        | none => exact .fail _ _
        | some meaning =>
          cases meaning with
          | inl control => exact .ok hafter
          | inr kind => exact .ok hafter

end

/-! ## Character classes -/

namespace ClassState

/-- The state at the same place of the text in lower case. -/
def lower (s : ClassState) : ClassState := { s with cursor := s.cursor.lower }

instance : Placed ClassState := ⟨lower, fun s => s.cursor.Safe⟩

section
variable {c : Cursor} {s : ClassState}

theorem twins_unclosed {α : Type} [Placed α] (stack : List ClassFrame) :
    Twins (unclosed stack : Except Fault α) (unclosed stack) := by
  induction stack with
  | nil => exact .fail _ _
  | cons frame stack ih =>
    cases frame with
    | opened before offset span negated => exact .fail _ _
    | pending kind left => exact ih

theorem twins_readHyphens (h : c.Safe) (spaced : Bool) (start count : Nat) :
    Twins (readHyphens spaced start count c) (readHyphens spaced start count c.lower) := by
  induction count generalizing c with
  | zero => exact .ok h
  | succ count ih =>
    rw [readHyphens, readHyphens]
    refine .ite (by rw [isAt_lower c rfl]) (fun hat => ?_) fun _ => .ok h
    have hafter := h.advance_of_isAt hat (by decide) spaced
    rw [advance_lower, here_lower]
    refine .ite (by rw [atEnd_lower]) (fun _ => .fail _ _) fun _ => ?_
    exact .bind_read (ih hafter) fun hyphens c' hsafe => .ok hsafe

theorem twins_openClass (h : c.Safe) (hat : c.isAt '[' = true) (spaced : Bool)
    (before : List ClassSet) (offset : Nat) (stack : List ClassFrame) :
    Twins (openClass spaced before offset stack c) (openClass spaced before offset stack c.lower) := by
  have hopened := h.advance_of_isAt hat (by decide) spaced
  rw [openClass, openClass]
  dsimp only
  rw [advance_lower, isAt_lower _ rfl, advance_lower, ← apply_ite Cursor.lower]
  refine .ite (by rw [atEnd_lower]) (fun _ => .fail _ _) fun _ => ?_
  have hinner : (if (c.advance spaced).isAt '^' = true then (c.advance spaced).advance spaced
      else c.advance spaced).Safe := by
    split
    · rename_i hcaret
      exact hopened.advance_of_isAt hcaret (by decide) spaced
    · exact hopened
  generalize (if (c.advance spaced).isAt '^' = true then (c.advance spaced).advance spaced
      else c.advance spaced) = inner at hinner ⊢
  refine .ite (by rw [atEnd_lower]) (fun _ => .fail _ _) fun _ => ?_
  have hlength : inner.lower.rest.length = inner.rest.length := List.length_map ..
  rw [hlength]
  refine .bind_read (twins_readHyphens hinner spaced _ _) fun hyphens c' hc' => ?_
  dsimp only
  refine .ite (by rw [isAt_lower c' rfl]) (fun hbracket => ?_) fun _ => .ok hc'
  have hafter := hc'.advance_of_isAt (Bool.and_eq_true_iff.mp hbracket).2 (by decide) spaced
  rw [advance_lower, here_lower]
  exact .ite (by rw [atEnd_lower]) (fun _ => .fail _ _) fun _ => .ok hafter

theorem twins_closeClass (h : s.cursor.Safe) (hat : s.cursor.isAt ']' = true) :
    Twins (closeClass s) (closeClass s.lower) := by
  have hafter := h.next_of_isAt hat (by decide)
  rw [closeClass, closeClass]
  dsimp only [lower]
  rw [next_lower]
  obtain ⟨set, stack⟩ := applyPending (.ofList s.offset s.parts.reverse) s.stack
  cases stack with
  | nil => exact twins_unclosed []
  | cons frame rest =>
    cases frame with
    | opened before offset span negated =>
      exact .ite Iff.rfl (fun _ => .ok hafter) fun _ => .ok hafter
    | pending kind left => exact twins_unclosed _

theorem take_two_iff {t : Text} {op : Char} : t.take 2 = [op, op] ↔ ∃ u, t = op :: op :: u := by
  match t with
  | [] => simp
  | [d] => simp
  | d :: e :: t => simp

theorem twins_pushOp (h : s.cursor.Safe) {op : Char} (hop : op ≠ '\\')
    (hrest : s.cursor.rest.take 2 = [op, op]) (kind : ClassOp) :
    Twins (.ok (.inl (s.pushOp kind) : ClassState ⊕ Ast × Cursor))
      (.ok (.inl (s.lower.pushOp kind))) := by
  have hlower : s.lower.pushOp kind = (s.pushOp kind).lower := by
    simp [pushOp, lower]
  have hsafe : (s.pushOp kind).cursor.Safe := by
    obtain ⟨t, ht⟩ := take_two_iff.mp hrest
    have hnext : s.cursor.next.rest = op :: t := by rw [next, ht]
    exact (h.next_of_rest ht hop).next_of_rest hnext hop
  rw [hlower]
  exact .ok hsafe

/-- A named class has no backslash in its name. -/
theorem namedClass_of_backslash {name : Text} (h : '\\' ∈ name) : namedClass? name = none := by
  have hne : ∀ {known : Text}, '\\' ∉ known → name ≠ known := by
    rintro known hnot rfl
    exact hnot h
  rw [namedClass?, List.findSome?_eq_none_iff]
  intro entry hentry
  refine if_neg (hne ?_)
  revert entry
  decide

/-- What has no backslash and is not escaped is in lower case already. -/
theorem lowercase_of_foldsFrom {name t : Text} (h : FoldsFrom false (name ++ t))
    (hname : '\\' ∉ name) : Text.lowercase name = name := by
  induction name with
  | nil => rfl
  | cons ch name ih =>
    have hne : ch ≠ '\\' := fun hch => hname (hch ▸ List.mem_cons_self)
    rw [Text.lowercase_cons, h.toLower_head,
      ih (h.tail_of_ne hne) (List.not_mem_of_not_mem_cons hname)]

/-- The name of a class in a text in lower case. -/
theorem takeWhile_lowercase (t : Text) :
    (Text.lowercase t).takeWhile (· ≠ ':') = Text.lowercase (t.takeWhile (· ≠ ':')) := by
  have hcolon : (fun ch : Char => decide (ch ≠ ':')) ∘ Char.toLower = fun ch => decide (ch ≠ ':') := by
    funext ch
    exact decide_eq_decide.mpr (Text.toLower_eq_iff rfl).not
  rw [Text.lowercase, List.takeWhile_map, hcolon, Text.lowercase]

/-- A named class is found in lower case exactly where it is found as it is written. -/
theorem twins_readNamed (h : c.Safe) :
    readNamed? c.lower = (readNamed? c).map (Prod.map id Cursor.lower) ∧
      ∀ part after, readNamed? c = some (part, after) → after.Safe := by
  rw [readNamed?, readNamed?, h.after?_lower (by decide)]
  cases hopened : c.after? ['[', ':'] with
  | none => exact ⟨rfl, fun _ _ h => by cases h⟩
  | some inner =>
    have hinner : inner.Safe := h.after? (by decide) hopened
    simp only [Option.map_some, Option.bind_eq_bind, Option.bind_some]
    rw [isAt_lower _ rfl, next_lower, ← apply_ite Cursor.lower]
    have hstart : (if inner.isAt '^' = true then inner.next else inner).Safe := by
      split
      · rename_i hcaret
        exact hinner.next_of_isAt hcaret (by decide)
      · exact hinner
    generalize (if inner.isAt '^' = true then inner.next else inner) = start at hstart ⊢
    rw [Cursor.rest_lower, takeWhile_lowercase]
    by_cases hname : '\\' ∈ start.rest.takeWhile (· ≠ ':')
    · -- No class has such a name, in lower case or not.
      have hlower : '\\' ∈ Text.lowercase (start.rest.takeWhile (· ≠ ':')) :=
        List.mem_map.mpr ⟨_, hname, rfl⟩
      simp only [namedClass_of_backslash hname, namedClass_of_backslash hlower, Option.bind_none,
        Option.bind_fun_none]
      exact ⟨rfl, fun _ _ h => by cases h⟩
    · have hsafe : FoldsFrom false (start.rest.takeWhile (· ≠ ':') ++ start.rest.dropWhile (· ≠ ':')) := by
        rw [List.takeWhile_append_dropWhile]
        exact hstart
      rw [lowercase_of_foldsFrom hsafe hname, hstart.after?_lower hname]
      generalize start.rest.takeWhile (· ≠ ':') = name at hname ⊢
      cases hnamed : start.after? name with
      | none => exact ⟨rfl, fun _ _ h => by cases h⟩
      | some stop =>
        have hstop : stop.Safe := hstart.after? hname hnamed
        simp only [Option.map_some, Option.bind_some]
        rw [hstop.after?_lower (by decide)]
        cases hclosed : stop.after? [':', ']'] with
        | none => exact ⟨rfl, fun _ _ h => by cases h⟩
        | some close =>
          have hclose : close.Safe := hstop.after? (by decide) hclosed
          simp only [Option.map_some, Option.bind_some]
          cases namedClass? name with
          | none => exact ⟨rfl, fun _ _ h => by cases h⟩
          | some kind => exact ⟨rfl, fun _ _ h => by cases h; exact hclose⟩

theorem twins_readItem (h : c.Safe) (spaced : Bool) :
    Twins (readItem spaced c) (readItem spaced c.lower) := by
  rw [readItem, readItem]
  cases hrest : c.rest with
  | nil =>
    rw [rest_lower, hrest]
    exact .fail _ _
  | cons ch t =>
    rw [h.rest_lower_cons hrest]
    refine .ite Iff.rfl (fun hch => ?_) fun hch => ?_
    · subst hch
      exact twins_readEscape h hrest spaced
    · rw [here_lower, next_lower]
      exact .ok (h.next_of_rest hrest hch)

theorem twins_readRange (h : s.cursor.Safe) (spaced : Bool) :
    Twins (readRange spaced s) (readRange spaced s.lower) := by
  rw [readRange, readRange]
  refine .bind_read (twins_readItem h spaced) fun low c hc => ?_
  dsimp only
  have hsafe := hc.skipSpace spaced
  rw [skipSpace_lower, atEnd_lower, isAt_lower _ rfl, peek?_eq_lower _ _ rfl, peek?_eq_lower _ _ rfl,
    advance_lower, atEnd_lower]
  generalize c.skipSpace spaced = c at hsafe ⊢
  refine .ite Iff.rfl (fun _ => twins_unclosed _) fun _ => ?_
  refine .ite Iff.rfl (fun _ => .bind_left fun part => .ok hsafe) fun hhyphen => ?_
  have hat : c.isAt '-' = true := by
    simp only [Bool.or_eq_true, not_or] at hhyphen
    simpa using hhyphen.1.1
  have hafter := hsafe.advance_of_isAt hat (by decide) spaced
  refine .ite Iff.rfl (fun _ => twins_unclosed _) fun _ => ?_
  refine .bind_read (twins_readItem hafter spaced) fun high c hc => ?_
  refine .bind_left fun lowLiteral => .bind_left fun highLiteral => ?_
  exact .ite Iff.rfl (fun _ => .fail _ _) fun _ => .ok hc

/-- The step as a chain of tests. -/
theorem step_eq (spaced : Bool) (s : ClassState) :
    step spaced s =
      let c := s.cursor.skipSpace spaced
      let s := { s with cursor := c }
      if c.atEnd = true then unclosed s.stack
      else if c.isAt '[' = true then
        match readNamed? c with
        | some (part, after) => .ok (.inl (s.push part after))
        | none => (openClass spaced s.parts s.offset s.stack c).map .inl
      else if c.isAt ']' = true then closeClass s
      else if c.rest.take 2 = ['&', '&'] then .ok (.inl (s.pushOp .intersection))
      else if c.rest.take 2 = ['-', '-'] then .ok (.inl (s.pushOp .difference))
      else if c.rest.take 2 = ['~', '~'] then .ok (.inl (s.pushOp .symmetricDifference))
      else (readRange spaced s).map .inl := by
  rw [step]
  dsimp only
  generalize s.cursor.skipSpace spaced = c
  split
  case h_7 hnil hopen hclose hand hminus htilde =>
    have hend : ¬c.atEnd = true := fun h => hnil (List.isEmpty_iff.mp h)
    have hone : ∀ {op : Char}, (∀ tail, c.rest = op :: tail → False) → ¬c.isAt op = true :=
      fun hnot hat => (isAt_iff.mp hat).elim hnot
    have htwo : ∀ {op : Char}, (∀ tail, c.rest = op :: op :: tail → False) →
        ¬c.rest.take 2 = [op, op] := fun hnot hat => (take_two_iff.mp hat).elim hnot
    rw [if_neg hend, if_neg (hone hopen), if_neg (hone hclose), if_neg (htwo hand),
      if_neg (htwo hminus), if_neg (htwo htilde)]
  case h_2 t hrest =>
    have hend : c.atEnd = false := by rw [atEnd, hrest, List.isEmpty_cons]
    have hat : c.isAt '[' = true := isAt_iff.mpr ⟨t, hrest⟩
    exact ((if_neg (by simp [hend])).trans (if_pos hat)).symm
  all_goals
    rename_i hrest
    simp [atEnd, isAt, hrest]

theorem take_two_lower (c : Cursor) {op : Char} (hop : op.isAlpha = false) :
    c.lower.rest.take 2 = [op, op] ↔ c.rest.take 2 = [op, op] := by
  obtain ⟨offset, rest⟩ := c
  match rest with
  | [] => simp
  | [d] => simp
  | d :: e :: t => simp [Text.toLower_eq_iff hop]

theorem twins_step (h : s.cursor.Safe) (spaced : Bool) :
    Twins (step spaced s) (step spaced s.lower) := by
  have hsafe := h.skipSpace spaced
  rw [step_eq, step_eq]
  dsimp only [lower]
  rw [skipSpace_lower]
  generalize s.cursor.skipSpace spaced = c at hsafe ⊢
  refine .ite (by rw [atEnd_lower]) (fun _ => twins_unclosed _) fun _ => ?_
  refine .ite (by rw [isAt_lower c rfl]) (fun hat => ?_) fun _ => ?_
  · obtain ⟨hnamed, hafter⟩ := twins_readNamed hsafe
    rw [hnamed]
    cases hn : readNamed? c with
    | none => exact (twins_openClass hsafe hat _ _ _ _).map fun s hs => ⟨hs, rfl⟩
    | some named =>
      obtain ⟨part, after⟩ := named
      exact .ok (hafter part after hn)
  refine .ite (by rw [isAt_lower c rfl]) (fun hat => ?_) fun _ => ?_
  · exact twins_closeClass hsafe hat
  refine .ite (take_two_lower c rfl) (fun hop => ?_) fun _ => ?_
  · exact twins_pushOp hsafe (by decide) hop _
  refine .ite (take_two_lower c rfl) (fun hop => ?_) fun _ => ?_
  · exact twins_pushOp hsafe (by decide) hop _
  refine .ite (take_two_lower c rfl) (fun hop => ?_) fun _ => ?_
  · exact twins_pushOp hsafe (by decide) hop _
  exact (twins_readRange hsafe spaced).map fun s hs => ⟨hs, rfl⟩

theorem twins_run (h : s.cursor.Safe) (spaced : Bool) (count : Nat) :
    Twins (run spaced count s) (run spaced count s.lower) := by
  induction count generalizing s with
  | zero => exact twins_unclosed _
  | succ count ih =>
    rw [run, run]
    have hstep := twins_step h spaced
    generalize step spaced s = x at hstep ⊢
    generalize step spaced s.lower = y at hstep ⊢
    cases hstep with
    | error fault => exact .error fault
    | @ok result hsafe =>
      cases result with
      | inl s' => exact ih hsafe
      | inr read => exact .ok hsafe

end

end ClassState

theorem twins_readClass {c : Cursor} (h : c.Safe) (hat : c.isAt '[' = true) (spaced : Bool) :
    Twins (readClass spaced c) (readClass spaced c.lower) := by
  have hlength : c.lower.rest.length = c.rest.length := List.length_map ..
  rw [readClass, readClass, hlength]
  exact .bind (ClassState.twins_openClass h hat spaced [] c.offset []) fun s hs =>
    ClassState.twins_run hs spaced _

end ChoiceTemplate.Pattern

import ChoiceTemplate.Diagnostic
import ChoiceTemplate.Proofs.Lines

/-
  The position of a line in a file.

  A diagnostic points at bytes of a file. Its offset adds up the lines before and one byte for the
  ending of each, but a line may end in two bytes, a carriage return and a line feed.

    1. A line stands in the content after the text of the lines before it (`exists_before_line`). Its
       bytes are those at the byte length of that text (`slice_utf8_eq`).
    2. That length is the sum over its lines, and one more for each ending of two bytes
       (`byteLength_of_ended`). So the offset is short by the number of these endings, and the length
       is right (`offset_forLine`, `length_forLine`).
    3. Read from too early, a line begins with the line feed before it (`slice_ne_of_early`), and no
       line holds one (`not_mem_of_mem_lines`).

  `span_covers_line_iff` concludes that a diagnostic covers its line exactly if no line before it has
  an ending of two bytes, as long as the line is not shorter than the offset is off.
-/
namespace ChoiceTemplate

namespace Text

/-! ## Bytes -/

/-- The bytes of the UTF-8 form. -/
def utf8 (t : Text) : List UInt8 := t.flatMap String.utf8EncodeChar

section
variable {t before line after content : Text} {i : Nat}

theorem utf8_append (s t : Text) : utf8 (s ++ t) = utf8 s ++ utf8 t := List.flatMap_append

theorem length_utf8 (t : Text) : (utf8 t).length = byteLength t := by
  induction t with
  | nil => rfl
  | cons c t ih =>
    have hcons : utf8 (c :: t) = String.utf8EncodeChar c ++ utf8 t := List.flatMap_cons
    rw [hcons, List.length_append, String.length_utf8EncodeChar, ih, byteLength_cons]

theorem ofNat_ne_feed {n : Nat} (h : n % 256 ≠ 10) : (10 : UInt8) ≠ UInt8.ofNat n := by
  intro heq
  have hnat := congrArg UInt8.toNat heq
  rw [UInt8.toNat_ofNat'] at hnat
  exact h hnat.symm

/-- Only a line feed has the byte of a line feed. -/
theorem eq_feed_of_mem_utf8EncodeChar {c : Char} (h : 10 ∈ String.utf8EncodeChar c) : c = '\n' := by
  by_contra hne
  have hval : c.val.toNat ≠ 10 := fun hval => hne (Char.ext (UInt32.toNat_inj.mp hval))
  have hall : ∀ b ∈ String.utf8EncodeChar c, (10 : UInt8) ≠ b := by
    -- The bytes of a longer form are 128 or more.
    rw [String.utf8EncodeChar]
    split_ifs with h₁ h₂ h₃ <;>
      simp only [List.mem_cons, List.not_mem_nil, or_false, forall_eq_or_imp, forall_eq]
    · exact ofNat_ne_feed (by omega)
    · exact ⟨ofNat_ne_feed (by omega), ofNat_ne_feed (by omega)⟩
    · exact ⟨ofNat_ne_feed (by omega), ofNat_ne_feed (by omega), ofNat_ne_feed (by omega)⟩
    · exact ⟨ofNat_ne_feed (by omega), ofNat_ne_feed (by omega), ofNat_ne_feed (by omega),
        ofNat_ne_feed (by omega)⟩
  exact hall 10 h rfl

theorem feed_mem_of_mem_utf8 (h : 10 ∈ utf8 t) : '\n' ∈ t := by
  obtain ⟨c, hc, hbyte⟩ := List.mem_flatMap.mp h
  exact eq_feed_of_mem_utf8EncodeChar hbyte ▸ hc

/-- The bytes of a text from an offset on, as many as `length` says. -/
def slice (content : Text) (offset length : Nat) : List UInt8 :=
  ((utf8 content).drop offset).take length

theorem getElem?_slice {offset length k : Nat} (h : k < length) :
    (slice content offset length)[k]? = (utf8 content)[offset + k]? := by
  rw [slice, List.getElem?_take_of_lt h, List.getElem?_drop]

theorem getElem?_utf8_feed (s t : Text) : (utf8 (s ++ '\n' :: t))[byteLength s]? = some 10 := by
  rw [utf8_append, ← length_utf8, List.getElem?_append_right (Nat.le_refl _), Nat.sub_self]
  rfl

theorem slice_utf8_eq (before line after : Text) :
    slice (before ++ line ++ after) (byteLength before) (byteLength line) = utf8 line := by
  rw [slice, List.append_assoc, utf8_append, utf8_append, ← length_utf8, ← length_utf8,
    List.drop_left, List.take_left]

/-! ## The text before a line -/

/-- A line stands after the lines before it. -/
theorem exists_before_line (h : (lines content)[i]? = some line) :
    ∃ before after, content = before ++ line ++ after ∧ Ended before ∧
      lines before = (lines content).take i := by
  induction content using lineInduction generalizing i with
  | last t ht =>
    by_cases hne : t = []
    · subst hne
      cases h
    · rw [lines_of_not_mem ht hne] at h ⊢
      cases i with
      | zero =>
        cases h
        exact ⟨[], [], (List.append_nil line).symm, Or.inl rfl, rfl⟩
      | succ i => cases h
  | more l t hl ih =>
    rw [lines_append_feed hl] at h ⊢
    cases i with
    | zero =>
      cases h
      obtain ⟨ending, heq, -⟩ := dropFinalReturn_append l
      refine ⟨[], ending ++ '\n' :: t, ?_, Or.inl rfl, rfl⟩
      rw [List.nil_append, ← List.append_assoc, ← heq]
    | succ i =>
      obtain ⟨before, after, heq, hended, hlines⟩ := ih h
      refine ⟨l ++ '\n' :: before, after, ?_, (ended_append_feed l before).mpr hended, ?_⟩
      · rw [heq]
        simp
      · rw [lines_append_feed hl, hlines, List.take_succ_cons]

/-- Whole lines take one byte each for their endings, and one more for each carriage return. -/
theorem byteLength_of_ended (h : Ended t) :
    byteLength t = Diagnostic.linesLength (lines t) + returnEndings t := by
  induction t using lineInduction with
  | last t ht =>
    rw [eq_nil_of_ended h ht]
    rfl
  | more l t hl ih =>
    obtain ⟨ending, heq, hending⟩ := dropFinalReturn_append l
    have hl' : byteLength l = byteLength (dropFinalReturn l) + finalReturn l := by
      rw [← hending, ← byteLength_append, ← heq]
    have hcons : Diagnostic.linesLength (dropFinalReturn l :: lines t) =
        byteLength (dropFinalReturn l) + 1 + Diagnostic.linesLength (lines t) := rfl
    have hfeed : Char.utf8Size '\n' = 1 := rfl
    rw [lines_append_feed hl, returnEndings_append_feed hl, hcons, byteLength_append,
      byteLength_cons, ih ((ended_append_feed l t).mp h), hfeed, hl']
    omega

/-- Read too early by `k` bytes, a line begins with the end of the line before it. -/
theorem slice_ne_of_early {k : Nat} (hended : Ended before) (hk : 0 < k) (hline : k ≤ byteLength line)
    (hbefore : k ≤ byteLength before) (hfeed : '\n' ∉ line) :
    slice (before ++ line ++ after) (byteLength before - k) (byteLength line) ≠ utf8 line := by
  have hlast : before.getLast? = some '\n' := by
    rcases hended with rfl | h
    · exact absurd hbefore (by rw [byteLength_nil]; omega)
    · exact h
  obtain ⟨front, rfl⟩ := List.getLast?_eq_some_iff.mp hlast
  have hsize : byteLength (front ++ ['\n']) = byteLength front + 1 := byteLength_append front ['\n']
  have hposition : byteLength (front ++ ['\n']) - k + (k - 1) = byteLength front := by omega
  have hcontent : front ++ ['\n'] ++ line ++ after = front ++ '\n' :: (line ++ after) := by simp
  intro heq
  apply hfeed
  apply feed_mem_of_mem_utf8
  rw [← heq]
  apply List.mem_of_getElem? (i := k - 1)
  rw [getElem?_slice (by omega), hposition, hcontent]
  exact getElem?_utf8_feed front (line ++ after)

end

end Text

namespace Diagnostic

open Text

section
variable {content line before after : Text} {i : Nat}

/-- The offset of a line is short by the number of carriage returns before line feeds before it. -/
theorem offset_forLine (path : Text) (w : Warning) (heq : content = before ++ line ++ after)
    (hended : Ended before) (hlines : Text.lines before = (Text.lines content).take i) :
    (forLine path content i w).offset + returnEndings before = byteLength before := by
  have hbefore := byteLength_of_ended hended
  have hcontent : byteLength before ≤ byteLength content := by
    rw [heq, byteLength_append, byteLength_append]
    omega
  rw [hlines] at hbefore
  show min (linesLength ((Text.lines content).take i)) (byteLength content) + _ = _
  rw [Nat.min_eq_left (by omega), hbefore]

theorem length_forLine (path : Text) (w : Warning) (heq : content = before ++ line ++ after)
    (hended : Ended before) (hlines : Text.lines before = (Text.lines content).take i)
    (h : (Text.lines content)[i]? = some line) :
    (forLine path content i w).length = byteLength line := by
  have hoffset := offset_forLine path w heq hended hlines
  have hcontent : byteLength before + byteLength line ≤ byteLength content := by
    rw [heq, byteLength_append, byteLength_append]
    omega
  show min (((Text.lines content)[i]?.map byteLength).getD 0)
    (byteLength content - (forLine path content i w).offset) = _
  rw [h, Option.map_some, Option.getD_some]
  omega

/-- **A diagnostic covers its line if every line before it ends in a line feed alone.** In any content,
a line stands after the text of the lines before it. A diagnostic about it has the length of the line,
and its offset is the end of that text, less one byte for each carriage return before a line feed in
it. Where the line is not shorter than that, the bytes covered are those of the line exactly if there
is no such carriage return. -/
theorem span_covers_line_iff (path : Text) (w : Warning) (h : (Text.lines content)[i]? = some line) :
    ∃ before after, content = before ++ line ++ after ∧ Ended before ∧
      Text.lines before = (Text.lines content).take i ∧
      (forLine path content i w).length = byteLength line ∧
      (forLine path content i w).offset + returnEndings before = byteLength before ∧
      (returnEndings before ≤ byteLength line →
        (slice content (forLine path content i w).offset (forLine path content i w).length =
          utf8 line ↔ returnEndings before = 0)) := by
  obtain ⟨before, after, heq, hended, hlines⟩ := exists_before_line h
  have hlength := length_forLine path w heq hended hlines h
  have hoffset := offset_forLine path w heq hended hlines
  refine ⟨before, after, heq, hended, hlines, hlength, hoffset, ?_⟩
  intro hle
  have hat : (forLine path content i w).offset = byteLength before - returnEndings before := by omega
  rw [hlength, hat]
  constructor
  · intro hslice
    by_contra hne
    apply slice_ne_of_early hended (Nat.pos_of_ne_zero hne) hle (by omega)
      (not_mem_of_mem_lines (List.mem_of_getElem? h))
    rw [← heq]
    exact hslice
  · intro hzero
    rw [hzero, Nat.sub_zero, heq]
    exact slice_utf8_eq before line after

/-- Three lines: one with a letter of two bytes, an empty one, and one without an ending. -/
def feedContent : Text := "é#b\n\n<x#y".toList

theorem feedContent_third_line_covered :
    (Text.lines feedContent)[2]? = some "<x#y".toList ∧
    slice feedContent (forLine [] feedContent 2 (.unparsableBound 0 ['<', 'x'])).offset
      (forLine [] feedContent 2 (.unparsableBound 0 ['<', 'x'])).length = utf8 "<x#y".toList := by
  have hline : (Text.lines feedContent)[2]? = some "<x#y".toList := rfl
  obtain ⟨before, after, heq, -, -, -, hoffset, hcovered⟩ :=
    span_covers_line_iff [] (.unparsableBound 0 ['<', 'x']) hline
  have hat : (forLine [] feedContent 2 (.unparsableBound 0 ['<', 'x'])).offset = 6 := rfl
  -- The line and the six bytes before it are all of the content.
  have hsize : byteLength before + byteLength "<x#y".toList + byteLength after = 10 := by
    rw [← byteLength_append, ← byteLength_append, ← heq]
    rfl
  have hfour : byteLength "<x#y".toList = 4 := rfl
  have hnone : returnEndings before = 0 := by omega
  exact ⟨hline, (hcovered (by omega)).mpr hnone⟩

/-- Two lines, both with an ending of two bytes. -/
def returnContent : Text := "a#b\r\n<x#y\r\n".toList

theorem returnContent_second_line_missed :
    (Text.lines returnContent)[1]? = some "<x#y".toList ∧
    slice returnContent (forLine [] returnContent 1 (.unparsableBound 0 ['<', 'x'])).offset
      (forLine [] returnContent 1 (.unparsableBound 0 ['<', 'x'])).length = utf8 "\n<x#".toList ∧
    utf8 "\n<x#".toList ≠ utf8 "<x#y".toList := by
  decide +kernel

end

end Diagnostic

end ChoiceTemplate

/-
  Text as the list of its characters, and the few measures of it that the library needs.

  A template, a selector, a reference and an answer are all a `Text`. Positions reported to a
  user count the bytes of the UTF-8 form (`byteLength`), keys are ordered by code point
  (`Text.before`, the same order as that of their UTF-8 bytes), and letter case is the ASCII
  one only (`lowercase`).
-/
namespace ChoiceTemplate

/-- A text is the list of its characters. -/
abbrev Text := List Char

namespace Text

/-- The number of bytes of the UTF-8 form. -/
def byteLength : Text → Nat
  | [] => 0
  | c :: t => c.utf8Size + byteLength t

@[simp] theorem byteLength_nil : byteLength [] = 0 := rfl

@[simp] theorem byteLength_cons (c : Char) (t : Text) :
    byteLength (c :: t) = c.utf8Size + byteLength t := rfl

@[simp] theorem byteLength_append (s t : Text) :
    byteLength (s ++ t) = byteLength s + byteLength t := by
  induction s with
  | nil => simp
  | cons c s ih => simp [ih, Nat.add_assoc]

theorem byteLength_le_of_sublist {s t : Text} (h : s.Sublist t) : byteLength s ≤ byteLength t := by
  induction h with
  | slnil => exact Nat.le_refl 0
  | cons c _ ih => exact Nat.le_trans ih (Nat.le_add_left _ _)
  | cons_cons c _ ih => exact Nat.add_le_add_left ih _

/-- The text with the letters `A` to `Z` in lower case and every other character unchanged. -/
def lowercase (t : Text) : Text := t.map Char.toLower

@[simp] theorem lowercase_nil : lowercase [] = [] := rfl

@[simp] theorem lowercase_cons (c : Char) (t : Text) :
    lowercase (c :: t) = c.toLower :: lowercase t := rfl

@[simp] theorem lowercase_append (s t : Text) :
    lowercase (s ++ t) = lowercase s ++ lowercase t := by simp [lowercase]

/-- Whether `s` comes strictly before `t` in the order of code points. -/
def before : Text → Text → Bool
  | [], [] => false
  | [], _ :: _ => true
  | _ :: _, [] => false
  | a :: s, b :: t => if a = b then before s t else a.toNat < b.toNat

/-- What is left of `t` after `start`, if `t` begins with it. -/
def afterStart? : (start t : Text) → Option Text
  | [], t => some t
  | _ :: _, [] => none
  | a :: s, b :: t => if a = b then afterStart? s t else none

/-- A text begins with `start` exactly when it is `start` followed by what is left. -/
theorem afterStart?_eq_some {start t rest : Text} :
    afterStart? start t = some rest ↔ t = start ++ rest := by
  induction start generalizing t with
  | nil => simp [afterStart?, eq_comm]
  | cons a s ih =>
    cases t with
    | nil => simp [afterStart?]
    | cons b t =>
      by_cases h : a = b
      · simp [afterStart?, h, ih]
      · have h' : ¬b = a := fun e => h e.symm
        simp [afterStart?, h, h']

/-- The decimal digits of a natural number. -/
def ofNat (n : Nat) : Text := Nat.toDigits 10 n

/-- The decimal digits of an integer, after a `-` if it is negative. -/
def ofInt : Int → Text
  | .ofNat n => ofNat n
  | .negSucc n => '-' :: ofNat (n + 1)

/-- `t` followed by `c`s up to `width` characters. -/
def padRight (c : Char) (width : Nat) (t : Text) : Text :=
  t ++ List.replicate (width - t.length) c

/-- `t` after as many `c`s as bring it to `width` characters. -/
def padLeft (c : Char) (width : Nat) (t : Text) : Text :=
  List.replicate (width - t.length) c ++ t

/-- The texts one after another with `separator` between neighbours. -/
def join (separator : Text) : List Text → Text
  | [] => []
  | [t] => t
  | t :: u :: r => t ++ separator ++ join separator (u :: r)

end Text

end ChoiceTemplate

import ChoiceTemplate.Unicode.CaseFold
import ChoiceTemplate.Unicode.Property
import ChoiceTemplate.Pattern.Ast

/-
  Sets of characters, as patterns build them.

  A set keeps the way it was built; `contains` says what is in it. Besides the sets that a
  pattern can name this module has `CharSet.count?`, the exact number of characters of a small
  set.
-/
namespace ChoiceTemplate.Pattern

/-- A set of characters. -/
inductive CharSet where
  | empty
  | range (low high : Char)
  | categories (members : List Unicode.Category)
  | property (p : Unicode.Property)
  | union (a b : CharSet)
  | inter (a b : CharSet)
  | compl (a : CharSet)
  /-- All characters that are equal up to case to one of the set. -/
  | folded (a : CharSet)
  deriving DecidableEq

namespace CharSet

/-- Whether a character is in a set. -/
def contains : CharSet → Char → Bool
  | .empty, _ => false
  | .range low high, c => low.toNat ≤ c.toNat && c.toNat ≤ high.toNat
  | .categories members, c => members.contains (Unicode.category c)
  | .property p, c => p.holds c
  | .union a b, c => a.contains c || b.contains c
  | .inter a b, c => a.contains c && b.contains c
  | .compl a, c => !a.contains c
  | .folded a, c => (Unicode.variants c).any a.contains

/-- The set of one character. -/
def single (c : Char) : CharSet := .range c c

theorem contains_single (c d : Char) : (single c).contains d = (c == d) := by
  by_cases h : c = d
  · subst h
    simp [single, contains]
  · have hn : c.toNat ≠ d.toNat := fun e => h (Char.toNat_inj.1 e)
    have hf : (c == d) = false := by simp [h]
    simp only [single, contains, hf, Bool.and_eq_false_iff, decide_eq_false_iff_not]
    omega

/-- The set with the given members. -/
def ofList : List CharSet → CharSet
  | [] => .empty
  | [a] => a
  | a :: b :: rest => .union a (ofList (b :: rest))

/-- The complement of a set if `negated` holds, and the set itself otherwise. -/
def complIf (negated : Bool) (a : CharSet) : CharSet := if negated then .compl a else a

/-- The set with all variants of its members in another case, if case is ignored. -/
def foldIf (ignoreCase : Bool) (a : CharSet) : CharSet := if ignoreCase then .folded a else a

/-- What an operator of a character class makes of two sets. -/
def combine : ClassOp → CharSet → CharSet → CharSet
  | .intersection, a, b => .inter a b
  | .difference, a, b => .inter a (.compl b)
  | .symmetricDifference, a, b => .inter (.union a b) (.compl (.inter a b))

/-- The ASCII class with a name. -/
def ofNamed : NamedClass → CharSet
  | .alnum => ofList [.range '0' '9', .range 'A' 'Z', .range 'a' 'z']
  | .alpha => ofList [.range 'A' 'Z', .range 'a' 'z']
  | .ascii => .range '\x00' '\x7f'
  | .blank => ofList [single '\t', single ' ']
  | .cntrl => ofList [.range '\x00' '\x1f', single '\x7f']
  | .digit => .range '0' '9'
  | .graph => .range '!' '~'
  | .lower => .range 'a' 'z'
  | .print => .range ' ' '~'
  | .punct => ofList [.range '!' '/', .range ':' '@', .range '[' '\x60', .range '\x7b' '~']
  | .space => ofList [.range '\t' '\r', single ' ']
  | .upper => .range 'A' 'Z'
  | .word => ofList [.range '0' '9', .range 'A' 'Z', single '_', .range 'a' 'z']
  | .xdigit => ofList [.range '0' '9', .range 'A' 'F', .range 'a' 'f']

/-- The class with a one-letter escape, among all characters or among those of ASCII. -/
def ofLetter (unicode : Bool) : LetterClass → CharSet
  | .digit => if unicode then .categories [.nd] else ofNamed .digit
  | .space => if unicode then .property .blank else ofNamed .space
  | .word => if unicode then .property .word else ofNamed .word

/-- All characters but the line feed, and but the carriage return if `crlf` holds. -/
def notLineEnd (crlf : Bool) : CharSet :=
  .compl (if crlf then ofList [single '\n', single '\r'] else single '\n')

/-- All characters. -/
def all : CharSet := .compl .empty

/-- Whether a set has only members from ASCII. -/
def isAscii : CharSet → Bool
  | .empty => true
  | .range _ high => high.toNat < 128
  | .categories _ => false
  | .property p => p == .ascii
  | .union a b => a.isAscii && b.isAscii
  | .inter a b => a.isAscii || b.isAscii
  | .compl _ => false
  | .folded a => a.isAscii

/-- The number of members of a set that is built from ranges alone, if it is at most `limit`.
Members that are named twice count twice. -/
def count? (limit : Nat) : CharSet → Option Nat
  | .empty => some 0
  | .range low high =>
    let n := high.toNat + 1 - low.toNat
    if n ≤ limit then some n else none
  | .union a b => do
    let n := (← a.count? limit) + (← b.count? limit)
    if n ≤ limit then some n else none
  | .folded (.range low high) =>
    if low = high then some (Unicode.variants low).length else none
  | _ => none

end CharSet

end ChoiceTemplate.Pattern

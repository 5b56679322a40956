import ChoiceTemplate.Pattern.Fault

/-
  The parts of a pattern as they are written.

  Each part keeps the stretch of the pattern it was read from where a later check may have to
  point at it. Sequences and choices are built from two parts at a time; the wrappers `sequence`
  and `alternatives`, and `several` in a character class, stand around two or more parts and
  count as one level of nesting.
-/
namespace ChoiceTemplate.Pattern

/-- A character, and whether it was written as `\x` with two hexadecimal digits. -/
structure Literal where
  span : Span
  char : Char
  isByte : Bool
  deriving DecidableEq

/-- A place that a pattern can ask for without reading a character, as it is written. -/
inductive Anchor where
  | lineStart
  | lineEnd
  | textStart
  | textEnd
  | wordBoundary
  | notWordBoundary
  | wordStart
  | wordEnd
  | wordStartHalf
  | wordEndHalf
  deriving DecidableEq

/-- A class with a one-letter escape. -/
inductive LetterClass where
  | digit
  | space
  | word
  deriving DecidableEq

/-- A class of ASCII characters with a name between colons. -/
inductive NamedClass where
  | alnum | alpha | ascii | blank | cntrl | digit | graph | lower | print | punct | space
  | upper | word | xdigit
  deriving DecidableEq

/-- What a Unicode class asks for, its names as they are matched (`looseName`). -/
inductive PropertyQuery where
  | named (name : Text)
  | valued (name value : Text)
  deriving DecidableEq

/-- A Unicode class. -/
structure PropertyClass where
  span : Span
  negated : Bool
  query : PropertyQuery
  deriving DecidableEq

/-- How two parts of a character class are combined. -/
inductive ClassOp where
  | intersection
  | difference
  | symmetricDifference
  deriving DecidableEq

/-- What stands between the brackets of a character class. -/
inductive ClassSet where
  | empty (offset : Nat)
  | literal (l : Literal)
  | range (low high : Literal)
  | named (span : Span) (negated : Bool) (kind : NamedClass)
  | letter (span : Span) (negated : Bool) (kind : LetterClass)
  | property (p : PropertyClass)
  | bracketed (span : Span) (negated : Bool) (set : ClassSet)
  /-- A part and the parts after it. -/
  | also (part rest : ClassSet)
  /-- Two or more parts. -/
  | several (span : Span) (parts : ClassSet)
  | op (span : Span) (kind : ClassOp) (left right : ClassSet)
  deriving DecidableEq

/-- A flag that a group can set. -/
inductive Flag where
  | ignoreCase
  | multiLine
  | dotMatchesNewLine
  | swapGreed
  | unicode
  | crlf
  | ignoreSpace
  deriving DecidableEq

/-- Flags and their new values, in the order in which they are written. -/
abbrev FlagChanges := List (Flag × Bool)

/-- How often a part repeats. -/
structure Count where
  least : Nat
  most : Option Nat
  deriving DecidableEq

/-- A pattern, or a part of one. -/
inductive Ast where
  | empty
  | flags (changes : FlagChanges)
  | literal (l : Literal)
  | dot (span : Span)
  | anchor (span : Span) (kind : Anchor)
  | letter (span : Span) (negated : Bool) (kind : LetterClass)
  | property (p : PropertyClass)
  | bracketed (span : Span) (negated : Bool) (set : ClassSet)
  | repetition (span : Span) (count : Count) (greedy : Bool) (body : Ast)
  | group (span : Span) (captures : Bool) (changes : FlagChanges) (body : Ast)
  /-- A part and the parts after it. -/
  | andThen (part rest : Ast)
  /-- Two or more parts one after another. -/
  | sequence (span : Span) (parts : Ast)
  /-- A part and the parts that it is preferred to. -/
  | orElse (part rest : Ast)
  /-- Two or more parts to choose from. -/
  | alternatives (span : Span) (parts : Ast)
  deriving DecidableEq

namespace Ast

/-- Where a part that can be repeated begins. -/
def first : Ast → Nat
  | .empty => 0
  | .flags _ => 0
  | .literal l => l.span.first
  | .dot span => span.first
  | .anchor span _ => span.first
  | .letter span _ _ => span.first
  | .property p => p.span.first
  | .bracketed span _ _ => span.first
  | .repetition span _ _ _ => span.first
  | .group span _ _ _ => span.first
  | .andThen part _ => part.first
  | .sequence span _ => span.first
  | .orElse part _ => part.first
  | .alternatives span _ => span.first

/-- The parts in order, as one. -/
def chain (combine : Ast → Ast → Ast) : List Ast → Ast
  | [] => .empty
  | [part] => part
  | part :: next :: rest => combine part (chain combine (next :: rest))

/-- A sequence of parts, with a level of nesting only if it has two or more. -/
def ofSequence (span : Span) : List Ast → Ast
  | [] => .empty
  | [part] => part
  | parts => .sequence span (chain .andThen parts)

/-- A choice of parts, with a level of nesting only if it has two or more. -/
def ofAlternatives (span : Span) : List Ast → Ast
  | [] => .empty
  | [part] => part
  | parts => .alternatives span (chain .orElse parts)

end Ast

namespace ClassSet

/-- The stretch that a part of a class was read from. -/
def span : ClassSet → Span
  | .empty offset => ⟨offset, offset⟩
  | .literal l => l.span
  | .range low high => ⟨low.span.first, high.span.stop⟩
  | .named span _ _ => span
  | .letter span _ _ => span
  | .property p => p.span
  | .bracketed span _ _ => span
  | .also part rest => ⟨part.span.first, rest.span.stop⟩
  | .several span _ => span
  | .op span _ _ _ => span

/-- The parts in order, as one. -/
def chain (offset : Nat) : List ClassSet → ClassSet
  | [] => .empty offset
  | [part] => part
  | part :: next :: rest => .also part (chain offset (next :: rest))

/-- The parts of a class together, with a level of nesting only if there are two or more. If
there are none, they would stand at `offset`. -/
def ofList (offset : Nat) (parts : List ClassSet) : ClassSet :=
  match parts with
  | [] => .empty offset
  | [part] => part
  | parts => .several (chain offset parts).span (chain offset parts)

end ClassSet

end ChoiceTemplate.Pattern

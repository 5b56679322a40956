import ChoiceTemplate.Text.Split
import ChoiceTemplate.Pattern.Cursor

/-
  Escape sequences of a pattern.

  A backslash is followed by a letter with a meaning of its own, by a character code in
  hexadecimal digits, by the name of a Unicode property, or by a character that stands for
  itself. Everything else is a fault. `readEscape` reads one sequence, at a cursor that stands on
  the backslash; the same sequences are read inside and outside of character classes.
-/
namespace ChoiceTemplate.Pattern

/-- What an escape sequence, a dot or a single character stands for. -/
inductive Primitive where
  | literal (l : Literal)
  | dot (span : Span)
  | anchor (span : Span) (kind : Anchor)
  | letter (span : Span) (negated : Bool) (kind : LetterClass)
  | property (p : PropertyClass)

namespace Primitive

/-- The stretch that a primitive was read from. -/
def span : Primitive → Span
  | .literal l => l.span
  | .dot span => span
  | .anchor span _ => span
  | .letter span _ _ => span
  | .property p => p.span

/-- A primitive as a part of a pattern. -/
def toAst : Primitive → Ast
  | .literal l => .literal l
  | .dot span => .dot span
  | .anchor span kind => .anchor span kind
  | .letter span negated kind => .letter span negated kind
  | .property p => .property p

/-- A primitive as a part of a character class. -/
def toClassSet : Primitive → Except Fault ClassSet
  | .literal l => .ok (.literal l)
  | .letter span negated kind => .ok (.letter span negated kind)
  | .property p => .ok (.property p)
  | .dot span => fail .classEscapeInvalid span
  | .anchor span _ => fail .classEscapeInvalid span

/-- A primitive as an end of a range in a character class. -/
def toRangeEnd : Primitive → Except Fault Literal
  | .literal l => .ok l
  | p => fail .classRangeLiteral p.span

end Primitive

/-- The characters that have a meaning of their own somewhere in a pattern. -/
def isMeta (c : Char) : Bool :=
  ['\\', '.', '+', '*', '?', '(', ')', '|', '[', ']', '\x7b', '\x7d', '^', '$', '#', '&', '-', '~'].contains c

/-- Whether a character stands for itself after a backslash: any ASCII character but letters,
digits and the angle brackets. -/
def isEscapable (c : Char) : Bool :=
  isMeta c || (c.toNat < 128 && !c.isAlphanum && c ≠ '<' && c ≠ '>')

/-- The value of a hexadecimal digit, if the character is one. -/
def hexValue? (c : Char) : Option Nat :=
  if c.isDigit then some (c.toNat - '0'.toNat)
  else if 'a' ≤ c ∧ c ≤ 'f' then some (c.toNat - 'a'.toNat + 10)
  else if 'A' ≤ c ∧ c ≤ 'F' then some (c.toNat - 'A'.toNat + 10)
  else none

/-- The number that hexadecimal digits denote. -/
def hexValue (digits : Text) : Nat :=
  digits.foldl (fun n c => 16 * n + (hexValue? c).getD 0) 0

/-- The character with a given code, if the code is that of a character. -/
def charOfCode? (n : Nat) : Option Char :=
  if n < 0xD800 ∨ (0xDFFF < n ∧ n < 0x110000) then some (Char.ofNat n) else none

/-- Exactly `count` hexadecimal digits, and the cursor after them. -/
def readHexDigits (spaced : Bool) : (count : Nat) → Cursor → Except Fault (Text × Cursor)
  | 0, c => .ok ([], c)
  | count + 1, c =>
    match c.rest with
    | [] => fail .escapeUnfinished c.point
    | ch :: _ =>
      if (hexValue? ch).isSome then do
        let (t, c') ← readHexDigits spaced count (c.advance spaced)
        .ok (ch :: t, c')
      else fail .hexDigitInvalid c.here

/-- A character code after `\x`, `\u` or `\U`, which `digits` digits or braces follow. -/
def readHex (spaced : Bool) (start digits : Nat) (c : Cursor) : Except Fault (Primitive × Cursor) :=
  if c.atEnd then fail .escapeUnfinished c.point
  else if c.isAt '\x7b' then
    let (code, close) := (c.advance spaced).collectAll spaced fun ch => (hexValue? ch).isSome
    if close.atEnd then fail .escapeUnfinished (close.since c.offset)
    else if !close.isAt '\x7d' then fail .hexDigitInvalid close.here
    else
      let after := close.advance spaced
      if code.isEmpty then fail .hexEmpty (after.since c.offset)
      else
        match charOfCode? (hexValue code) with
        | none => fail .hexInvalid (close.since (c.offset + 1))
        | some ch => .ok (.literal ⟨after.since start, ch, false⟩, after)
  else do
    let (code, after) ← readHexDigits spaced digits c
    match charOfCode? (hexValue code) with
    | none => fail .hexInvalid (after.since c.offset)
    | some ch => .ok (.literal ⟨after.since start, ch, digits == 2⟩, after)

/-- Whether loose matching looks at a character of a name. -/
def isNamePart (c : Char) : Bool := c.toNat < 128 && c ≠ ' ' && c ≠ '-' && c ≠ '_'

/-- What loose matching looks at in a name, in lower case. -/
def plainName (name : Text) : Text := Text.lowercase (name.filter isNamePart)

/-- A name without what loose matching ignores: case, spaces, hyphens, underscores, characters
beyond ASCII, and `is` in front. -/
def looseName (name : Text) : Text :=
  if Text.lowercase (name.take 2) = ['i', 's'] then
    if plainName (name.drop 2) = ['c'] then ['i', 's', 'c'] else plainName (name.drop 2)
  else plainName name

/-- A property name, or a name and a value around `!=`, `:` or `=`, whichever of the three is
found first in this order. All three ask for the same set. -/
def propertyQuery (text : Text) : PropertyQuery :=
  let cut := (Text.splitAt? ['!', '='] text).or
    ((Text.splitOnce ':' text).or (Text.splitOnce '=' text))
  match cut with
  | some (name, value) => .valued (looseName name) (looseName value)
  | none => .named (looseName text)

/-- A Unicode class after `\p` or `\P`. -/
def readProperty (spaced : Bool) (start : Nat) (negated : Bool) (c : Cursor) :
    Except Fault (Primitive × Cursor) :=
  match c.rest with
  | [] => fail .escapeUnfinished c.point
  | ch :: _ =>
    if ch = '\x7b' then
      let (text, close) := (c.advance spaced).collectAll spaced (· ≠ '\x7d')
      if close.atEnd then fail .escapeUnfinished close.point
      else
        let after := close.next
        .ok (.property ⟨after.since start, negated, propertyQuery text⟩, after)
    else if ch = '\\' then fail .propertyInvalid c.here
    else
      let after := c.advance spaced
      .ok (.property ⟨after.since start, negated, .named (looseName [ch])⟩, after)

/-- Whether a character can stand in the name of a special word boundary. -/
def isBoundaryChar (c : Char) : Bool := c.isAlpha || c = '-'

/-- The special word boundaries by name. -/
def boundaryNamed? (name : Text) : Option Anchor :=
  if name = "start".toList then some .wordStart
  else if name = "end".toList then some .wordEnd
  else if name = "start-half".toList then some .wordStartHalf
  else if name = "end-half".toList then some .wordEndHalf
  else none

/-- A word boundary after `\b`. An opening brace begins the name of a special boundary, unless
what follows it cannot be one; then the brace is left for a repetition. -/
def readBoundary (spaced : Bool) (start : Nat) (c : Cursor) : Except Fault (Primitive × Cursor) :=
  let plain : Primitive × Cursor := (.anchor (c.since start) .wordBoundary, c)
  if !c.isAt '\x7b' then .ok plain
  else
    let inner := c.advance spaced
    match inner.rest with
    | [] => fail .boundaryUnfinished (inner.since start)
    | ch :: _ =>
      if !isBoundaryChar ch then .ok plain
      else
        let (name, close) := inner.collectAll spaced isBoundaryChar
        if !close.isAt '\x7d' then fail .boundaryUnclosed (close.since c.offset)
        else
          match boundaryNamed? name with
          | none => fail .boundaryUnrecognized (close.since inner.offset)
          | some kind => .ok (.anchor (close.next.since start) kind, close.next)

/-- The control characters that have a letter, and the anchors that have one. -/
def letterEscape? (c : Char) : Option (Char ⊕ Anchor) :=
  match c with
  | 'a' => some (.inl '\x07')
  | 'f' => some (.inl '\x0c')
  | 't' => some (.inl '\t')
  | 'n' => some (.inl '\n')
  | 'r' => some (.inl '\r')
  | 'v' => some (.inl '\x0b')
  | 'A' => some (.inr .textStart)
  | 'z' => some (.inr .textEnd)
  | 'B' => some (.inr .notWordBoundary)
  | '<' => some (.inr .wordStart)
  | '>' => some (.inr .wordEnd)
  | _ => none

/-- The letter classes by their letter in lower case. -/
def letterClass? (c : Char) : Option LetterClass :=
  match c with
  | 'd' => some .digit
  | 's' => some .space
  | 'w' => some .word
  | _ => none

/-- An escape sequence, read by a cursor that stands on its backslash. -/
def readEscape (spaced : Bool) (c : Cursor) : Except Fault (Primitive × Cursor) :=
  let start := c.offset
  let inner := c.next
  match inner.rest with
  | [] => fail .escapeUnfinished (inner.since start)
  | ch :: _ =>
    let after := inner.next
    let span := after.since start
    if ch.isDigit then fail .backreference span
    else if ch = 'x' then readHex spaced start 2 (inner.advance spaced)
    else if ch = 'u' then readHex spaced start 4 (inner.advance spaced)
    else if ch = 'U' then readHex spaced start 8 (inner.advance spaced)
    else if ch = 'p' ∨ ch = 'P' then readProperty spaced start (ch = 'P') (inner.advance spaced)
    else if ch = 'b' then readBoundary spaced start after
    else if isEscapable ch then .ok (.literal ⟨span, ch, false⟩, after)
    else
      match letterClass? ch.toLower with
      | some kind => .ok (.letter span ch.isUpper kind, after)
      | none =>
        match letterEscape? ch with
        | some (.inl control) => .ok (.literal ⟨span, control, false⟩, after)
        | some (.inr kind) => .ok (.anchor span kind, after)
        | none => fail .escapeUnrecognized span

end ChoiceTemplate.Pattern

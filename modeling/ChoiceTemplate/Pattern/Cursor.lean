import ChoiceTemplate.Pattern.Ast

/-
  A position in a pattern that is being read.

  A cursor holds what is left of the pattern and how many characters were read before. Where
  white space is ignored (`spaced`), a comment from `#` to the end of its line is white space
  too, and `advance` passes over all of it after each character.
-/
namespace ChoiceTemplate.Pattern

/-- What is left of a pattern after `offset` characters. -/
structure Cursor where
  offset : Nat
  rest : Text

namespace Cursor

/-- Whether nothing is left. -/
def atEnd (c : Cursor) : Bool := c.rest.isEmpty

/-- Whether the next character is `ch`. -/
def isAt (c : Cursor) (ch : Char) : Bool := c.rest.head? == some ch

/-- The cursor after the next character. -/
def next (c : Cursor) : Cursor :=
  match c.rest with
  | [] => c
  | _ :: t => ⟨c.offset + 1, t⟩

/-- The cursor after white space and comments. -/
def skipSpaceFrom (inComment : Bool) (offset : Nat) : Text → Cursor
  | [] => ⟨offset, []⟩
  | ch :: t =>
    if inComment then skipSpaceFrom (ch ≠ '\n') (offset + 1) t
    else if Text.isBlankChar ch then skipSpaceFrom false (offset + 1) t
    else if ch = '#' then skipSpaceFrom true (offset + 1) t
    else ⟨offset, ch :: t⟩

/-- The cursor after white space and comments, where these are ignored. -/
def skipSpace (spaced : Bool) (c : Cursor) : Cursor :=
  if spaced then skipSpaceFrom false c.offset c.rest else c

/-- The cursor after the next character and what is ignored after that. -/
def advance (spaced : Bool) (c : Cursor) : Cursor := c.next.skipSpace spaced

/-- The cursor after a given text, if it comes next. -/
def after? (c : Cursor) (text : Text) : Option Cursor :=
  (Text.afterStart? text c.rest).map fun rest => ⟨c.offset + text.length, rest⟩

/-- The stretch of the next character, empty at the end of the pattern. -/
def here (c : Cursor) : Span := ⟨c.offset, if c.atEnd then c.offset else c.offset + 1⟩

/-- The empty stretch before the next character. -/
def point (c : Cursor) : Span := ⟨c.offset, c.offset⟩

/-- The stretch from an earlier offset up to the cursor. -/
def since (first : Nat) (c : Cursor) : Span := ⟨first, c.offset⟩

/-- The character after the next one, passed over ignored white space and the sign that opens a
comment. If nothing but white space is left, it is the first of that. -/
def peek? (spaced : Bool) (c : Cursor) : Option Char :=
  let tail := c.rest.drop 1
  if spaced then
    let tail' := tail.dropWhile Text.isBlankChar
    let tail' := match tail' with
      | '#' :: t => t.dropWhile Text.isBlankChar
      | t => t
    if tail'.isEmpty then tail.head? else tail'.head?
  else tail.head?

/-- The characters that `accept` accepts, without what is ignored between them, and the cursor
after them. At most `count` characters are read. -/
def collect (spaced : Bool) (accept : Char → Bool) : (count : Nat) → Cursor → Text × Cursor
  | 0, c => ([], c)
  | count + 1, c =>
    match c.rest with
    | [] => ([], c)
    | ch :: _ =>
      if accept ch then
        let (t, c') := collect spaced accept count (c.advance spaced)
        (ch :: t, c')
      else ([], c)

/-- All characters that `accept` accepts from here on. -/
def collectAll (spaced : Bool) (accept : Char → Bool) (c : Cursor) : Text × Cursor :=
  collect spaced accept c.rest.length c

end Cursor

end ChoiceTemplate.Pattern

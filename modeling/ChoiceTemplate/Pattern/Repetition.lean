import ChoiceTemplate.Pattern.Cursor

/-
  The operators that repeat the part before them.

  `?`, `*` and `+` have fixed counts, and braces hold a count or two. A question mark after the
  operator makes it lazy. `readOperator` reads one operator with its question mark; the part
  that it repeats is none of its business, apart from having to be there.
-/
namespace ChoiceTemplate.Pattern

-- Powers are the core library's, whatever else is imported.
attribute [local instance (high)] instPowNat

/-- A decimal number in a count, with white space around it, in a text that may end anywhere.
Without digits the fault has cause `countEmpty`. -/
def readDecimal (spaced : Bool) (c : Cursor) : Except Fault Nat × Cursor :=
  let blanks := c.rest.takeWhile Text.isBlankChar
  let start : Cursor := ⟨c.offset + blanks.length, c.rest.dropWhile Text.isBlankChar⟩
  let (digits, stop) := start.collectAll spaced Char.isDigit
  let span := stop.since start.offset
  let (_, after) := stop.collectAll spaced Text.isBlankChar
  let value := digits.foldl (fun n d => 10 * n + (d.toNat - '0'.toNat)) 0
  if digits.isEmpty then (fail .countEmpty span, after)
  else if value < 2 ^ (32 : Nat) then (.ok value, after)
  else (fail .decimalInvalid span, after)

/-- A question mark after an operator, which makes it lazy. -/
def readLazy (c : Cursor) : Bool × Cursor := if c.isAt '?' then (false, c.next) else (true, c)

/-- The count between braces, at a cursor that stands on the opening one, and the cursor on the
closing one. -/
def readCount (spaced : Bool) (c : Cursor) : Except Fault (Count × Cursor) := do
  let inner := c.advance spaced
  if inner.atEnd then fail .countUnclosed (inner.since c.offset)
  else
    let (least, stop) := readDecimal spaced inner
    if stop.atEnd then fail .countUnclosed (stop.since c.offset)
    else if stop.isAt ',' then
      let second := stop.advance spaced
      if second.atEnd then fail .countUnclosed (second.since c.offset)
      else if second.isAt '\x7d' then
        let least ← least
        .ok (⟨least, none⟩, second)
      else
        let least ← least
        let (most, stop) := readDecimal spaced second
        let most ← most
        .ok (⟨least, some most⟩, stop)
    else
      let least ← least
      .ok (⟨least, some least⟩, stop)

/-- Whether the least count is at most the greatest. -/
def Count.isValid (count : Count) : Bool :=
  match count.most with
  | none => true
  | some most => count.least ≤ most

/-- An operator in braces: its count, whether it is greedy, and the cursor after it. -/
def readBraces (spaced : Bool) (c : Cursor) : Except Fault (Count × Bool × Cursor) := do
  let (count, close) ← readCount spaced c
  if !close.isAt '\x7d' then fail .countUnclosed (close.since c.offset)
  else
    let (greedy, after) := readLazy (close.advance spaced)
    if count.isValid then .ok (count, greedy, after)
    else fail .countInvalid (after.since c.offset)

/-- The count of an operator that is one character. -/
def simpleCount? (c : Char) : Option Count :=
  match c with
  | '?' => some ⟨0, some 1⟩
  | '*' => some ⟨0, none⟩
  | '+' => some ⟨1, none⟩
  | _ => none

/-- The operator that stands at a cursor: its count, whether it is greedy, and the cursor after
it. -/
def readOperator (spaced : Bool) (c : Cursor) : Except Fault (Count × Bool × Cursor) :=
  match c.rest.head?.bind simpleCount? with
  | some count =>
    let (greedy, after) := readLazy c.next
    .ok (count, greedy, after)
  | none => readBraces spaced c

end ChoiceTemplate.Pattern

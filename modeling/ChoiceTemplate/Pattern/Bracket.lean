import ChoiceTemplate.Pattern.Escape

/-
  Character classes in brackets.

  Inside the brackets stand single characters, ranges, escapes, named ASCII classes, further
  classes, and the operators `&&`, `--` and `~~`, which bind equally strongly and from the left
  over everything on either side of them. A hyphen is literal at the beginning of a class and
  before its end, and a closing bracket is literal at the beginning. Classes and operators that
  are not finished yet wait on a stack.
-/
namespace ChoiceTemplate.Pattern

/-- What waits while the inside of a class is read. -/
inductive ClassFrame where
  /-- A class whose closing bracket is missing yet, and the parts before it, last one first. -/
  | opened (before : List ClassSet) (offset : Nat) (span : Span) (negated : Bool)
  /-- An operator whose right side is missing yet. -/
  | pending (kind : ClassOp) (left : ClassSet)

/-- A class that is being read: the parts since the last bracket or operator, last one first,
and the offset where these begin. -/
structure ClassState where
  parts : List ClassSet
  offset : Nat
  stack : List ClassFrame
  cursor : Cursor

namespace ClassState

/-- The class that is open at the innermost level lacks its closing bracket. -/
def unclosed {α : Type} : List ClassFrame → Except Fault α
  | [] => fail .classUnclosed ⟨0, 0⟩
  | .opened _ _ span _ :: _ => fail .classUnclosed span
  | .pending _ _ :: stack => unclosed stack

/-- Applies the operator that waits on top of the stack, if one does. -/
def applyPending (right : ClassSet) : List ClassFrame → ClassSet × List ClassFrame
  | .pending kind left :: stack =>
    (.op ⟨left.span.first, right.span.stop⟩ kind left right, stack)
  | stack => (right, stack)

/-- The literal hyphens at the beginning of a class and the cursor after them, in at most
`count` steps; `start` is where the class begins. -/
def readHyphens (spaced : Bool) (start : Nat) : (count : Nat) → Cursor → Except Fault (List ClassSet × Cursor)
  | 0, c => .ok ([], c)
  | count + 1, c =>
    if c.isAt '-' then
      let after := c.advance spaced
      if after.atEnd then fail .classUnclosed ⟨start, start⟩
      else do
        let (hyphens, c') ← readHyphens spaced start count after
        .ok (.literal ⟨c.here, '-', false⟩ :: hyphens, c')
    else .ok ([], c)

/-- Opens a class, at a cursor that stands on its opening bracket. -/
def openClass (spaced : Bool) (before : List ClassSet) (offset : Nat) (stack : List ClassFrame)
    (c : Cursor) : Except Fault ClassState := do
  let start := c.offset
  let inner := c.advance spaced
  if inner.atEnd then fail .classUnclosed (inner.since start)
  else
    let negated := inner.isAt '^'
    let inner := if negated then inner.advance spaced else inner
    if inner.atEnd then fail .classUnclosed (inner.since start)
    else
      let (hyphens, c') ← readHyphens spaced start inner.rest.length inner
      if hyphens.isEmpty && c'.isAt ']' then
        let after := c'.advance spaced
        if after.atEnd then fail .classUnclosed (after.since start)
        else
          .ok ⟨[.literal ⟨c'.here, ']', false⟩], inner.offset,
            .opened before offset (after.since start) negated :: stack, after⟩
      else
        .ok ⟨hyphens.reverse, inner.offset,
          .opened before offset (c'.since start) negated :: stack, c'⟩

/-- Closes the innermost class, at a cursor that stands on its closing bracket. The outermost
one is the result. -/
def closeClass (s : ClassState) : Except Fault (ClassState ⊕ Ast × Cursor) :=
  let (set, stack) := applyPending (.ofList s.offset s.parts.reverse) s.stack
  let after := s.cursor.next
  match stack with
  | .opened before offset span negated :: rest =>
    let span := after.since span.first
    if rest.isEmpty then .ok (.inr (.bracketed span negated set, after))
    else .ok (.inl ⟨.bracketed span negated set :: before, offset, rest, after⟩)
  | _ => unclosed stack

/-- Puts an operator after the parts read so far. -/
def pushOp (s : ClassState) (kind : ClassOp) : ClassState :=
  let (left, stack) := applyPending (.ofList s.offset s.parts.reverse) s.stack
  let after := s.cursor.next.next
  ⟨[], after.offset, .pending kind left :: stack, after⟩

/-- Adds a part. -/
def push (s : ClassState) (part : ClassSet) (cursor : Cursor) : ClassState :=
  { s with parts := part :: s.parts, cursor }

/-- The ASCII classes by name. -/
def namedClass? (name : Text) : Option NamedClass :=
  ([("alnum", .alnum), ("alpha", .alpha), ("ascii", .ascii), ("blank", .blank),
    ("cntrl", .cntrl), ("digit", .digit), ("graph", .graph), ("lower", .lower),
    ("print", .print), ("punct", .punct), ("space", .space), ("upper", .upper),
    ("word", .word), ("xdigit", .xdigit)] : List (String × NamedClass)).findSome?
    fun (known, kind) => if name = known.toList then some kind else none

/-- A named ASCII class between `[:` and `:]`, if one stands at the cursor. -/
def readNamed? (c : Cursor) : Option (ClassSet × Cursor) := do
  let inner ← c.after? ['[', ':']
  let negated := inner.isAt '^'
  let inner := if negated then inner.next else inner
  let name := inner.rest.takeWhile (· ≠ ':')
  let close ← (inner.after? name).bind (·.after? [':', ']'])
  let kind ← namedClass? name
  some (.named (close.since c.offset) negated kind, close)

/-- A single character or an escape sequence in a class. -/
def readItem (spaced : Bool) (c : Cursor) : Except Fault (Primitive × Cursor) :=
  match c.rest with
  | [] => fail .classUnclosed c.point
  | ch :: _ =>
    if ch = '\\' then readEscape spaced c else .ok (.literal ⟨c.here, ch, false⟩, c.next)

/-- A single part of a class or a range. A hyphen makes a range unless a closing bracket or
another hyphen follows it. -/
def readRange (spaced : Bool) (s : ClassState) : Except Fault ClassState := do
  let (low, c) ← readItem spaced s.cursor
  let c := c.skipSpace spaced
  if c.atEnd then unclosed s.stack
  else if !c.isAt '-' || c.peek? spaced == some ']' || c.peek? spaced == some '-' then
    let part ← low.toClassSet
    .ok (s.push part c)
  else
    let c := c.advance spaced
    if c.atEnd then unclosed s.stack
    else
      let (high, c) ← readItem spaced c
      let lowLiteral ← low.toRangeEnd
      let highLiteral ← high.toRangeEnd
      if highLiteral.char < lowLiteral.char then
        fail .classRangeInvalid ⟨lowLiteral.span.first, highLiteral.span.stop⟩
      else .ok (s.push (.range lowLiteral highLiteral) c)

/-- Reads the next thing in a class. The result is the state after it, or the finished class. -/
def step (spaced : Bool) (s : ClassState) : Except Fault (ClassState ⊕ Ast × Cursor) :=
  let c := s.cursor.skipSpace spaced
  let s := { s with cursor := c }
  match c.rest with
  | [] => unclosed s.stack
  | '[' :: _ =>
    match readNamed? c with
    | some (part, after) => .ok (.inl (s.push part after))
    | none => (openClass spaced s.parts s.offset s.stack c).map .inl
  | ']' :: _ => closeClass s
  | '&' :: '&' :: _ => .ok (.inl (s.pushOp .intersection))
  | '-' :: '-' :: _ => .ok (.inl (s.pushOp .difference))
  | '~' :: '~' :: _ => .ok (.inl (s.pushOp .symmetricDifference))
  | _ => (readRange spaced s).map .inl

/-- Reads the rest of a class in at most `count` steps. -/
def run (spaced : Bool) : (count : Nat) → ClassState → Except Fault (Ast × Cursor)
  | 0, s => unclosed s.stack
  | count + 1, s =>
    match step spaced s with
    | .error fault => .error fault
    | .ok (.inr result) => .ok result
    | .ok (.inl s') => run spaced count s'

end ClassState

/-- A character class, at a cursor that stands on its opening bracket. -/
def readClass (spaced : Bool) (c : Cursor) : Except Fault (Ast × Cursor) := do
  let s ← ClassState.openClass spaced [] c.offset [] c
  s.run spaced (c.rest.length + 1)

end ChoiceTemplate.Pattern

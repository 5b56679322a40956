import ChoiceTemplate.Pattern.Bracket
import ChoiceTemplate.Pattern.Group
import ChoiceTemplate.Pattern.Repetition

/-
  Reading the text of a pattern.

  The parts of the innermost group that is open are collected one after another; groups and
  choices that are not finished yet wait on a stack. `ReadState.step` reads the next part,
  operator, parenthesis or bar, and `read` repeats that to the end of the text, where no group
  may be open any more.
-/
namespace ChoiceTemplate.Pattern

/-- What waits while a part of a pattern is read. -/
inductive Frame where
  /-- A group whose closing parenthesis is missing yet, with the sequence before it (last part
  first), where that begins, and whether white space was ignored there. -/
  | group (before : List Ast) (offset : Nat) (spaced : Bool) (opening : Span) (captures : Bool)
    (changes : FlagChanges)
  /-- Alternatives that are finished, last one first, and where the first one begins. -/
  | alternatives (parts : List Ast) (offset : Nat)

/-- A pattern that is being read: the sequence under way, last part first, and where it begins. -/
structure ReadState where
  parts : List Ast
  offset : Nat
  spaced : Bool
  names : GroupNames
  stack : List Frame
  cursor : Cursor

namespace ReadState

/-- The state before a pattern. -/
def start (source : Text) : ReadState := ⟨[], 0, false, [], [], ⟨0, source⟩⟩

/-- Adds a part to the sequence. -/
def push (s : ReadState) (part : Ast) (cursor : Cursor) : ReadState :=
  { s with parts := part :: s.parts, cursor }

/-- The sequence that has been read. -/
def sequence (s : ReadState) : Ast := .ofSequence ⟨s.offset, s.cursor.offset⟩ s.parts.reverse

/-- The sequence that has been read, as the last of the alternatives that wait on top of the
stack if some do, and the stack without them. -/
def closeAlternatives (s : ReadState) : Ast × List Frame :=
  match s.stack with
  | .alternatives parts offset :: stack =>
    (.ofAlternatives ⟨offset, s.cursor.offset⟩ (s.sequence :: parts).reverse, stack)
  | stack => (s.sequence, stack)

/-- A bar: the sequence is an alternative, and the next one begins. -/
def bar (s : ReadState) : ReadState :=
  let after := s.cursor.next
  let stack := match s.stack with
    | .alternatives parts offset :: stack => .alternatives (s.sequence :: parts) offset :: stack
    | stack => .alternatives [s.sequence] s.offset :: stack
  { s with parts := [], offset := after.offset, stack, cursor := after }

/-- An opening parenthesis: a group begins, or flags are set. -/
def openGroup (s : ReadState) : Except Fault ReadState := do
  let (opening, names, after) ← readOpening s.spaced s.names s.cursor
  match opening with
  | .flags changes =>
    .ok { s with
      parts := .flags changes :: s.parts
      spaced := (changes.value? .ignoreSpace).getD s.spaced
      cursor := after }
  | .group captures changes =>
    .ok {
      parts := []
      offset := after.offset
      spaced := (changes.value? .ignoreSpace).getD s.spaced
      names
      stack := .group s.parts s.offset s.spaced s.cursor.here captures changes :: s.stack
      cursor := after }

/-- A closing parenthesis: the innermost group is finished. -/
def closeGroup (s : ReadState) : Except Fault ReadState :=
  let (body, stack) := s.closeAlternatives
  match stack with
  | .group before offset spaced opening captures changes :: stack =>
    let after := s.cursor.next
    .ok { s with
      parts := .group (after.since opening.first) captures changes body :: before
      offset
      spaced
      stack
      cursor := after }
  | _ => fail .groupUnopened s.cursor.here

/-- An operator: the last part of the sequence is repeated. There must be one, and neither
nothing nor flags can be repeated. -/
def repeatLast (s : ReadState) : Except Fault ReadState :=
  match s.parts with
  | [] => fail .repetitionMissing s.cursor.point
  | .empty :: _ => fail .repetitionMissing s.cursor.point
  | .flags _ :: _ => fail .repetitionMissing s.cursor.point
  | part :: before => do
    let (count, greedy, after) ← readOperator s.spaced s.cursor
    .ok { s with
      parts := .repetition (after.since part.first) count greedy part :: before
      cursor := after }

/-- A single character, an escape sequence, a dot or an anchor. -/
def readPrimitive (s : ReadState) (c : Char) : Except Fault (Primitive × Cursor) :=
  let after := s.cursor.next
  let span := s.cursor.here
  match c with
  | '\\' => readEscape s.spaced s.cursor
  | '.' => .ok (.dot span, after)
  | '^' => .ok (.anchor span .lineStart, after)
  | '$' => .ok (.anchor span .lineEnd, after)
  | c => .ok (.literal ⟨span, c, false⟩, after)

/-- Reads what comes next, which begins with the character `c`. -/
def stepAt (s : ReadState) (c : Char) : Except Fault ReadState :=
  match c with
  | '(' => s.openGroup
  | ')' => s.closeGroup
  | '|' => .ok s.bar
  | '[' => (readClass s.spaced s.cursor).map fun (part, after) => s.push part after
  | '?' => s.repeatLast
  | '*' => s.repeatLast
  | '+' => s.repeatLast
  | '\x7b' => s.repeatLast
  | c => (s.readPrimitive c).map fun (part, after) => s.push part.toAst after

/-- The pattern that has been read to its end, where no group may be open. -/
def finish (s : ReadState) : Except Fault Ast :=
  match s.closeAlternatives with
  | (body, []) => .ok body
  | (_, .group _ _ _ opening _ _ :: _) => fail .groupUnclosed opening
  | (body, .alternatives _ _ :: _) => .ok body

/-- Reads on to the end of the pattern in at most `count` steps. -/
def run : (count : Nat) → ReadState → Except Fault Ast
  | 0, s => s.finish
  | count + 1, s =>
    let s := { s with cursor := s.cursor.skipSpace s.spaced }
    match s.cursor.rest with
    | [] => s.finish
    | c :: _ => (s.stepAt c).bind (run count)

end ReadState

namespace ClassSet

/-- Where a part of a class is nested too deeply, `depth` levels being around it. -/
def tooDeep? (depth : Nat) : ClassSet → Option Span
  | .bracketed span _ set => if depth = nestingLimit then some span else tooDeep? (depth + 1) set
  | .also part rest => (tooDeep? depth part).or (tooDeep? depth rest)
  | .several span parts => if depth = nestingLimit then some span else tooDeep? (depth + 1) parts
  | .op span _ left right =>
    if depth = nestingLimit then some span
    else (tooDeep? (depth + 1) left).or (tooDeep? (depth + 1) right)
  | _ => none

end ClassSet

namespace Ast

/-- Where a part of a pattern is nested too deeply, `depth` levels being around it. -/
def tooDeep? (depth : Nat) : Ast → Option Span
  | .bracketed span _ set =>
    if depth = nestingLimit then some span else set.tooDeep? (depth + 1)
  | .repetition span _ _ body =>
    if depth = nestingLimit then some span else tooDeep? (depth + 1) body
  | .group span _ _ body => if depth = nestingLimit then some span else tooDeep? (depth + 1) body
  | .andThen part rest => (tooDeep? depth part).or (tooDeep? depth rest)
  | .sequence span parts => if depth = nestingLimit then some span else tooDeep? (depth + 1) parts
  | .orElse part rest => (tooDeep? depth part).or (tooDeep? depth rest)
  | .alternatives span parts =>
    if depth = nestingLimit then some span else tooDeep? (depth + 1) parts
  | _ => none

end Ast

/-- The parts of a pattern, if its text is one and is not nested too deeply. -/
def read (source : Text) : Except Fault Ast := do
  let ast ← (ReadState.start source).run (source.length + 1)
  match ast.tooDeep? 0 with
  | some span => fail .nestingTooDeep span
  | none => .ok ast

end ChoiceTemplate.Pattern

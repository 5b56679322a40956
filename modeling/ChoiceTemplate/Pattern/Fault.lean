import ChoiceTemplate.Text.Lines

/-
  What can be wrong with the text of a pattern, and how that is shown.

  A fault has a cause and the stretch of the pattern that it is about; for a thing that occurs
  twice it also has the stretch of the first occurrence. `Fault.render` writes the pattern with
  marks under these stretches and the cause below. A pattern of several lines is written between
  two dividers with numbered lines, and a stretch that crosses lines is described in words.
-/
namespace ChoiceTemplate

/-- A stretch of a text, from the character at `first` up to the one before `stop`. -/
structure Span where
  first : Nat
  stop : Nat
  deriving DecidableEq

namespace Pattern

/-- How deep the parts of a pattern may be nested. -/
def nestingLimit : Nat := 250

/-- What is wrong with a pattern. -/
inductive Cause where
  | groupUnclosed
  | groupUnopened
  | classUnclosed
  | classRangeInvalid
  | classRangeLiteral
  | classEscapeInvalid
  | repetitionMissing
  | countUnclosed
  | countEmpty
  | countInvalid
  | decimalInvalid
  | escapeUnrecognized
  | escapeUnfinished
  | backreference
  | hexDigitInvalid
  | hexEmpty
  | hexInvalid
  | propertyInvalid
  | propertyNotFound
  | propertyValueNotFound
  | flagUnrecognized
  | flagDuplicate
  | flagNegationRepeated
  | flagNegationDangling
  | flagUnfinished
  | lookAround
  | nameEmpty
  | nameInvalid
  | nameUnclosed
  | nameDuplicate
  | boundaryUnclosed
  | boundaryUnrecognized
  | boundaryUnfinished
  | nestingTooDeep
  | invalidUtf8
  | unicodeNotAllowed
  deriving DecidableEq

/-- The wording of a cause. -/
def Cause.message : Cause → Text
  | .groupUnclosed => "unclosed group".toList
  | .groupUnopened => "unopened group".toList
  | .classUnclosed => "unclosed character class".toList
  | .classRangeInvalid =>
    "invalid character class range, the start must be <= the end".toList
  | .classRangeLiteral => "invalid range boundary, must be a literal".toList
  | .classEscapeInvalid => "invalid escape sequence found in character class".toList
  | .repetitionMissing => "repetition operator missing expression".toList
  | .countUnclosed => "unclosed counted repetition".toList
  | .countEmpty => "repetition quantifier expects a valid decimal".toList
  | .countInvalid =>
    "invalid repetition count range, the start must be <= the end".toList
  | .decimalInvalid => "decimal literal invalid".toList
  | .escapeUnrecognized => "unrecognized escape sequence".toList
  | .escapeUnfinished =>
    "incomplete escape sequence, reached end of pattern prematurely".toList
  | .backreference => "backreferences are not supported".toList
  | .hexDigitInvalid => "invalid hexadecimal digit".toList
  | .hexEmpty => "hexadecimal literal empty".toList
  | .hexInvalid => "hexadecimal literal is not a Unicode scalar value".toList
  | .propertyInvalid => "invalid Unicode character class".toList
  | .propertyNotFound => "Unicode property not found".toList
  | .propertyValueNotFound => "Unicode property value not found".toList
  | .flagUnrecognized => "unrecognized flag".toList
  | .flagDuplicate => "duplicate flag".toList
  | .flagNegationRepeated => "flag negation operator repeated".toList
  | .flagNegationDangling => "dangling flag negation operator".toList
  | .flagUnfinished => "expected flag but got end of regex".toList
  | .lookAround =>
    "look-around, including look-ahead and look-behind, is not supported".toList
  | .nameEmpty => "empty capture group name".toList
  | .nameInvalid => "invalid capture group character".toList
  | .nameUnclosed => "unclosed capture group name".toList
  | .nameDuplicate => "duplicate capture group name".toList
  | .boundaryUnclosed =>
    "special word boundary assertion is either unclosed or contains an invalid character".toList
  | .boundaryUnrecognized =>
    ("unrecognized special word boundary assertion, " ++
      "valid choices are: start, end, start-half or end-half").toList
  | .boundaryUnfinished =>
    ("found either the beginning of a special word boundary or a bounded repetition " ++
      "on a \\b with an opening brace, but no closing brace").toList
  | .nestingTooDeep =>
    "exceed the maximum number of nested parentheses/brackets (".toList ++
      Text.ofNat nestingLimit ++ [')']
  | .invalidUtf8 => "pattern can match invalid UTF-8".toList
  | .unicodeNotAllowed => "Unicode not allowed here".toList

/-- A cause, the stretch of the pattern it is about, and where the same thing stood before. -/
structure Fault where
  cause : Cause
  span : Span
  earlier : Option Span := none
  deriving DecidableEq

/-- Gives up with a fault. -/
def fail {α : Type} (cause : Cause) (span : Span) : Except Fault α := .error ⟨cause, span, none⟩

/-- A place in a text of several lines. Lines and columns are counted from one. -/
structure Place where
  line : Nat
  column : Nat
  deriving DecidableEq

/-- The place that is reached from `place` by reading `count` characters of a text. -/
def Place.after (place : Place) : (count : Nat) → Text → Place
  | 0, _ => place
  | _ + 1, [] => place
  | count + 1, c :: t =>
    Place.after (if c = '\n' then ⟨place.line + 1, 1⟩ else ⟨place.line, place.column + 1⟩) count t

/-- A stretch of a text as two places. -/
structure PlacedSpan where
  first : Place
  stop : Place

/-- The places where a stretch of a text begins and stops. -/
def PlacedSpan.ofSpan (source : Text) (span : Span) : PlacedSpan :=
  ⟨Place.after ⟨1, 1⟩ span.first source, Place.after ⟨1, 1⟩ span.stop source⟩

def PlacedSpan.onOneLine (span : PlacedSpan) : Bool := span.first.line = span.stop.line

namespace Fault

/-- The stretches of a fault in the order of the text. -/
def spans (fault : Fault) : List Span :=
  match fault.earlier with
  | none => [fault.span]
  | some other =>
    if (other.first, other.stop) = (fault.span.first, fault.span.stop) ∨
        fault.span.first < other.first ∨
        (fault.span.first = other.first ∧ fault.span.stop < other.stop) then
      [fault.span, other]
    else [other, fault.span]

/-- Marks under stretches of one line, of which the columns before `column` have been passed.
An empty stretch has one mark. -/
def marksFrom (column : Nat) : List PlacedSpan → Text
  | [] => []
  | span :: rest =>
    let gap := span.first.column - column
    let width := max 1 (span.stop.column - span.first.column)
    List.replicate gap ' ' ++ List.replicate width '^' ++ marksFrom (column + gap + width) rest

/-- A line of a pattern after its margin, and below it the marks of the stretches on it. -/
def markedLine (margin : Text) (spans : List PlacedSpan) (number : Nat) (line : Text) : Text :=
  let own := spans.filter fun span => span.onOneLine && span.first.line == number
  margin ++ line ++ ['\n'] ++
    if own.isEmpty then []
    else List.replicate margin.length ' ' ++ marksFrom 1 own ++ ['\n']

/-- The lines of a pattern from a number on, each with its marks. -/
def markedLines (margin : Nat → Text) (spans : List PlacedSpan) :
    (number : Nat) → List Text → Text
  | _, [] => []
  | number, line :: rest =>
    markedLine (margin number) spans number line ++ markedLines margin spans (number + 1) rest

/-- A stretch that crosses lines, in words. -/
def spanNote (span : PlacedSpan) : Text :=
  "on line ".toList ++ Text.ofNat span.first.line ++ " (column ".toList ++
    Text.ofNat span.first.column ++ ") through line ".toList ++ Text.ofNat span.stop.line ++
    " (column ".toList ++ Text.ofNat (span.stop.column - 1) ++ [')']

/-- How many digits the line numbers of a pattern take. A final line feed opens a line. -/
def numberWidth (source : Text) : Nat :=
  let count := (Text.lines source).length
  (Text.ofNat (if source.getLast? = some '\n' then count + 1 else count)).length

/-- The line above and below a pattern of several lines. -/
def divider : Text := List.replicate 79 '~' ++ ['\n']

/-- A fault as it is shown for the pattern it was found in. -/
def render (source : Text) (fault : Fault) : Text :=
  let spans := fault.spans.map (PlacedSpan.ofSpan source)
  let heading := "regex parse error:\n".toList
  let cause := "error: ".toList ++ fault.cause.message
  if source.contains '\n' then
    let margin number := Text.padLeft ' ' (numberWidth source) (Text.ofNat number) ++ [':', ' ']
    let notes := (spans.filter fun span => !span.onOneLine).map spanNote
    heading ++ divider ++ markedLines margin spans 1 (Text.lines source) ++ divider ++
      (if notes.isEmpty then [] else Text.join ['\n'] notes ++ ['\n']) ++ cause
  else
    heading ++ markedLines (fun _ => List.replicate 4 ' ') spans 1 (Text.lines source) ++ cause

end Fault

end Pattern

end ChoiceTemplate

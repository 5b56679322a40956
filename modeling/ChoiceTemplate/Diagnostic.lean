import ChoiceTemplate.Lint
import ChoiceTemplate.Text.Lines

/-
  Warnings as diagnostics that point at a line of a file.

  The position of a line counts each line before it as its bytes and one more for the ending, and
  neither the position nor the length goes beyond the content.
-/
namespace ChoiceTemplate

-- Sums start at the literal zero, whatever else is imported.
attribute [local instance (high)] Zero.ofOfNat0

/-- A warning's wording and the bytes of the file it is about. -/
structure Diagnostic where
  path : Text
  message : Text
  offset : Nat
  length : Nat
  deriving DecidableEq

namespace Diagnostic

/-- The label at the bytes that a diagnostic is about. -/
def label : Text := "in this template".toList

/-- The bytes of some lines, with one more for each ending. -/
def linesLength (lines : List Text) : Nat := (lines.map fun line => Text.byteLength line + 1).sum

/-- The diagnostic of a warning about the line with a given index, counted from zero. -/
def forLine (path content : Text) (lineIndex : Nat) (warning : Warning) : Diagnostic :=
  let lines := Text.lines content
  let size := Text.byteLength content
  let offset := min (linesLength (lines.take lineIndex)) size
  let length := min ((lines[lineIndex]?.map Text.byteLength).getD 0) (size - offset)
  ⟨path, "template warning: ".toList ++ warning.message, offset, length⟩

/-- A diagnostic on one line, where it is not drawn beside the lines of the file. -/
def summary (d : Diagnostic) : Text :=
  d.path ++ [':', ' '] ++ d.message ++ [' ', '('] ++ label ++ ", bytes ".toList ++
    Text.ofNat d.offset ++ " to ".toList ++ Text.ofNat (d.offset + d.length) ++ [')']

end Diagnostic

end ChoiceTemplate

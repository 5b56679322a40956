import ChoiceTemplate.Text.Basic

/-
  The lines of a text, and what counts as a blank one.

  A line ends at a line feed, and a carriage return right before that line feed belongs to the
  ending. A text that ends with a line ending has no further line after it, and the empty text
  has no line at all.
-/
namespace ChoiceTemplate.Text

/-- Whether a character is white space in the sense of Unicode. -/
def isBlankChar (c : Char) : Bool :=
  let n := c.toNat
  (9 ≤ n && n ≤ 13) || n == 0x20 || n == 0x85 || n == 0xA0 || n == 0x1680 ||
    (0x2000 ≤ n && n ≤ 0x200A) || n == 0x2028 || n == 0x2029 || n == 0x202F || n == 0x205F ||
    n == 0x3000

/-- Whether a text holds white space only. -/
def isBlank (t : Text) : Bool := t.all isBlankChar

/-- The text without the carriage return that ends it, if one does. -/
def dropFinalReturn : Text → Text
  | [] => []
  | [c] => if c = '\r' then [] else [c]
  | c :: d :: t => c :: dropFinalReturn (d :: t)

/-- The lines of a text of which `line`, in reverse, has been read of the line under way. -/
def linesFrom (line : Text) : Text → List Text
  | [] => if line = [] then [] else [line.reverse]
  | c :: t =>
    if c = '\n' then dropFinalReturn line.reverse :: linesFrom [] t else linesFrom (c :: line) t

/-- The lines of a text without their endings. -/
def lines (t : Text) : List Text := linesFrom [] t

end ChoiceTemplate.Text

import ChoiceTemplate.Json.Basic
import ChoiceTemplate.Number.Shortest

/-
  Writing JSON values.

  `Json.compact` writes a value without any white space. `Json.pretty` writes each item and each
  member on a line of its own, two spaces further in than what is around it; empty arrays and
  objects stay on one line.
-/
namespace ChoiceTemplate.Json

/-- Whether a real number is written without an exponent, given the exponent of its first digit:
from `10 ^ -5` up to `10 ^ 16`. -/
def isPlain (leading : Int) : Bool := -5 ≤ leading && leading < 16

/-- Digits times a power of ten as the size of a real number. There is always a fraction or an
exponent, and an exponent always has a sign. -/
def realText (digits : Nat) (exponent : Int) : Text :=
  let ds := Text.ofNat digits
  let leading := exponent + ds.length - 1
  if isPlain leading then
    positional digits exponent ++ (if 0 ≤ exponent then ['.', '0'] else [])
  else
    let mantissa := match ds with
      | [] => []
      | [d] => [d]
      | d :: rest => d :: '.' :: rest
    mantissa ++ 'e' :: (if leading < 0 then '-' else '+') :: Text.ofNat leading.natAbs

/-- A real number. Only finite numbers have a form of their own. -/
def printReal : Double → Text
  | .finite negative a =>
    let (digits, exponent) := if a.units = 0 then (0, 0) else a.shortest .toEven
    (if negative then ['-'] else []) ++ realText digits exponent
  | _ => "null".toList

/-- A control character by its code, in four hexadecimal digits. -/
def escapeCode (c : Char) : Text :=
  '\\' :: 'u' :: Text.padLeft '0' 4 (Nat.toDigits 16 c.toNat)

/-- A character as it is written in a string. -/
def escapeChar (c : Char) : Text :=
  match c with
  | '"' => ['\\', '"']
  | '\\' => ['\\', '\\']
  | '\x08' => ['\\', 'b']
  | '\t' => ['\\', 't']
  | '\n' => ['\\', 'n']
  | '\x0c' => ['\\', 'f']
  | '\r' => ['\\', 'r']
  | c => if c.toNat < 0x20 then escapeCode c else [c]

/-- A string in quotes. -/
def quote (t : Text) : Text := '"' :: t.flatMap escapeChar ++ ['"']

/-- A value that has no parts. -/
def printLeaf : Json → Text
  | .null => "null".toList
  | .boolean true => "true".toList
  | .boolean false => "false".toList
  | .integer value => Text.ofInt value
  | .real value => printReal value
  | .string value => quote value
  | .array _ => ['[', ']']
  | .object _ => ['\x7b', '\x7d']

mutual

/-- A value without white space. -/
def compact : Json → Text
  | .array items => '[' :: Text.join [','] (compactItems items) ++ [']']
  | .object members => '\x7b' :: Text.join [','] (compactMembers members) ++ ['\x7d']
  | .null => printLeaf .null
  | .boolean value => printLeaf (.boolean value)
  | .integer value => printLeaf (.integer value)
  | .real value => printLeaf (.real value)
  | .string value => printLeaf (.string value)

/-- The items of an array, each without white space. -/
def compactItems : List Json → List Text
  | [] => []
  | item :: rest => compact item :: compactItems rest

/-- The members of an object, each without white space. -/
def compactMembers : List (Text × Json) → List Text
  | [] => []
  | (key, value) :: rest => (quote key ++ ':' :: compact value) :: compactMembers rest

end

/-- A new line at a level of indentation. -/
def newLine (level : Nat) : Text := '\n' :: List.replicate (2 * level) ' '

/-- Parts between brackets, each on a line of its own at a level of indentation. -/
def block (level : Nat) (opening closing : Char) (parts : List Text) : Text :=
  if parts.isEmpty then [opening, closing]
  else
    opening :: newLine (level + 1) ++ Text.join (',' :: newLine (level + 1)) parts ++
      newLine level ++ [closing]

mutual

/-- A value with indentation, at a level of it. -/
def prettyAt (level : Nat) : Json → Text
  | .array items => block level '[' ']' (prettyItems (level + 1) items)
  | .object members => block level '\x7b' '\x7d' (prettyMembers (level + 1) members)
  | .null => printLeaf .null
  | .boolean value => printLeaf (.boolean value)
  | .integer value => printLeaf (.integer value)
  | .real value => printLeaf (.real value)
  | .string value => printLeaf (.string value)

/-- The items of an array, each with indentation. -/
def prettyItems (level : Nat) : List Json → List Text
  | [] => []
  | item :: rest => prettyAt level item :: prettyItems level rest

/-- The members of an object, each with indentation. -/
def prettyMembers (level : Nat) : List (Text × Json) → List Text
  | [] => []
  | (key, value) :: rest =>
    (quote key ++ ':' :: ' ' :: prettyAt level value) :: prettyMembers level rest

end

/-- A value with indentation. -/
def pretty (value : Json) : Text := prettyAt 0 value

end ChoiceTemplate.Json

import ChoiceTemplate.Text.Basic

/-
  Number literals at the front of a text.

  A float literal is an optional sign, digits with an optional point and more digits (or a point
  with digits after it), and an optional exponent. An integer literal is an optional sign and
  digits. `floatLiteral?` and `integerLiteral?` cut the longest such literal off a text, and
  `Decimal.ofLiteral` is the number that a float literal denotes.
-/
namespace ChoiceTemplate

/-- The characters that may stand before a lenient number: space, tab, line feed, form feed and
carriage return. -/
def isLeadingSpace (c : Char) : Bool :=
  c = ' ' || c = '\t' || c = '\n' || c = '\x0c' || c = '\r'

/-- A text without the white space it begins with. -/
def dropLeadingSpace (t : Text) : Text := t.dropWhile isLeadingSpace

/-- The digits that a text begins with, and the rest of it. -/
def cutDigits (t : Text) : Text × Text := (t.takeWhile Char.isDigit, t.dropWhile Char.isDigit)

/-- The sign that a text begins with, if it begins with one, and the rest of it. -/
def cutSign : Text → Text × Text
  | '+' :: t => (['+'], t)
  | '-' :: t => (['-'], t)
  | t => ([], t)

/-- The digits and the point of a float literal, and the rest of the text. -/
def cutMantissa? (t : Text) : Option (Text × Text) :=
  match cutDigits t with
  | ([], '.' :: r) =>
    match cutDigits r with
    | ([], _) => none
    | (fraction, r') => some ('.' :: fraction, r')
  | ([], _) => none
  | (whole, '.' :: r) =>
    let (fraction, r') := cutDigits r
    some (whole ++ '.' :: fraction, r')
  | (whole, r) => some (whole, r)

/-- The exponent that a text begins with, nothing if it begins with none, and the rest. -/
def cutExponent : Text → Text × Text
  | [] => ([], [])
  | c :: t =>
    if c = 'e' ∨ c = 'E' then
      let (sign, r) := cutSign t
      match cutDigits r with
      | ([], _) => ([], c :: t)
      | (digits, r') => (c :: (sign ++ digits), r')
    else ([], c :: t)

/-- The longest float literal that a text begins with, and the rest of the text. -/
def floatLiteral? (t : Text) : Option (Text × Text) :=
  let (sign, r) := cutSign t
  (cutMantissa? r).map fun (mantissa, r') =>
    let (exponent, rest) := cutExponent r'
    (sign ++ mantissa ++ exponent, rest)

/-- The longest integer literal that a text begins with, and the rest of the text. -/
def integerLiteral? (t : Text) : Option (Text × Text) :=
  let (sign, r) := cutSign t
  match cutDigits r with
  | ([], _) => none
  | (digits, rest) => some (sign ++ digits, rest)

/-- The value of one decimal digit. -/
def digitValue (c : Char) : Nat := c.toNat - '0'.toNat

/-- The number that decimal digits denote, after the digits of `n`. -/
def digitsValueFrom (n : Nat) : Text → Nat
  | [] => n
  | c :: t => digitsValueFrom (10 * n + digitValue c) t

/-- The number that decimal digits denote. -/
def digitsValue (t : Text) : Nat := digitsValueFrom 0 t

/-- Whether a sign is the minus sign. -/
def isMinus (sign : Text) : Bool := sign = ['-']

/-- The integer that an integer literal denotes. -/
def integerValue (literal : Text) : Int :=
  let (sign, digits) := cutSign literal
  if isMinus sign then -(digitsValue digits : Int) else digitsValue digits

/-- A decimal number: digits times a power of ten, with a sign. -/
structure Decimal where
  negative : Bool
  digits : Nat
  exponent : Int
  deriving DecidableEq

namespace Decimal

/-- The power of ten that the exponent part of a float literal denotes. -/
def exponentValue : Text → Int
  | [] => 0
  | _ :: t => integerValue t

/-- The decimal number that a float literal denotes. -/
def ofLiteral (literal : Text) : Decimal :=
  let (sign, t) := cutSign literal
  let (whole, r) := cutDigits t
  let (fraction, power) :=
    match r with
    | '.' :: r' => cutDigits r'
    | _ => ([], r)
  ⟨isMinus sign, digitsValue (whole ++ fraction), exponentValue power - fraction.length⟩

end Decimal

end ChoiceTemplate

import ChoiceTemplate.Number.Decimal

/-
  Reading numbers out of text.

  The lenient readers serve selectors: they skip white space, take the longest literal that is
  there and ignore what follows it, and they answer zero instead of failing. The integer reader
  also answers zero outside a fixed window. The strict reader wants the whole text to be a
  number, without white space, and knows the names of infinity and NaN.
-/
namespace ChoiceTemplate

namespace Double

/-- The largest size of an integer that a selector may name. -/
def integerLimit : Nat := 92233720368547

/-- The number that a text begins with, after white space. Zero if there is none or if it is too
large for a finite number. -/
def readLenient (t : Text) : Double :=
  match floatLiteral? (dropLeadingSpace t) with
  | none => zero false
  | some (literal, _) =>
    let value := (Decimal.ofLiteral literal).toDouble
    if value.isFinite then value else zero false

/-- The integer that a text begins with, after white space. Zero if there is none or if it is
beyond `integerLimit`. -/
def readInteger (t : Text) : Int :=
  match integerLiteral? (dropLeadingSpace t) with
  | none => 0
  | some (literal, _) =>
    let value := integerValue literal
    if value.natAbs ≤ integerLimit then value else 0

/-- `readInteger` as a floating-point number. -/
def readIntegerLenient (t : Text) : Double := ofInt (readInteger t)

/-- Whether a text is a float literal and nothing else, apart from white space before it. -/
def isNumber (t : Text) : Bool :=
  match floatLiteral? (dropLeadingSpace t) with
  | some (_, []) => true
  | _ => false

/-- The names of the numbers that have no digits, in lower case. -/
def named? (t : Text) : Option Double :=
  let (sign, name) := cutSign t
  let name := name.lowercase
  if name = "nan".toList then some .nan
  else if name = "inf".toList ∨ name = "infinity".toList then some (.infinity (isMinus sign))
  else none

/-- The number that the whole of a text denotes, read as `value` reads a decimal number. -/
def readWith? (value : Decimal → Double) (t : Text) : Option Double :=
  match floatLiteral? t with
  | some (literal, []) => some (value (Decimal.ofLiteral literal))
  | _ => named? t

/-- The number that the whole of a text denotes. -/
def read? (t : Text) : Option Double := readWith? Decimal.toDouble t

/-- The number of 32 bits that the whole of a text denotes. -/
def readSingle? (t : Text) : Option Double := readWith? Decimal.toSingle t

end Double

/-- The integer that the whole of a text denotes, if it is one between `low` and `high`. -/
def readInteger? (low high : Int) (t : Text) : Option Int :=
  match integerLiteral? t with
  | some (literal, []) =>
    let value := integerValue literal
    if low ≤ value ∧ value ≤ high then some value else none
  | _ => none

end ChoiceTemplate

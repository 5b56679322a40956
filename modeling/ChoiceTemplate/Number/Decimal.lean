import ChoiceTemplate.Number.Literal
import ChoiceTemplate.Number.Double

/-
  Decimal numbers as floating-point numbers.

  A decimal number becomes the nearest number of 64 bits (`Decimal.toDouble`). An exponent that
  is out of reach is settled before any power of ten is computed, so a literal with a huge
  exponent costs nothing. `Decimal.toSingle` rounds to 32 bits instead and gives the result as
  the number of 64 bits that it is.
-/
namespace ChoiceTemplate

-- Powers are the core library's, whatever else is imported.
attribute [local instance (high)] instPowNat

namespace Double

/-- The binary exponent that `digits * 10 ^ exponent` has at least, if the power of ten is not
negative, and at most, up to one, if it is not positive. -/
def binaryScale (digits : Nat) (exponent : Int) : Int := 3 * exponent + digits.log2

end Double

namespace Decimal

/-- Whether a decimal number is at least `2 ^ 1024` by its exponents alone. -/
def isHuge (d : Decimal) : Bool := 0 < d.exponent && 1024 ≤ Double.binaryScale d.digits d.exponent

/-- Whether a decimal number is at most `2 ^ -1076` by its exponents alone. -/
def isTiny (d : Decimal) : Bool := d.exponent < 0 && Double.binaryScale d.digits d.exponent ≤ -1077

/-- The numerator of a decimal number counted in units of which `scale` make one. -/
def numerator (d : Decimal) (scale : Nat) : Nat := d.digits * scale * 10 ^ d.exponent.toNat

/-- The denominator that belongs to `numerator`. -/
def denominator (d : Decimal) : Nat := 10 ^ (-d.exponent).toNat

/-- The number of 64 bits nearest to a decimal number. -/
def toDouble (d : Decimal) : Double :=
  if d.digits = 0 ∨ d.isTiny then Double.zero d.negative
  else if d.isHuge then .infinity d.negative
  else Double.ofRatio d.negative (d.numerator Double.one) d.denominator

/-- The number of 32 bits nearest to a decimal number, as a number of 64 bits. One unit of a
number of 32 bits is `2 ^ -149`. -/
def toSingle (d : Decimal) : Double :=
  if d.digits = 0 ∨ d.isTiny then Double.zero d.negative
  else if d.isHuge then .infinity d.negative
  else
    let units := roundRatio 24 (d.numerator (2 ^ (149 : Nat))) d.denominator
    if units < 2 ^ (277 : Nat) then Double.ofRatio d.negative (units * 2 ^ (925 : Nat)) 1
    else .infinity d.negative

end Decimal

end ChoiceTemplate

import ChoiceTemplate.Number.Rounding

/-
  Floating-point numbers of 64 bits, exactly.

  A finite number is a sign and a count of units, where one unit is the smallest positive
  number, `2 ^ -1074`. The count of units has at most 53 significant bits and stays below
  `2 ^ 2098` (`Fits`), and every operation rounds its exact result to the nearest such count,
  ties to even (`Double.ofRatio`). All of it is arithmetic on natural numbers and integers.
-/
namespace ChoiceTemplate

-- Powers are the core library's, whatever else is imported.
attribute [local instance (high)] instPowNat

/-- The first count of units that is too large for a finite number. -/
def unitLimit : Nat := 2 ^ (2098 : Nat)

/-- The counts of units that are finite numbers: at most 53 significant bits and no overflow. -/
def Fits (units : Nat) : Prop :=
  units < unitLimit ∧ ∃ m k : Nat, m < 2 ^ (53 : Nat) ∧ units = m * 2 ^ k

theorem unitLimit_pos : 0 < unitLimit := by decide +kernel

theorem fits_zero : Fits 0 := ⟨unitLimit_pos, 0, 0, by decide, by decide⟩

/-- The size of a finite number, in units of `2 ^ -1074`. -/
structure Magnitude where
  units : Nat
  fits : Fits units
  deriving DecidableEq

/-- A floating-point number of 64 bits; all NaNs are one. -/
inductive Double where
  | nan
  | infinity (negative : Bool)
  | finite (negative : Bool) (size : Magnitude)
  deriving DecidableEq

namespace Double

/-- The number of units in one. -/
def one : Nat := 2 ^ (1074 : Nat)

/-- The finite number nearest to `num / den` units, or an infinity if that is too large. -/
def ofRatio (negative : Bool) (num den : Nat) : Double :=
  if h : roundRatio 53 num den < unitLimit then
    .finite negative ⟨roundRatio 53 num den, h, roundRatio_form (by decide) num den⟩
  else
    .infinity negative

/-- Zero with a sign. -/
def zero (negative : Bool) : Double := .finite negative ⟨0, fits_zero⟩

/-- The number nearest to an integer. -/
def ofInt (i : Int) : Double := ofRatio (decide (i < 0)) (i.natAbs * one) 1

/-- The number nearest to a natural number. -/
def ofNat (n : Nat) : Double := ofRatio false (n * one) 1

def isNaN : Double → Bool
  | .nan => true
  | _ => false

def isFinite : Double → Bool
  | .finite _ _ => true
  | _ => false

/-- A finite number in units, with its sign. -/
def signedUnits (negative : Bool) (size : Magnitude) : Int :=
  if negative then -size.units else size.units

/-- The number without its sign. -/
def abs : Double → Double
  | .nan => .nan
  | .infinity _ => .infinity false
  | .finite _ size => .finite false size

/-- The absolute value of the difference of two numbers, rounded once. -/
def distance : Double → Double → Double
  | .nan, _ => .nan
  | _, .nan => .nan
  | .infinity s, .infinity t => if s = t then .nan else .infinity false
  | .infinity _, .finite _ _ => .infinity false
  | .finite _ _, .infinity _ => .infinity false
  | .finite s a, .finite t b => ofRatio false (signedUnits s a - signedUnits t b).natAbs 1

/-- The product of two numbers, rounded once. An infinity times zero is not a number. -/
def mul : Double → Double → Double
  | .nan, _ => .nan
  | _, .nan => .nan
  | .infinity s, .infinity t => .infinity (s != t)
  | .infinity s, .finite t b => if b.units = 0 then .nan else .infinity (s != t)
  | .finite s a, .infinity t => if a.units = 0 then .nan else .infinity (s != t)
  | .finite s a, .finite t b => ofRatio (s != t) (a.units * b.units) one

/-- The quotient of two numbers, rounded once. Zero by zero and an infinity by an infinity are
not numbers. -/
def div : Double → Double → Double
  | .nan, _ => .nan
  | _, .nan => .nan
  | .infinity _, .infinity _ => .nan
  | .infinity s, .finite t _ => .infinity (s != t)
  | .finite s _, .infinity t => zero (s != t)
  | .finite s a, .finite t b =>
    if b.units = 0 then (if a.units = 0 then .nan else .infinity (s != t))
    else ofRatio (s != t) (a.units * one) b.units

/-- The order of the numbers; a NaN is below nothing and above nothing. -/
def lt : Double → Double → Bool
  | .nan, _ => false
  | _, .nan => false
  | .infinity s, .infinity t => s && !t
  | .infinity s, .finite _ _ => s
  | .finite _ _, .infinity t => !t
  | .finite s a, .finite t b => decide (signedUnits s a < signedUnits t b)

/-- Below or equal; the two zeros are equal, and a NaN is equal to nothing. -/
def le (a b : Double) : Bool := !a.isNaN && !b.isNaN && !lt b a

/-- The smaller of two numbers, or the one that is a number if the other is not. -/
def lesser (a b : Double) : Double :=
  if a.isNaN then b else if b.isNaN then a else if lt b a then b else a

/-- The 64 bits of the interchange format, as a natural number. -/
def bits : Double → Nat
  | .nan => 0x7ff8000000000000
  | .infinity s => signBit s + 0x7ff0000000000000
  | .finite s a => signBit s + sizeBits a.units
where
  signBit (negative : Bool) : Nat := if negative then 2 ^ (63 : Nat) else 0
  sizeBits (units : Nat) : Nat :=
    if units < 2 ^ (52 : Nat) then units
    else
      let k := units.log2 - 52
      (k + 1) * 2 ^ (52 : Nat) + (units / 2 ^ k - 2 ^ (52 : Nat))

end Double

end ChoiceTemplate

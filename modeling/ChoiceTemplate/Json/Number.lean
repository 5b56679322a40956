import ChoiceTemplate.Number.Literal
import ChoiceTemplate.Json.Basic

/-
  Numbers in JSON.

  A number without a fraction and an exponent is an integer if it fits 64 bits, and otherwise,
  like every other number, a real number. The digits of a real number are first gathered into an
  integer of 64 bits, of which digits that no longer fit are left out, and the result is then
  scaled by a power of ten; so a real number is rounded twice, and can be off by one unit in the
  last place from the nearest one. A number that is too large is refused.
-/
namespace ChoiceTemplate.Json

-- Powers are the core library's, whatever else is imported.
attribute [local instance (high)] instPowNat

/-- The greatest integer that the digits of a real number are gathered into. -/
def significandLimit : Nat := 2 ^ (64 : Nat) - 1

/-- The digits of the whole part gathered into an integer, and how many are left out. -/
def gatherWhole (significand left : Nat) : Text → Nat × Nat
  | [] => (significand, left)
  | d :: t =>
    let next := 10 * significand + digitValue d
    if left = 0 ∧ next ≤ significandLimit then gatherWhole next 0 t
    else gatherWhole significand (left + 1) t

/-- The digits of the fraction gathered into the same integer, and how many of them are. -/
def gatherFraction (significand used : Nat) : Text → Nat × Nat
  | [] => (significand, used)
  | d :: t =>
    let next := 10 * significand + digitValue d
    if next ≤ significandLimit then gatherFraction next (used + 1) t else (significand, used)

/-- The largest power of ten that is used in one step. -/
def powerLimit : Nat := 308

/-- The greatest size of an exponent that is computed with. -/
def exponentLimit : Nat := 2 ^ (31 : Nat) - 1

/-- A power of ten as a number. -/
def powerOfTen (n : Nat) : Double := Double.ofNat (10 ^ n)

/-- A number divided by a power of ten, in at most `count` steps more than one. -/
def scaleDown : (count : Nat) → Double → (power : Nat) → Double
  | 0, x, _ => x
  | count + 1, x, power =>
    if power ≤ powerLimit then Double.div x (powerOfTen power)
    else scaleDown count (Double.div x (powerOfTen powerLimit)) (power - powerLimit)

/-- A significand times a power of ten, unless it is too large. Three steps make every
significand zero. -/
def scale (significand : Nat) (exponent : Int) : Option Double :=
  let x := Double.ofNat significand
  if significand = 0 then some x
  else if exponent < 0 then some (scaleDown 4 x exponent.natAbs)
  else if exponent.natAbs ≤ powerLimit then
    let y := Double.mul x (powerOfTen exponent.natAbs)
    if y.isFinite then some y else none
  else none

/-- A number with a sign. -/
def withSign (negative : Bool) : Double → Double
  | .finite _ a => .finite negative a
  | x => x

/-- The real number with the given parts, unless it is too large. -/
def realValue (negative : Bool) (whole fraction : Text) (exponent : Int) : Option Double :=
  let (significand, left) := gatherWhole 0 0 whole
  let (significand, used) := gatherFraction significand 0 fraction
  (scale significand (exponent + left - used)).map (withSign negative)

/-- The number with the given parts; without a fraction and an exponent it may be an integer.
Minus zero is none. -/
def numberValue (negative : Bool) (whole : Text) (fraction exponent : Option Text) :
    Option Json :=
  match fraction, exponent with
  | none, none =>
    let n := digitsValue whole
    if !negative && n ≤ significandLimit then some (.integer n)
    else if negative && n ≠ 0 && n ≤ 2 ^ (63 : Nat) then some (.integer (-n))
    else (realValue negative whole [] 0).map .real
  | _, _ =>
    (realValue negative whole (fraction.getD []) ((exponent.map integerValue).getD 0)).map .real

/-- The fraction that a text begins with, if there is a point, and the rest. A point without
digits is refused. -/
def readFraction? : Text → Option (Option Text × Text)
  | '.' :: t =>
    match cutDigits t with
    | ([], _) => none
    | (digits, rest) => some (some digits, rest)
  | t => some (none, t)

/-- The exponent that a text begins with, if there is an `e`, and the rest. -/
def readExponent? : Text → Option (Option Text × Text)
  | [] => some (none, [])
  | c :: t =>
    if c = 'e' ∨ c = 'E' then (integerLiteral? t).map fun (literal, rest) => (some literal, rest)
    else some (none, c :: t)

/-- The number that a text begins with, and the rest. A zero in front of other digits is
refused. -/
def readNumber? (t : Text) : Option (Json × Text) := do
  let (negative, t) := match t with
    | '-' :: t => (true, t)
    | t => (false, t)
  let (whole, rest) := cutDigits t
  if whole.isEmpty || (whole.length ≠ 1 && whole.head? == some '0') then none
  else
    let (fraction, rest) ← readFraction? rest
    let (exponent, rest) ← readExponent? rest
    let value ← numberValue negative whole fraction exponent
    some (value, rest)

end ChoiceTemplate.Json

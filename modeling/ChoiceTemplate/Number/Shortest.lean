import ChoiceTemplate.Number.Decimal

/-
  The fewest digits that read back.

  The digits of a finite number are looked for on ever finer decimal grids, one significant
  digit more at a time. The first grid on which one of the number's two neighbours reads back as
  the number gives the answer; if both do, it is the nearer one, and an exact tie goes as the
  caller says. Seventeen digits always suffice.
-/
namespace ChoiceTemplate

-- Powers are the core library's, whatever else is imported.
attribute [local instance (high)] instPowNat

/-- Which neighbour to take when a number is exactly between two of them. -/
inductive Tie where
  | up
  | toEven
  deriving DecidableEq

namespace Magnitude

/-- The exponent of the decimal digit that a number starts with. -/
def leadingExponent (a : Magnitude) : Int :=
  (Text.ofNat (a.units * 10 ^ (400 : Nat) / Double.one)).length - 401

/-- A size in multiples of `10 ^ grid`, as a ratio. -/
def onGrid (a : Magnitude) (grid : Int) : Nat × Nat :=
  (a.units * 10 ^ (-grid).toNat, Double.one * 10 ^ grid.toNat)

/-- Whether `digits * 10 ^ grid` reads back as the size. -/
def readsBack (a : Magnitude) (digits : Nat) (grid : Int) : Bool :=
  Decimal.toDouble ⟨false, digits, grid⟩ = .finite false a

/-- The neighbour on a grid that reads back, the nearer one if both do. -/
def neighbour? (tie : Tie) (a : Magnitude) (grid : Int) : Option Nat :=
  let (num, den) := a.onGrid grid
  let below := num / den
  let twice := 2 * (num % den)
  match a.readsBack below grid, a.readsBack (below + 1) grid with
  | false, false => none
  | true, false => some below
  | false, true => some (below + 1)
  | true, true =>
    if twice < den then some below
    else if den < twice then some (below + 1)
    else match tie with
      | .up => some (below + 1)
      | .toEven => if below % 2 = 0 then some below else some (below + 1)

/-- The first answer among the grids with `count` more significant digits to try. -/
def firstGrid (tie : Tie) (a : Magnitude) : (count : Nat) → (grid : Int) → Nat × Int
  | 0, grid => ((a.onGrid grid).1 / (a.onGrid grid).2, grid)
  | count + 1, grid =>
    match a.neighbour? tie grid with
    | some digits => (digits, grid)
    | none => firstGrid tie a count (grid - 1)

/-- Digits without the zeros at their end, each of which raises the exponent by one. -/
def dropZeros : (count : Nat) → Nat × Int → Nat × Int
  | 0, d => d
  | count + 1, (digits, exponent) =>
    if digits ≠ 0 ∧ digits % 10 = 0 then dropZeros count (digits / 10, exponent + 1)
    else (digits, exponent)

/-- The shortest digits of a size that is not zero, and their exponent. -/
def shortest (tie : Tie) (a : Magnitude) : Nat × Int :=
  dropZeros 18 (firstGrid tie a 17 a.leadingExponent)

end Magnitude

/-- Digits times a power of ten written with a point where one is needed and no exponent. -/
def positional (digits : Nat) (exponent : Int) : Text :=
  let ds := Text.ofNat digits
  if 0 ≤ exponent then ds ++ List.replicate exponent.toNat '0'
  else
    let places := (-exponent).toNat
    let ds := Text.padLeft '0' (places + 1) ds
    ds.take (ds.length - places) ++ '.' :: ds.drop (ds.length - places)

/-- A number as it is shown: the shortest digits that read back, never an exponent, and no
fraction for a whole number. -/
def Double.display : Double → Text
  | .nan => "NaN".toList
  | .infinity negative => (if negative then ['-'] else []) ++ "inf".toList
  | .finite negative a =>
    let (digits, exponent) := if a.units = 0 then (0, 0) else a.shortest .up
    (if negative then ['-'] else []) ++ positional digits exponent

end ChoiceTemplate

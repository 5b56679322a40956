import ChoiceTemplate.Number.Shortest

/-
  References: what a choice template is resolved against.
-/
namespace ChoiceTemplate

/-- A boolean, a text or a number. -/
inductive Reference where
  | boolean (value : Bool)
  | text (value : Text)
  | number (value : Double)
  deriving DecidableEq

namespace Reference

/-- A reference as it is shown. -/
def display : Reference → Text
  | .boolean true => "true".toList
  | .boolean false => "false".toList
  | .text value => value
  | .number value => value.display

/-- The largest size of a count that is resolved as it is. -/
def countLimit : Nat := 922337203685477

/-- The reference for an integer count. One stands for a count that is too large. -/
def ofCount (count : Int) : Reference :=
  .number (Double.ofInt (if count.natAbs ≤ countLimit then count else 1))

end Reference

end ChoiceTemplate

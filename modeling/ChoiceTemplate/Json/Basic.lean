import ChoiceTemplate.Values
import ChoiceTemplate.Number.Double

/-
  JSON values.

  Members of an object are kept in the order in which they were written, with repeated keys;
  `Json.sorted` puts them in ascending order of their keys and keeps the last one of each key.
-/
namespace ChoiceTemplate

/-- A JSON value. An integer is written without a fraction, a real number always with one or
with an exponent. -/
inductive Json where
  | null
  | boolean (value : Bool)
  | integer (value : Int)
  | real (value : Double)
  | string (value : Text)
  | array (items : List Json)
  | object (members : List (Text × Json))

namespace Json

/-- Members with one more at the place of its key, instead of one with the same key. -/
def insertMember (key : Text) (value : Json) : List (Text × Json) → List (Text × Json)
  | [] => [(key, value)]
  | (k, v) :: rest =>
    if key = k then (key, value) :: rest
    else if Text.before key k then (key, value) :: (k, v) :: rest
    else (k, v) :: insertMember key value rest

/-- Members in ascending order of their keys, the last one of each key. -/
def sortMembers (members : List (Text × Json)) : List (Text × Json) :=
  members.foldl (fun sorted (key, value) => insertMember key value sorted) []

mutual

/-- A value in which the members of every object are sorted. -/
def sorted : Json → Json
  | .array items => .array (sortedItems items)
  | .object members => .object (sortMembers (sortedValues members))
  | .null => .null
  | .boolean value => .boolean value
  | .integer value => .integer value
  | .real value => .real value
  | .string value => .string value

/-- Values in each of which the members of every object are sorted. -/
def sortedItems : List Json → List Json
  | [] => []
  | item :: rest => sorted item :: sortedItems rest

/-- Members in the value of each of which the members of every object are sorted. -/
def sortedValues : List (Text × Json) → List (Text × Json)
  | [] => []
  | (key, value) :: rest => (key, sorted value) :: sortedValues rest

end

end Json

end ChoiceTemplate

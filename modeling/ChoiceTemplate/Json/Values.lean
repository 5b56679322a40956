import ChoiceTemplate.Json.Printer
import ChoiceTemplate.Json.Reader
import ChoiceTemplate.Options

/-
  JSON values as values for placeholders and as options.
-/
namespace ChoiceTemplate.Json

/-- The text of a member: a string as it is, nothing for null, and everything else as compact
JSON with sorted members. -/
def memberText : Json → Text
  | .string value => value
  | .null => []
  | value => value.sorted.compact

/-- The members of an object as values for placeholders. Every other JSON value has none. -/
def toValues : Json → Values
  | .object members => Values.ofList (members.map fun (key, value) => (key, memberText value))
  | _ => Values.empty

/-- A size limit: an integer of 64 bits without a sign. -/
def sizeLimit? : Json → Option Nat
  | .integer (.ofNat n) => if n ≤ significandLimit then some n else none
  | _ => none

/-- A truth value. -/
def boolean? : Json → Option Bool
  | .boolean value => some value
  | _ => none

/-- The value of a key that may occur once, if it occurs; occurring twice is refused. -/
def onlyMember? (key : Text) (members : List (Text × Json)) : Option (Option Json) :=
  match members.filter fun m => m.1 == key with
  | [] => some none
  | [(_, value)] => some (some value)
  | _ => none

/-- An option's value: as read from JSON if it is given, or else the standard one. -/
def optionValue? {α : Type} (read : Json → Option α) (standard : α) : Option Json → Option α
  | none => some standard
  | some value => read value

/-- The options that a JSON value gives: an object with a member for each of them, of which any
may be missing and others are ignored, or a list of their values, from which the last ones may
be missing. -/
def toOptions? (value : Json) : Option MatchOptions := do
  let (limit, fold) ← match value with
    | .object members => do
      let limit ← onlyMember? "pattern_size_limit".toList members
      let fold ← onlyMember? "fold_pattern_case".toList members
      some (limit, fold)
    | .array [] => some (none, none)
    | .array [limit] => some (some limit, none)
    | .array [limit, fold] => some (some limit, some fold)
    | _ => none
  let limit ← optionValue? sizeLimit? MatchOptions.defaultSizeLimit limit
  let fold ← optionValue? boolean? false fold
  some ⟨limit, fold⟩

end ChoiceTemplate.Json

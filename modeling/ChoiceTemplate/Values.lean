import ChoiceTemplate.Text.Basic

/-
  Values for placeholders: texts by key.

  The entries are kept in ascending order of their keys, one for each key (`Values.insert`). That
  order fixes the order in which placeholders are filled.
-/
namespace ChoiceTemplate

/-- Texts by key, in ascending order of the keys. -/
structure Values where
  entries : List (Text × Text)
  deriving DecidableEq

namespace Values

/-- No value at all. -/
def empty : Values := ⟨[]⟩

def isEmpty (v : Values) : Bool := v.entries.isEmpty

/-- The entries with one more at the place of its key, instead of one with the same key. -/
def insertEntry (key value : Text) : List (Text × Text) → List (Text × Text)
  | [] => [(key, value)]
  | (k, v) :: rest =>
    if key = k then (key, value) :: rest
    else if Text.before key k then (key, value) :: (k, v) :: rest
    else (k, v) :: insertEntry key value rest

/-- The values with one for a key, which replaces an earlier one. -/
def insert (v : Values) (key value : Text) : Values := ⟨insertEntry key value v.entries⟩

/-- The values with pairs inserted one after another. -/
def insertAll (v : Values) (pairs : List (Text × Text)) : Values :=
  pairs.foldl (fun v (key, value) => v.insert key value) v

/-- The values of pairs, of which a later one replaces an earlier one with the same key. -/
def ofList (pairs : List (Text × Text)) : Values := empty.insertAll pairs

/-- The value for a key. -/
def get? (v : Values) (key : Text) : Option Text :=
  (v.entries.find? fun entry => entry.1 == key).map Prod.snd

end Values

end ChoiceTemplate

import ChoiceTemplate.Text.Basic

/-
  The Damerau-Levenshtein distance of two texts.

  It is the least number of edits that turn one text into the other, where an edit inserts,
  deletes or replaces one character or swaps two neighbours, and other edits may fall between two
  characters that are swapped. The table is filled row by row: `rows` holds the rows above,
  nearest first, and every entry is the distance of two beginnings of the texts.
-/
namespace ChoiceTemplate.EditDistance

/-- Where in a text, counted backwards from its end, a character last occurs: the number of
characters after it. -/
def sinceLast? (c : Char) : (reversed : Text) → Option Nat
  | [] => none
  | d :: t => if d = c then some 0 else (sinceLast? c t).map (· + 1)

/-- The cost of a swap of `a` and `b` across the characters read between them. `aRead` and
`bRead` are what was read of the texts before, last character first. The distance of what
precedes the swapped characters is the entry of a row above. -/
def swapCost? (rows : List (List Nat)) (a b : Char) (aRead bRead : Text) : Option Nat := do
  let skippedA ← sinceLast? b aRead
  let skippedB ← sinceLast? a bRead
  let row ← rows[skippedA + 1]?
  let start ← row[bRead.length - (skippedB + 1)]?
  some (start + skippedA + 1 + skippedB)

/-- The rest of a row of the table. `above` is the row above from the entry before `b` on, and
`left` is the entry before. -/
def rowFrom (rows : List (List Nat)) (a : Char) (aRead : Text) (left : Nat) (bRead : Text) :
    (above : List Nat) → (b : Text) → List Nat
  | diagonal :: up :: above, b :: t =>
    let plain := min (diagonal + if a = b then 0 else 1) (min (left + 1) (up + 1))
    let entry := ((swapCost? rows a b aRead bRead).map (min plain)).getD plain
    entry :: rowFrom rows a aRead entry (b :: bRead) (up :: above) t
  | _, _ => []

/-- The rows of the table for all beginnings of `a` from the current one on, nearest row first. -/
def rowsFrom (b : Text) (aRead : Text) (rows : List (List Nat)) : Text → List (List Nat)
  | [] => rows
  | a :: t =>
    let left := aRead.length + 1
    let row := left :: rowFrom rows a aRead left [] (rows.headD []) b
    rowsFrom b (a :: aRead) (row :: rows) t

/-- The distance of two texts. -/
def distance (a b : Text) : Nat :=
  let first := List.range (b.length + 1)
  ((rowsFrom b [] [first] a).headD []).getLastD 0

end ChoiceTemplate.EditDistance

import ChoiceTemplate.Text.Basic

/-
  Cutting a text at a delimiter.

  `pieces` are the parts between the occurrences of a literal delimiter. `split` cleans them: a
  piece loses its double quotes and one final comma, and empty pieces are dropped both before
  and after that. `splitBySymbol` cleans nothing, but a delimiter at the very end opens no new
  piece, as with the final newline of a file. `splitOnce` cuts at the first occurrence of one
  character only.
-/
namespace ChoiceTemplate.Text

/-- Puts a character in front of the first piece. -/
def consFirst (c : Char) : List Text → List Text
  | [] => [[c]]
  | p :: ps => (c :: p) :: ps

/-- The pieces of a text between the occurrences of `delimiter`, found from left to right
without overlap, once `skip` characters of an occurrence under way have been passed over. -/
def piecesAfter (delimiter : Text) : (skip : Nat) → Text → List Text
  | _, [] => [[]]
  | skip + 1, _ :: t => piecesAfter delimiter skip t
  | 0, c :: t =>
    if delimiter.isPrefixOf (c :: t) then
      [] :: piecesAfter delimiter (delimiter.length - 1) t
    else
      consFirst c (piecesAfter delimiter 0 t)

/-- The pieces of a text between the occurrences of a non-empty delimiter. -/
def pieces (delimiter t : Text) : List Text := piecesAfter delimiter 0 t

/-- The text without the one comma that ends it, if a comma ends it. -/
def dropFinalComma : Text → Text
  | [] => []
  | [c] => if c = ',' then [] else [c]
  | c :: d :: t => c :: dropFinalComma (d :: t)

/-- A piece without its double quotes and then without one final comma. -/
def clean (piece : Text) : Text := dropFinalComma (piece.filter (· ≠ '"'))

/-- The cleaned, non-empty pieces of a text. An empty delimiter cuts and cleans nothing. -/
def split (source delimiter : Text) : List Text :=
  if delimiter = [] then [source]
  else (((pieces delimiter source).filter (· ≠ [])).map clean).filter (· ≠ [])

/-- The pieces of a text between the occurrences of one character, where neither an empty text
nor a delimiter at the end leaves an empty piece behind. -/
def splitBySymbol (source : Text) (delimiter : Char) : List Text :=
  let parts := pieces [delimiter] source
  if source = [] ∨ source.getLast? = some delimiter then parts.dropLast else parts

/-- The text before and the text after the first `c`, if there is a `c`. -/
def splitOnce (c : Char) : Text → Option (Text × Text)
  | [] => none
  | d :: t => if d = c then some ([], t) else (splitOnce c t).map fun (a, b) => (d :: a, b)

/-- The text before and the text after the first occurrence of `separator`, if it occurs. -/
def splitAt? (separator : Text) : Text → Option (Text × Text)
  | [] => if separator = [] then some ([], []) else none
  | c :: t =>
    match afterStart? separator (c :: t) with
    | some rest => some ([], rest)
    | none => (splitAt? separator t).map fun (a, b) => (c :: a, b)

end ChoiceTemplate.Text

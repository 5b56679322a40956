import ChoiceTemplate.Text.Split
import ChoiceTemplate.Values

/-
  Placeholders `{key}` in a text.

  For each value in the order of the keys, the first placeholder with its key is replaced by it,
  in the text as the values before it have left it. Placeholders without a value stay.
-/
namespace ChoiceTemplate

/-- The placeholder for a key: the key in braces. -/
def placeholder (key : Text) : Text := '\x7b' :: key ++ ['\x7d']

/-- A text with the first occurrence of `old`, if there is one, replaced by `new`. -/
def Text.replaceFirst (old new t : Text) : Text :=
  match Text.splitAt? old t with
  | some (a, b) => a ++ new ++ b
  | none => t

/-- A text with the first placeholder for a key replaced by a value. -/
def fillOne (t : Text) (entry : Text × Text) : Text :=
  Text.replaceFirst (placeholder entry.1) entry.2 t

/-- A text with the first placeholder for each key replaced by its value. -/
def fill (t : Text) (values : Values) : Text := values.entries.foldl fillOne t

end ChoiceTemplate

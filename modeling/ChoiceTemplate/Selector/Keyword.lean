import ChoiceTemplate.Choices

/-
  Boolean keywords.

  A selector is a keyword for true or for false if it is one of four words up to ASCII letter
  case. A boolean reference selects the first choice whose selector is a keyword for it.
-/
namespace ChoiceTemplate

/-- Whether two texts are equal up to ASCII letter case. They are compared character by
character, so texts of unequal length are never equal. -/
def equalsIgnoreCase (a b : Text) : Bool :=
  match a, b with
  | [], [] => true
  | c :: a, d :: b => c.toLower == d.toLower && equalsIgnoreCase a b
  | _, _ => false

namespace Keyword

/-- The words for true, in lower case. -/
def trueWords : List Text := [['t', 'r', 'u', 'e'], ['y', 'e', 's'], ['o', 'n'], ['1']]

/-- The words for false, in lower case. -/
def falseWords : List Text := [['f', 'a', 'l', 's', 'e'], ['n', 'o'], ['o', 'f', 'f'], ['0']]

/-- The boolean that a selector is a keyword for, if it is one. -/
def classify (selector : Text) : Option Bool :=
  if trueWords.any (equalsIgnoreCase selector) then some true
  else if falseWords.any (equalsIgnoreCase selector) then some false
  else none

end Keyword

/-- The text that a boolean reference selects. -/
def Choices.selectBoolean (c : Choices) (reference : Bool) : Text :=
  c.select fun selector => Keyword.classify selector == some reference

end ChoiceTemplate

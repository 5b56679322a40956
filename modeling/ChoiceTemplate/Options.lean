import ChoiceTemplate.Text.Basic

/-
  Options that affect how selectors are matched.
-/
namespace ChoiceTemplate

/-- The largest size of a pattern and whether selectors are put into lower case before they are
compiled. -/
structure MatchOptions where
  sizeLimit : Nat
  foldCase : Bool
  deriving DecidableEq

namespace MatchOptions

/-- The size limit unless another one is given: one mebibyte. -/
def defaultSizeLimit : Nat := 1048576

/-- The options unless others are given. -/
def standard : MatchOptions := ⟨defaultSizeLimit, false⟩

end MatchOptions

end ChoiceTemplate

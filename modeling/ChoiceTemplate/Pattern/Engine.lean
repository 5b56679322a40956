import ChoiceTemplate.Text.Basic

/-
  What the library asks of an engine for patterns.

  An engine compiles a text as a pattern within a size limit, or refuses it with a reason, and it
  searches a text for the first match of a compiled pattern. Nothing else of it is used: choices,
  messages and warnings are defined, and what is proved of them is proved, for any engine. The one
  that the program runs with is defined in the modules beside this one.
-/
namespace ChoiceTemplate

/-- A match: the text before it and the text that it covers. -/
structure Pattern.Match where
  before : Text
  covered : Text
  deriving DecidableEq

/-- An engine for patterns. -/
class PatternEngine where
  /-- A pattern that is ready to be searched with. -/
  Compiled : Type
  /-- A reason why a text cannot be used as a pattern. -/
  Refusal : Type
  /-- The pattern that a text is, within a size limit. -/
  compile (source : Text) (limit : Nat) : Except Refusal Compiled
  /-- The first match of a pattern in a text. -/
  search : Compiled → Text → Option Pattern.Match
  /-- The wording of a reason. -/
  wording : Refusal → Text

namespace PatternEngine

variable [PatternEngine]

/-- The wording of a reason. -/
def Refusal.message (refusal : Refusal) : Text := wording refusal

/-- Whether the first match of a pattern in a text is the whole text. -/
def Compiled.matchesWhole (p : Compiled) (t : Text) : Bool :=
  match search p t with
  | none => false
  | some m => m.covered == t

end PatternEngine

end ChoiceTemplate

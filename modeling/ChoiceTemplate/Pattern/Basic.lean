import ChoiceTemplate.Pattern.Reader
import ChoiceTemplate.Pattern.Resolve
import ChoiceTemplate.Pattern.Search
import ChoiceTemplate.Pattern.Size

/-
  Patterns: compiling their text and matching with them.

  `compile` reads the text of a pattern, resolves its flags and checks its size. A compiled
  pattern finds its first match in a text. Together they are the engine that the program runs with
  (`standardEngine`).
-/
namespace ChoiceTemplate

/-- A compiled pattern and the text it was compiled from. -/
structure Pattern where
  source : Text
  expr : Pattern.Expr

/-- Why a pattern cannot be used. -/
inductive PatternError where
  /-- The text is not a pattern. -/
  | invalid (source : Text) (fault : Pattern.Fault)
  /-- The pattern is larger than the limit. -/
  | tooLarge (limit : Nat)

/-- The wording of an error. -/
def PatternError.message : PatternError → Text
  | .invalid source fault => fault.render source
  | .tooLarge limit =>
    "Compiled regex exceeds size limit of ".toList ++ Text.ofNat limit ++ " bytes.".toList

namespace Pattern

/-- The expression of a pattern and the number of its groups that capture. -/
def analyze (source : Text) : Except Fault (Expr × Nat) := do
  let ast ← read source
  let (expr, _) ← ast.resolve Flags.initial
  .ok (expr, ast.captures)

/-- Whether a pattern keeps to a size limit, by the estimate of its size. -/
def fits (limit : Nat) (expr : Expr) (captures : Nat) : Bool :=
  (captures == 0 && expr.isTexts) ||
    baseWeight + captureWeight * captures + expr.weight ≤ limit

/-- The pattern with a given text, within a size limit. -/
def compile (source : Text) (limit : Nat) : Except PatternError Pattern :=
  match analyze source with
  | .error fault => .error (.invalid source fault)
  | .ok (expr, captures) =>
    if fits limit expr captures then .ok ⟨source, expr⟩ else .error (.tooLarge limit)

/-- The first match of a pattern in a text. -/
def find? (p : Pattern) (t : Text) : Option Match := p.expr.find? t

end Pattern

/-- The engine of the program. -/
@[reducible] instance standardEngine : PatternEngine where
  Compiled := Pattern
  Refusal := PatternError
  compile := Pattern.compile
  search := Pattern.find?
  wording := PatternError.message

end ChoiceTemplate

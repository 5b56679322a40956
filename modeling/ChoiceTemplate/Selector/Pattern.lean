import ChoiceTemplate.Choices
import ChoiceTemplate.Options
import ChoiceTemplate.Pattern.Engine

/-
  Pattern selectors.

  A text reference is put into lower case and selects the first choice whose non-empty selector,
  compiled as a pattern, matches the whole of it. Selectors are compiled as they are written
  unless the options ask for lower case. A selector that does not compile is skipped, and the
  patterns that are left keep the indices of their choices.
-/
namespace ChoiceTemplate

/-- The text that a selector is compiled from. -/
def MatchOptions.patternSource (options : MatchOptions) (selector : Text) : Text :=
  if options.foldCase then Text.lowercase selector else selector

section
variable [PatternEngine]

/-- A selector as a pattern. -/
def compileSelector (selector : Text) (options : MatchOptions) :
    Except PatternEngine.Refusal PatternEngine.Compiled :=
  PatternEngine.compile (options.patternSource selector) options.sizeLimit

/-- The pattern of a selector that is not empty and compiles. -/
def selectorPattern? (selector : Text) (options : MatchOptions) :
    Option PatternEngine.Compiled :=
  if selector = [] then none else (compileSelector selector options).toOption

/-- The patterns of some choices, each with the index of its choice. -/
structure PatternSet where
  patterns : List (Nat × PatternEngine.Compiled)

namespace PatternSet

/-- The patterns of selectors that are numbered from `index`. -/
def compileFrom (options : MatchOptions) (index : Nat) :
    List Text → List (Nat × PatternEngine.Compiled)
  | [] => []
  | selector :: rest =>
    match selectorPattern? selector options with
    | some pattern => (index, pattern) :: compileFrom options (index + 1) rest
    | none => compileFrom options (index + 1) rest

/-- The patterns of all choices whose selector is not empty and compiles. -/
def compile (c : Choices) (options : MatchOptions) : PatternSet :=
  ⟨compileFrom options 0 c.selectors⟩

def size (s : PatternSet) : Nat := s.patterns.length

def isEmpty (s : PatternSet) : Bool := s.patterns.isEmpty

/-- The index of the first choice whose pattern matches the whole of a text. -/
def findWhole? (s : PatternSet) (t : Text) : Option Nat :=
  (s.patterns.find? fun entry => entry.2.matchesWhole t).map Prod.fst

end PatternSet

/-- The text that a text reference selects. -/
def Choices.selectText (c : Choices) (patterns : PatternSet) (reference : Text) : Text :=
  match (patterns.findWhole? (Text.lowercase reference)).bind fun i => c.items[i]? with
  | some item => item.text
  | none => c.defaultText

end

end ChoiceTemplate

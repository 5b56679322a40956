import ChoiceTemplate.Number.Reader
import ChoiceTemplate.Selector.Keyword

/-
  Numeric selectors.

  A selector is read as one of five forms, tried in this order: empty; a comparison with a
  bound; a range of integers, cut at the first `-`; a boolean keyword, which stands for one or
  zero; and otherwise a single integer. Numbers that cannot be read are zero. Keywords and
  single integers match within a relative tolerance of one part in `10 ^ 12`.
-/
namespace ChoiceTemplate

/-- The comparison of a reference with a bound. -/
inductive Comparison where
  | atMost
  | atLeast
  | lessThan
  | greaterThan
  deriving DecidableEq

namespace Comparison

/-- The sign that a comparison is written with. -/
def sign : Comparison → Text
  | .atMost => ['<', '=']
  | .atLeast => ['>', '=']
  | .lessThan => ['<']
  | .greaterThan => ['>']

/-- The comparisons in the order in which their signs are looked for. -/
def all : List Comparison := [.atMost, .atLeast, .lessThan, .greaterThan]

/-- The text after the sign of a comparison, if the selector begins with the sign and more
follows. -/
def bound? (selector : Text) (comparison : Comparison) : Option Text :=
  (Text.afterStart? comparison.sign selector).filter (· ≠ [])

/-- The comparison that a selector begins with, and its bound. A sign counts only if a bound
follows it, so `<=` alone is `<` with the bound `=`. -/
def split (selector : Text) : Option (Comparison × Text) :=
  all.findSome? fun comparison => (bound? selector comparison).map fun bound => (comparison, bound)

/-- Whether a reference compares with a bound as required. -/
def holds : Comparison → Double → Double → Bool
  | .atMost, reference, bound => Double.le reference bound
  | .atLeast, reference, bound => Double.le bound reference
  | .lessThan, reference, bound => Double.lt reference bound
  | .greaterThan, reference, bound => Double.lt bound reference

end Comparison

/-- A selector as a numeric reference sees it. -/
inductive NumericSelector where
  /-- The empty selector, which matches nothing. -/
  | default
  | compare (comparison : Comparison) (bound : Double)
  | range (first last : Int)
  | boolean (value : Bool)
  | exact (value : Int)
  deriving DecidableEq

namespace NumericSelector

/-- The form of a selector. -/
def parse (selector : Text) : NumericSelector :=
  if selector = [] then .default
  else
    match Comparison.split selector with
    | some (comparison, bound) => .compare comparison (Double.readLenient bound)
    | none =>
      match Text.splitOnce '-' selector with
      | some (first, last) => .range (Double.readInteger first) (Double.readInteger last)
      | none =>
        match Keyword.classify selector with
        | some value => .boolean value
        | none => .exact (Double.readInteger selector)

/-- Whether two numbers differ by at most one part in `10 ^ 12` of the smaller one. Zero is
close to zero only. -/
def close (a b : Double) : Bool :=
  Double.le (Double.mul (Double.distance a b) (Double.ofNat 1000000000000))
    (Double.lesser a.abs b.abs)

/-- Whether a selector accepts a reference. -/
def accepts (reference : Double) : NumericSelector → Bool
  | .default => false
  | .compare comparison bound => comparison.holds reference bound
  | .range first last =>
    Double.le (Double.ofInt first) reference && Double.le reference (Double.ofInt last)
  | .boolean value => close reference (Double.ofNat (if value then 1 else 0))
  | .exact value => close reference (Double.ofInt value)

end NumericSelector

/-- The text that a numeric reference selects. -/
def Choices.selectNumeric (c : Choices) (reference : Double) : Text :=
  c.select fun selector => (NumericSelector.parse selector).accepts reference

end ChoiceTemplate

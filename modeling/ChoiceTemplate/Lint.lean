import ChoiceTemplate.EditDistance
import ChoiceTemplate.Selector.Numeric
import ChoiceTemplate.Selector.Pattern

/-
  Advice on choice templates.

  Resolving a template never fails; an entry that cannot do what it says only falls back to the
  default text. `lint` finds the entries that do: without `#`, with a default that replaces an
  earlier one, with a selector that is not a valid pattern, that has upper-case letters and so
  never matches a text, that compares with something that is not a number, or that is one edit
  away from a keyword.
-/
namespace ChoiceTemplate

/-- A piece of advice on the entry at `index` of a template. -/
inductive Warning where
  | missingSeparator (index : Nat) (entry : Text)
  | shadowedDefault (index previous : Nat)
  | invalidPattern (index : Nat) (selector message : Text)
  | uppercasePattern (index : Nat) (selector : Text)
  | unparsableBound (index : Nat) (selector : Text)
  | nearKeyword (index : Nat) (selector suggestion : Text)
  deriving DecidableEq

namespace Warning

/-- The entry that a warning is about. -/
def index : Warning → Nat
  | .missingSeparator index _ => index
  | .shadowedDefault index _ => index
  | .invalidPattern index _ _ => index
  | .uppercasePattern index _ => index
  | .unparsableBound index _ => index
  | .nearKeyword index _ _ => index

/-- The part of a warning that says which choice and which selector it is about. -/
def subject (index : Nat) (selector : Text) : Text :=
  "choice ".toList ++ Text.ofNat index ++ " selector '".toList ++ selector

/-- The wording of a warning. -/
def message : Warning → Text
  | .missingSeparator index entry =>
    "choice ".toList ++ Text.ofNat index ++
      " has no '#' separator, so its text is empty: '".toList ++ entry ++ "'".toList
  | .shadowedDefault index previous =>
    "choice ".toList ++ Text.ofNat index ++ " replaces the default text from choice ".toList ++
      Text.ofNat previous
  | .invalidPattern index selector message =>
    subject index selector ++ "' is not a valid pattern: ".toList ++ message
  | .uppercasePattern index selector =>
    subject index selector ++
      "' has upper-case letters and never matches a text reference".toList
  | .unparsableBound index selector =>
    subject index selector ++ "' has a non-numeric bound, which compares as 0".toList
  | .nearKeyword index selector suggestion =>
    subject index selector ++ "' is not a keyword; did you mean '".toList ++ suggestion ++
      "'?".toList

end Warning

namespace Lint

/-- Whether a text has an upper-case ASCII letter that no backslash escapes. `escaped` says
whether the first character is escaped. -/
def hasUppercaseFrom (escaped : Bool) : Text → Bool
  | [] => false
  | c :: t =>
    if escaped then hasUppercaseFrom false t
    else if c = '\\' then hasUppercaseFrom true t
    else c.isUpper || hasUppercaseFrom false t

/-- Whether a text contains another one. -/
def contains (part t : Text) : Bool := (Text.splitAt? part t).isSome

/-- Whether a selector has an upper-case ASCII letter outside of escapes. A selector that
switches case off by itself has none that matter. -/
def hasUppercaseLiteral (selector : Text) : Bool :=
  !contains ['(', '?', 'i'] selector && hasUppercaseFrom false selector

/-- The keyword that a selector is one edit away from. It has the length of the selector, which
is a word of three letters or more and not a keyword itself. -/
def nearKeyword? (selector : Text) : Option Text :=
  if selector.length < 3 || !selector.all Char.isAlpha || (Keyword.classify selector).isSome then
    none
  else
    let lowered := Text.lowercase selector
    (Keyword.trueWords ++ Keyword.falseWords).find? fun keyword =>
      keyword.length == lowered.length && EditDistance.distance lowered keyword == 1

variable [PatternEngine]

/-- The warning about a selector as a pattern, if there is one. -/
def patternWarning? (index : Nat) (selector : Text) (options : MatchOptions) : Option Warning :=
  match compileSelector selector options with
  | .error error => some (.invalidPattern index selector error.message)
  | .ok _ =>
    if !options.foldCase && (Keyword.classify selector).isNone && hasUppercaseLiteral selector then
      some (.uppercasePattern index selector)
    else none

/-- The warning about the bound of a comparison, if there is one. -/
def boundWarning? (index : Nat) (selector : Text) : Option Warning :=
  match Comparison.split selector with
  | some (_, bound) => if Double.isNumber bound then none else some (.unparsableBound index selector)
  | none => none

/-- The warning about a selector that nearly is a keyword, if it is. -/
def keywordWarning? (index : Nat) (selector : Text) : Option Warning :=
  (nearKeyword? selector).map (.nearKeyword index selector)

/-- The warnings about a selector that is not empty. -/
def selectorWarnings (index : Nat) (selector : Text) (options : MatchOptions) : List Warning :=
  (patternWarning? index selector options).toList ++ (boundWarning? index selector).toList ++
    (keywordWarning? index selector).toList

/-- The warnings about entries that are numbered from `index`. `previous` is the last entry
before them with an empty selector. -/
def entryWarnings (options : MatchOptions) (index : Nat) (previous : Option Nat) :
    List Text → List Warning
  | [] => []
  | entry :: rest =>
    match Text.splitOnce '#' entry with
    | none => .missingSeparator index entry :: entryWarnings options (index + 1) previous rest
    | some ([], _) =>
      (previous.map (.shadowedDefault index)).toList ++
        entryWarnings options (index + 1) (some index) rest
    | some (selector, _) =>
      selectorWarnings index selector options ++ entryWarnings options (index + 1) previous rest

end Lint

/-- The warnings about a template, in the order of its entries. -/
def lint [PatternEngine] (template : Text) (options : MatchOptions) : List Warning :=
  Lint.entryWarnings options 0 none (Choices.entries template)

end ChoiceTemplate

import ChoiceTemplate.Pattern.CharSet

/-
  Patterns as they are matched.

  An expression reads characters from sets, asks for places, and combines expressions in
  sequence, by choice and by repetition. Choices are ordered: the left one of an `alt` is
  preferred, a greedy repetition prefers one more pass and a lazy one prefers to stop. Every
  `one` carries the place where it stands in the pattern, so that equal expressions at different
  places are different expressions.
-/
namespace ChoiceTemplate.Pattern

/-- A place between two characters that an expression can ask for. -/
inductive Look where
  | textStart
  | textEnd
  | lineStart
  | lineEnd
  | crlfLineStart
  | crlfLineEnd
  | boundary (unicode : Bool)
  | notBoundary (unicode : Bool)
  | wordStart (unicode : Bool)
  | wordEnd (unicode : Bool)
  | wordStartHalf (unicode : Bool)
  | wordEndHalf (unicode : Bool)
  deriving DecidableEq

/-- The characters on both sides of a place, where there are any. -/
structure Context where
  before : Option Char
  after : Option Char
  deriving DecidableEq

/-- Whether a character is there and is part of a word. -/
def isWordAt (unicode : Bool) : Option Char → Bool
  | none => false
  | some c => (CharSet.ofLetter unicode .word).contains c

/-- Whether a place is as asked for. -/
def Look.holds (look : Look) (ctx : Context) : Bool :=
  match look with
  | .textStart => ctx.before.isNone
  | .textEnd => ctx.after.isNone
  | .lineStart => ctx.before.isNone || ctx.before == some '\n'
  | .lineEnd => ctx.after.isNone || ctx.after == some '\n'
  | .crlfLineStart =>
    ctx.before.isNone || ctx.before == some '\n' ||
      (ctx.before == some '\r' && ctx.after != some '\n')
  | .crlfLineEnd =>
    ctx.after.isNone || ctx.after == some '\r' ||
      (ctx.after == some '\n' && ctx.before != some '\r')
  | .boundary unicode => isWordAt unicode ctx.before != isWordAt unicode ctx.after
  | .notBoundary unicode => isWordAt unicode ctx.before == isWordAt unicode ctx.after
  | .wordStart unicode => !isWordAt unicode ctx.before && isWordAt unicode ctx.after
  | .wordEnd unicode => isWordAt unicode ctx.before && !isWordAt unicode ctx.after
  | .wordStartHalf unicode => !isWordAt unicode ctx.before
  | .wordEndHalf unicode => !isWordAt unicode ctx.after

/-- A pattern, ready to be matched. -/
inductive Expr where
  | empty
  /-- One character of a set. -/
  | one (place : Nat) (set : CharSet)
  | look (look : Look)
  | seq (a b : Expr)
  | alt (a b : Expr)
  /-- Exactly `n` passes. -/
  | exactly (n : Nat) (e : Expr)
  /-- At most `n` passes. -/
  | upTo (greedy : Bool) (n : Nat) (e : Expr)
  /-- One pass or more. -/
  | plus (greedy : Bool) (e : Expr)
  /-- Any number of passes, none of which is followed by another if it reads nothing. -/
  | again (greedy : Bool) (e : Expr)
  deriving DecidableEq

namespace Expr

/-- Whether an expression never reads a character. -/
def readsNothing : Expr → Bool
  | .empty => true
  | .one _ _ => false
  | .look _ => true
  | .seq a b => a.readsNothing && b.readsNothing
  | .alt a b => a.readsNothing && b.readsNothing
  | .exactly n e => n == 0 || e.readsNothing
  | .upTo _ n e => n == 0 || e.readsNothing
  | .plus _ e => e.readsNothing
  | .again _ e => e.readsNothing

/-- Whether an expression can match without reading a character. -/
def canBeEmpty : Expr → Bool
  | .empty => true
  | .one _ _ => false
  | .look _ => true
  | .seq a b => a.canBeEmpty && b.canBeEmpty
  | .alt a b => a.canBeEmpty || b.canBeEmpty
  | .exactly n e => n == 0 || e.canBeEmpty
  | .upTo _ _ _ => true
  | .plus _ e => e.canBeEmpty
  | .again _ _ => true

/-- Any number of passes. Where a pass may read nothing, the first one is kept apart from the
further ones, so that the preference between one pass and none is not lost. -/
def star (greedy : Bool) (e : Expr) : Expr :=
  if e.canBeEmpty then .upTo greedy 1 (.plus greedy e) else .again greedy e

/-- A repetition with given counts. An expression that reads nothing need not be repeated more
than once. -/
def ofCount (count : Count) (greedy : Bool) (e : Expr) : Expr :=
  let count : Count :=
    if e.readsNothing then ⟨min count.least 1, some (min (count.most.getD 1) 1)⟩ else count
  match count.most with
  | none =>
    match count.least with
    | 0 => star greedy e
    | 1 => .plus greedy e
    | least + 1 => .seq (.exactly least e) (.plus greedy e)
  | some most =>
    if count.least = 1 ∧ most = 1 then e
    else if count.least = most then .exactly most e
    else if count.least = 0 then .upTo greedy most e
    else .seq (.exactly count.least e) (.upTo greedy (most - count.least) e)

end Expr

end ChoiceTemplate.Pattern

import ChoiceTemplate.Pattern.Expr

/-
  How large a pattern is once it is prepared for matching.

  A pattern that stands for a few fixed short texts, has no group that captures and asks for no
  place is matched by comparing texts and takes no room of its own (`Expr.isTexts`). For every other
  pattern `Expr.weight` is an estimate, in bytes, of the automaton that reads the bytes of a text: a
  state for each byte and each branch, once for every pass that a count asks for.

  It is an estimate since that automaton is not built here. An engine that builds it knows the
  states that runs of characters share, which `CharSet.weight` only guesses, it shares the texts
  that begin alike before it counts them, and it measures the automaton that reads backwards as
  well. So near the edge the two may differ about what is too large: a class of a few characters
  outside ASCII counts for too much, and classes of the same number of runs count for the same. What
  is certain is that short literals are never too large, and that each of `.{1100}`, `\w{25}` and a
  literal of 33000 letters is too large for the default limit while `\pl{10}` is not. Nothing but
  the size limit depends on the estimate.
-/
namespace ChoiceTemplate.Pattern

-- Powers are the core library's, whatever else is imported.
attribute [local instance (high)] instPowNat

/-- The size of a state in bytes. -/
def stateWeight : Nat := 32

/-- The size of a branch, a state with its two ways. -/
def branchWeight : Nat := stateWeight + 8

/-- The size of the two states that mark the beginning and the end of a group that captures. -/
def captureWeight : Nat := 2 * stateWeight

namespace CharSet

/-- The most members of a set that is still spelled out. -/
def spelledOut : Nat := 10

/-- The most bytes that a member of a set has. -/
def longest : CharSet → Nat
  | .range _ high => high.utf8Size
  | .union a b => max a.longest b.longest
  | .folded (.range low high) =>
    if low = high then (Unicode.variants low).foldr (fun c n => max c.utf8Size n) 1 else 4
  | _ => 4

/-- How many runs of code points a set is built from. Runs that touch or overlap in a union are
counted by themselves. -/
def runs : CharSet → Nat
  | .empty => 0
  | .range _ _ => 1
  | .categories members => Unicode.countRuns members
  | .property p => p.countRuns
  | .union a b => a.runs + b.runs
  | .inter a b => a.runs + b.runs
  | .compl a => a.runs + 1
  | .folded a => 2 * a.runs

/-- The estimated size of a set in bytes. Within ASCII it is a state with its ranges and the one
after it. Outside ASCII the states for the bytes that begin a character are shared, and each run
adds one or two states of its own for the bytes that end it. -/
def weight : CharSet → Nat
  | .range low high =>
    if low = high then stateWeight * low.utf8Size
    else if high.toNat < 128 then 2 * stateWeight + 8 else 900 + 55
  | set => if set.isAscii then 2 * stateWeight + 8 * set.runs else 900 + 55 * set.runs

end CharSet

namespace Expr

/-- The most texts that a pattern may stand for to be matched by comparing them. -/
def textLimit : Nat := 250

/-- The number, if it is not too large. -/
def bounded (n : Nat) : Option Nat := if n ≤ textLimit then some n else none

/-- How many texts a pattern stands for, if these are few. -/
def textCount? : Expr → Option Nat
  | .empty => some 1
  | .one _ set => set.count? CharSet.spelledOut
  | .look _ => none
  | .seq a b => do
    let m ← a.textCount?
    let n ← b.textCount?
    bounded (m * n)
  | .alt a b => do
    let m ← a.textCount?
    let n ← b.textCount?
    bounded (m + n)
  | .exactly n e => do
    let m ← e.textCount?
    if CharSet.spelledOut < n then none else bounded (m ^ n)
  | .upTo _ n e => do
    let m ← e.textCount?
    if n ≤ 1 then bounded (m + 1) else none
  | .plus _ _ => none
  | .again _ _ => none

/-- The most bytes that the texts have that such a pattern stands for. -/
def longest : Expr → Nat
  | .empty => 0
  | .one _ set => set.longest
  | .look _ => 0
  | .seq a b => a.longest + b.longest
  | .alt a b => max a.longest b.longest
  | .exactly n e => n * e.longest
  | .upTo _ n e => n * e.longest
  | .plus _ e => e.longest
  | .again _ e => e.longest

/-- The most bytes of a text that is compared as a whole. -/
def lengthLimit : Nat := 100

/-- Whether a pattern stands for a few short texts, none of which is empty. -/
def isTexts (e : Expr) : Bool :=
  (e.textCount?.any fun n => 0 < n) && !e.canBeEmpty && e.longest ≤ lengthLimit

/-- The estimated size of a pattern in bytes. -/
def weight : Expr → Nat
  | .empty => stateWeight
  | .one _ set => set.weight
  | .look _ => stateWeight
  | .seq a b => a.weight + b.weight
  | .alt a b => branchWeight + a.weight + b.weight
  | .exactly n e => n * e.weight
  | .upTo _ n e => stateWeight + n * (branchWeight + e.weight)
  | .plus _ e => branchWeight + e.weight
  | .again _ e => branchWeight + e.weight

end Expr

/-- The size of what every automaton has: the states that pass over what comes before a match, and
those that mark its beginning and its end. -/
def baseWeight : Nat := 6 * stateWeight

end ChoiceTemplate.Pattern

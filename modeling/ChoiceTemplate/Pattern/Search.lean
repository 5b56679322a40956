import ChoiceTemplate.Pattern.Engine
import ChoiceTemplate.Pattern.Expr

/-
  Searching a text for the first match of an expression.

  A way of going on with a match is the list of the expressions that are still to be matched. At
  each place of the text the ways that are open are kept in order of preference; every one of
  them is a set that the next character must be in, or is done. `expand` finds them: it follows
  an expression as far as it goes without reading a character, and it enters no way twice at one
  place, so that a repetition of nothing ends. A way that is done cuts off all that are less
  preferred, but a more preferred one may still end the match later.

  `find?` tries every place of the text from left to right and gives the first match.
-/
namespace ChoiceTemplate.Pattern

/-- A way of going on that has come to the end of a place. -/
inductive Thread where
  | done
  /-- The next character must be in a set, and then the expressions are to be matched. -/
  | reading (set : CharSet) (next : List Expr)
  deriving DecidableEq

/-- What has been found at one place: the ways that were entered, and the threads they led to,
the least preferred one first. -/
structure Sweep where
  entered : List (List Expr)
  threads : List Thread

namespace Sweep

/-- Nothing has been found yet. -/
def start : Sweep := ⟨[], []⟩

/-- Adds a thread that is less preferred than all others. -/
def add (thread : Thread) (s : Sweep) : Sweep := { s with threads := thread :: s.threads }

/-- Goes on with a way, unless it was entered before. -/
def enter (way : List Expr) (go : Sweep → Sweep) (s : Sweep) : Sweep :=
  if s.entered.contains way then s else go { s with entered := way :: s.entered }

end Sweep

/-- How an expression is followed, given what comes after it as a list and as what to do when
the expression has been passed without reading a character. -/
abbrev Expansion := List Expr → (Sweep → Sweep) → Sweep → Sweep

/-- Follows `n` passes of an expression `e`. -/
def expandExactly (follow : Expansion) (e : Expr) : Nat → Expansion
  | 0, _, pass => pass
  | n + 1, after, pass =>
    let rest := .exactly n e :: after
    follow rest (Sweep.enter rest (expandExactly follow e n after pass))

/-- Follows at most `n` passes of an expression `e`. -/
def expandUpTo (follow : Expansion) (greedy : Bool) (e : Expr) : Nat → Expansion
  | 0, _, pass => pass
  | n + 1, after, pass =>
    let rest := .upTo greedy n e :: after
    let once := follow rest (Sweep.enter rest (expandUpTo follow greedy e n after pass))
    if greedy then fun s => pass (once s) else fun s => once (pass s)

/-- Follows an expression at a place. -/
def Expr.expand (ctx : Context) (e : Expr) (after : List Expr) (pass : Sweep → Sweep) :
    Sweep → Sweep :=
  Sweep.enter (e :: after) <|
    match e with
    | .empty => pass
    | .one _ set => Sweep.add (.reading set after)
    | .look place => if place.holds ctx then pass else id
    | .seq a b => a.expand ctx (b :: after) (b.expand ctx after pass)
    | .alt a b => fun s => b.expand ctx after pass (a.expand ctx after pass s)
    | .exactly n e => expandExactly (e.expand ctx) e n after pass
    | .upTo greedy n e => expandUpTo (e.expand ctx) greedy e n after pass
    | .plus greedy e =>
      let rest := .again greedy e :: after
      e.expand ctx rest (Sweep.enter rest pass)
    | .again greedy e =>
      let once := e.expand ctx (.again greedy e :: after) id
      if greedy then fun s => pass (once s) else fun s => once (pass s)

/-- Follows a way at a place. A way on which nothing is left to be matched is done. -/
def expandAll (ctx : Context) : List Expr → Sweep → Sweep
  | [] => Sweep.enter [] (Sweep.add .done)
  | e :: after => e.expand ctx after (expandAll ctx after)

/-- The threads of a way at a place, the most preferred one first. -/
def threadsOf (ctx : Context) (way : List Expr) : List Thread :=
  (expandAll ctx way Sweep.start).threads.reverse

/-- Follows all threads that accept a character, at the place after it. A thread that is done
cuts off the rest. -/
def advanceFrom (ctx : Context) (c : Char) : List Thread → Sweep → Sweep
  | [], s => s
  | .done :: _, s => s
  | .reading set next :: threads, s =>
    advanceFrom ctx c threads (if set.contains c then expandAll ctx next s else s)

/-- The threads after a character, the most preferred one first. -/
def advanceThreads (ctx : Context) (c : Char) (threads : List Thread) : List Thread :=
  (advanceFrom ctx c threads Sweep.start).threads.reverse

/-- The text that the threads match from here on, if they match. `read` has been read before,
last character first, and `best` is what the preferred threads gave up so far. -/
def runThreads (threads : List Thread) (read : Text) (best : Option Text) : Text → Option Text
  | [] => if threads.contains .done then some read.reverse else best
  | c :: rest =>
    let best := if threads.contains .done then some read.reverse else best
    if threads.isEmpty then best
    else
      let ctx : Context := ⟨some c, rest.head?⟩
      runThreads (advanceThreads ctx c threads) (c :: read) best rest

/-- The text that an expression matches at a place, `before` being the character before it. -/
def Expr.matchAt? (e : Expr) (before : Option Char) (t : Text) : Option Text :=
  runThreads (threadsOf ⟨before, t.head?⟩ [e]) [] none t

/-- The first match of an expression in a text of which `passed` has been passed over, last
character first. -/
def Expr.findFrom? (e : Expr) (passed : Text) : Text → Option Match
  | [] => (e.matchAt? passed.head? []).map fun covered => ⟨passed.reverse, covered⟩
  | c :: rest =>
    match e.matchAt? passed.head? (c :: rest) with
    | some covered => some ⟨passed.reverse, covered⟩
    | none => e.findFrom? (c :: passed) rest

/-- The first match of an expression in a text. -/
def Expr.find? (e : Expr) (t : Text) : Option Match := e.findFrom? [] t

end ChoiceTemplate.Pattern

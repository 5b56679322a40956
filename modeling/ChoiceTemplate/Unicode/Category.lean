import ChoiceTemplate.Text.Basic

/-
  The general categories of characters and the names that they go by.

  Each constructor is named by the two letters of its category: the first is the group (letter,
  mark, number, punctuation, symbol, separator, other), the second the kind within the group.
  A name stands for a list of categories, as a group's name stands for all of its kinds.
-/
namespace ChoiceTemplate.Unicode

/-- A general category. -/
inductive Category where
  | lu | ll | lt | lm | lo
  | mn | mc | me
  | nd | nl | no
  | pc | pd | ps | pe | pi | pf | po
  | sm | sc | sk | so
  | zs | zl | zp
  | cc | cf | cs | co | cn
  deriving DecidableEq

namespace Category

def casedLetters : List Category := [.lu, .ll, .lt]
def letters : List Category := [.lu, .ll, .lt, .lm, .lo]
def marks : List Category := [.mn, .mc, .me]
def numbers : List Category := [.nd, .nl, .no]
def punctuation : List Category := [.pc, .pd, .ps, .pe, .pi, .pf, .po]
def symbols : List Category := [.sm, .sc, .sk, .so]
def separators : List Category := [.zs, .zl, .zp]
def others : List Category := [.cc, .cf, .cs, .co, .cn]

/-- Every name of a category or a group, in lower case and without separators, with the
categories it stands for. -/
def names : List (String × List Category) :=
  [("c", others), ("other", others), ("cc", [.cc]), ("control", [.cc]), ("cntrl", [.cc]),
   ("cf", [.cf]), ("format", [.cf]), ("cn", [.cn]), ("unassigned", [.cn]), ("co", [.co]),
   ("privateuse", [.co]), ("cs", [.cs]), ("surrogate", [.cs]), ("l", letters),
   ("letter", letters), ("lc", casedLetters), ("casedletter", casedLetters), ("ll", [.ll]),
   ("lowercaseletter", [.ll]), ("lm", [.lm]), ("modifierletter", [.lm]), ("lo", [.lo]),
   ("otherletter", [.lo]), ("lt", [.lt]), ("titlecaseletter", [.lt]), ("lu", [.lu]),
   ("uppercaseletter", [.lu]), ("m", marks), ("mark", marks), ("combiningmark", marks),
   ("mc", [.mc]), ("spacingmark", [.mc]), ("me", [.me]), ("enclosingmark", [.me]),
   ("mn", [.mn]), ("nonspacingmark", [.mn]), ("n", numbers), ("number", numbers),
   ("nd", [.nd]), ("decimalnumber", [.nd]), ("digit", [.nd]), ("nl", [.nl]),
   ("letternumber", [.nl]), ("no", [.no]), ("othernumber", [.no]), ("p", punctuation),
   ("punctuation", punctuation), ("punct", punctuation), ("pc", [.pc]),
   ("connectorpunctuation", [.pc]), ("pd", [.pd]), ("dashpunctuation", [.pd]), ("pe", [.pe]),
   ("closepunctuation", [.pe]), ("pf", [.pf]), ("finalpunctuation", [.pf]), ("pi", [.pi]),
   ("initialpunctuation", [.pi]), ("po", [.po]), ("otherpunctuation", [.po]), ("ps", [.ps]),
   ("openpunctuation", [.ps]), ("s", symbols), ("symbol", symbols), ("sc", [.sc]),
   ("currencysymbol", [.sc]), ("sk", [.sk]), ("modifiersymbol", [.sk]), ("sm", [.sm]),
   ("mathsymbol", [.sm]), ("so", [.so]), ("othersymbol", [.so]), ("z", separators),
   ("separator", separators), ("zl", [.zl]), ("lineseparator", [.zl]), ("zp", [.zp]),
   ("paragraphseparator", [.zp]), ("zs", [.zs]), ("spaceseparator", [.zs])]

end Category

end ChoiceTemplate.Unicode

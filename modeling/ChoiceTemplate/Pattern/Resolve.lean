import ChoiceTemplate.Pattern.Expr

/-
  What a pattern means under its flags.

  The flags that hold at a part of a pattern decide what it matches. They are carried through
  the pattern from left to right; a group restores those that held before it. A part that could
  match something that is not a character, or that needs Unicode where that is switched off, is
  a fault (`Ast.resolve`), and so is a property without a meaning.
-/
namespace ChoiceTemplate.Pattern

/-- The flags that hold at a part of a pattern. -/
structure Flags where
  ignoreCase : Bool
  multiLine : Bool
  dotMatchesNewLine : Bool
  swapGreed : Bool
  unicode : Bool
  crlf : Bool

namespace Flags

/-- The flags at the beginning of a pattern. -/
def initial : Flags := ⟨false, false, false, false, true, false⟩

/-- The flags after one of them is changed. How white space is read is no longer of interest. -/
def change (f : Flags) : Flag × Bool → Flags
  | (.ignoreCase, value) => { f with ignoreCase := value }
  | (.multiLine, value) => { f with multiLine := value }
  | (.dotMatchesNewLine, value) => { f with dotMatchesNewLine := value }
  | (.swapGreed, value) => { f with swapGreed := value }
  | (.unicode, value) => { f with unicode := value }
  | (.crlf, value) => { f with crlf := value }
  | (.ignoreSpace, _) => f

/-- The flags after several changes. -/
def changeAll (f : Flags) (changes : FlagChanges) : Flags := changes.foldl change f

end Flags

/-- The value that a table has for a name. -/
def lookUp? {α : Type} (table : List (String × α)) (name : Text) : Option α :=
  table.findSome? fun (known, value) => if name = known.toList then some value else none

/-- The general categories with a name. -/
def categoriesNamed? (name : Text) : Option CharSet :=
  (lookUp? Unicode.Category.names name).map .categories

/-- The set that a Unicode class asks for, negation aside. The general categories and the properties
in `Unicode.Property.names` have a table here. Every other name is reported as unknown, among them
scripts and most yes-or-no properties (`Greek`, `Script=Latin`, `Emoji`), for which an engine with
all tables would have a set. -/
def PropertyQuery.set? (query : PropertyQuery) : Except Cause CharSet :=
  match query with
  | .named name =>
    match (categoriesNamed? name).or ((lookUp? Unicode.Property.names name).map .property) with
    | some set => .ok set
    | none => .error .propertyNotFound
  | .valued property value =>
    if property = "gc".toList ∨ property = "generalcategory".toList then
      match (categoriesNamed? value).or
          (([("any", .any), ("assigned", .assigned), ("ascii", .ascii)] :
            List (String × Unicode.Property)).findSome? fun (known, p) =>
              if value = known.toList then some (.property p) else none) with
      | some set => .ok set
      | none => .error .propertyValueNotFound
    else .error .propertyNotFound

/-- The set of a Unicode class. -/
def PropertyClass.resolve (f : Flags) (p : PropertyClass) : Except Fault CharSet :=
  if !f.unicode then fail .unicodeNotAllowed p.span
  else
    match p.query.set? with
    | .error cause => fail cause p.span
    | .ok set => .ok ((set.foldIf f.ignoreCase).complIf p.negated)

/-- The set of a class with a one-letter escape. Without Unicode it must not reach beyond
ASCII. -/
def resolveLetter (f : Flags) (span : Span) (negated : Bool) (kind : LetterClass) :
    Except Fault CharSet :=
  if !f.unicode && negated then fail .invalidUtf8 span
  else .ok ((CharSet.ofLetter f.unicode kind).complIf negated)

/-- The character of a literal. Without Unicode, two hexadecimal digits are a byte, and a byte
beyond ASCII is not a character. -/
def Literal.resolve (f : Flags) (l : Literal) : Except Fault Char :=
  if !f.unicode && l.isByte && 128 ≤ l.char.toNat then fail .invalidUtf8 l.span
  else .ok l.char

/-- The character of a literal in a class. Without Unicode it must be of ASCII. -/
def Literal.resolveInClass (f : Flags) (l : Literal) : Except Fault Char := do
  let c ← l.resolve f
  if !f.unicode && 128 ≤ c.toNat then fail .unicodeNotAllowed l.span else .ok c

/-- The set of a literal outside of a class. Where case is ignored without Unicode, the literal
must be of ASCII. -/
def Literal.resolveSet (f : Flags) (l : Literal) : Except Fault CharSet := do
  let c ← l.resolve f
  if f.ignoreCase then
    if !f.unicode && 128 ≤ c.toNat then fail .unicodeNotAllowed l.span
    else if !f.unicode && !c.isAlpha then .ok (.single c)
    else if !f.unicode then .ok (.union (.single c.toLower) (.single c.toUpper))
    else .ok (.folded (.single c))
  else .ok (.single c)

/-- A class with all variants in another case, if case is ignored, and then negated if asked
for. Without Unicode the variants are those of ASCII, and the result must not reach beyond
ASCII. -/
def finishClass (f : Flags) (span : Span) (negated : Bool) (set : CharSet) :
    Except Fault CharSet :=
  let folded := set.foldIf f.ignoreCase
  if f.unicode then .ok (folded.complIf negated)
  else
    let result := (if f.ignoreCase then .inter folded (.ofNamed .ascii) else folded).complIf negated
    if result.isAscii then .ok result else fail .invalidUtf8 span

namespace ClassSet

/-- The set of the inside of a character class. -/
def resolve (f : Flags) : ClassSet → Except Fault CharSet
  | .empty _ => .ok .empty
  | .literal l => (l.resolveInClass f).map .single
  | .range low high => do
    let lowChar ← low.resolveInClass f
    let highChar ← high.resolveInClass f
    .ok (.range lowChar highChar)
  | .named span negated kind => finishClass f span negated (.ofNamed kind)
  | .letter span negated kind => resolveLetter f span negated kind
  | .property p => p.resolve f
  | .bracketed span negated set => do finishClass f span negated (← resolve f set)
  | .also part rest => do
    let a ← resolve f part
    let b ← resolve f rest
    .ok (.union a b)
  | .several _ parts => resolve f parts
  | .op _ kind left right => do
    let a ← resolve f left
    let b ← resolve f right
    .ok (.combine kind (a.foldIf f.ignoreCase) (b.foldIf f.ignoreCase))

end ClassSet

/-- The place that an anchor asks for. -/
def Anchor.look (f : Flags) : Anchor → Look
  | .lineStart => if f.multiLine then (if f.crlf then .crlfLineStart else .lineStart) else .textStart
  | .lineEnd => if f.multiLine then (if f.crlf then .crlfLineEnd else .lineEnd) else .textEnd
  | .textStart => .textStart
  | .textEnd => .textEnd
  | .wordBoundary => .boundary f.unicode
  | .notWordBoundary => .notBoundary f.unicode
  | .wordStart => .wordStart f.unicode
  | .wordEnd => .wordEnd f.unicode
  | .wordStartHalf => .wordStartHalf f.unicode
  | .wordEndHalf => .wordEndHalf f.unicode

namespace Ast

/-- The expression of a part of a pattern, and the flags that hold after it. -/
def resolve (f : Flags) : Ast → Except Fault (Expr × Flags)
  | .empty => .ok (.empty, f)
  | .flags changes => .ok (.empty, f.changeAll changes)
  | .literal l => do
    let set ← l.resolveSet f
    .ok (.one l.span.first set, f)
  | .dot span =>
    if !f.unicode then fail .invalidUtf8 span
    else
      .ok (.one span.first (if f.dotMatchesNewLine then .all else .notLineEnd f.crlf), f)
  | .anchor _ kind => .ok (.look (kind.look f), f)
  | .letter span negated kind => do
    let set ← resolveLetter f span negated kind
    .ok (.one span.first set, f)
  | .property p => do
    let set ← p.resolve f
    .ok (.one p.span.first set, f)
  | .bracketed span negated set => do
    let inner ← set.resolve f
    let set ← finishClass f span negated inner
    .ok (.one span.first set, f)
  | .repetition _ count greedy body => do
    let (e, f') ← body.resolve f
    .ok (.ofCount count (greedy != f.swapGreed) e, f')
  | .group _ _ changes body => do
    let (e, _) ← body.resolve (f.changeAll changes)
    .ok (e, f)
  | .andThen part rest => do
    let (a, f') ← part.resolve f
    let (b, f'') ← rest.resolve f'
    .ok (.seq a b, f'')
  | .sequence _ parts => parts.resolve f
  | .orElse part rest => do
    let (a, f') ← part.resolve f
    let (b, f'') ← rest.resolve f'
    .ok (.alt a b, f'')
  | .alternatives _ parts => parts.resolve f

/-- The number of groups that capture. -/
def captures : Ast → Nat
  | .repetition _ _ _ body => body.captures
  | .group _ captures _ body => (if captures then 1 else 0) + body.captures
  | .andThen part rest => part.captures + rest.captures
  | .sequence _ parts => parts.captures
  | .orElse part rest => part.captures + rest.captures
  | .alternatives _ parts => parts.captures
  | _ => 0

end Ast

end ChoiceTemplate.Pattern

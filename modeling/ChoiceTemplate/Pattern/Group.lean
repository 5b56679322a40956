import ChoiceTemplate.Pattern.Cursor
import ChoiceTemplate.Unicode.Property

/-
  The opening of a group: whether it captures, its name, and the flags it sets.

  After the opening parenthesis come a name (`?<name>` or `?P<name>`), flags with a colon
  (`?i:`), flags alone (`?i)`), which are no group at all but apply to what follows, or nothing
  of all that. Look-around is recognised only to be refused.
-/
namespace ChoiceTemplate.Pattern

/-- The names of groups so far, with their stretches. -/
abbrev GroupNames := List (Text × Span)

/-- The opening of a group, or flags that stand alone. -/
inductive Opening where
  | group (captures : Bool) (changes : FlagChanges)
  | flags (changes : FlagChanges)

/-- Whether a character can stand in the name of a group. -/
def isNameChar (atStart : Bool) (c : Char) : Bool :=
  if atStart then c = '_' || Unicode.isAlphabetic c
  else ['_', '.', '[', ']'].contains c || Unicode.isAlphanumeric c

/-- The name of a group up to its `>`, from a text of which `read` characters at the end of the
name are known. The cursor is left on the `>`. -/
def readNameFrom (atStart : Bool) (offset : Nat) : Text → Except Fault (Text × Cursor)
  | [] => fail .nameUnclosed ⟨offset, offset⟩
  | c :: t =>
    if c = '>' then .ok ([], ⟨offset, c :: t⟩)
    else if isNameChar atStart c then
      (readNameFrom false (offset + 1) t).map fun (name, cursor) => (c :: name, cursor)
    else fail .nameInvalid ⟨offset, offset + 1⟩

/-- The name of a group, which must be new, and the cursor after its `>`. -/
def readName (names : GroupNames) (c : Cursor) : Except Fault (GroupNames × Cursor) := do
  let (name, close) ← readNameFrom true c.offset c.rest
  let span := close.since c.offset
  if name.isEmpty then fail .nameEmpty c.point
  else
    match names.find? fun known => known.1 == name with
    | some (_, earlier) => .error ⟨.nameDuplicate, span, some earlier⟩
    | none => .ok ((name, span) :: names, close.next)

/-- The flags by their letter. -/
def flag? (c : Char) : Option Flag :=
  match c with
  | 'i' => some .ignoreCase
  | 'm' => some .multiLine
  | 's' => some .dotMatchesNewLine
  | 'U' => some .swapGreed
  | 'u' => some .unicode
  | 'R' => some .crlf
  | 'x' => some .ignoreSpace
  | _ => none

/-- A flag or, as nothing, the hyphen that negates the flags after it, each with its stretch. -/
abbrev FlagItems := List (Option Flag × Span)

/-- The flags up to a colon or a closing parenthesis, on which the cursor is left. `items` are
those read before, last one first, and no flag and no hyphen may come twice. -/
def readFlagItems (items : FlagItems) (offset : Nat) : Text → Except Fault (FlagItems × Cursor)
  | [] => fail .flagUnfinished ⟨offset, offset⟩
  | c :: t =>
    let span : Span := ⟨offset, offset + 1⟩
    if c = ':' ∨ c = ')' then
      match items with
      | (none, hyphen) :: _ => fail .flagNegationDangling hyphen
      | _ => .ok (items.reverse, ⟨offset, c :: t⟩)
    else
      let item := flag? c
      if item.isNone ∧ c ≠ '-' then fail .flagUnrecognized span
      else
        match items.find? fun known => known.1 == item with
        | some (_, earlier) =>
          .error ⟨if item.isNone then .flagNegationRepeated else .flagDuplicate, span, some earlier⟩
        | none => readFlagItems ((item, span) :: items) (offset + 1) t

/-- The flags with their new values: set before the hyphen and cleared after it. -/
def flagChanges (value : Bool) : FlagItems → FlagChanges
  | [] => []
  | (none, _) :: items => flagChanges false items
  | (some flag, _) :: items => (flag, value) :: flagChanges value items

/-- The new value of a flag, if it is changed. -/
def FlagChanges.value? (changes : FlagChanges) (flag : Flag) : Option Bool :=
  (changes.find? fun change => change.1 == flag).map Prod.snd

/-- What an opening parenthesis opens, the names of groups after it, and the cursor after it. -/
def readOpening (spaced : Bool) (names : GroupNames) (c : Cursor) :
    Except Fault (Opening × GroupNames × Cursor) := do
  let inner := c.advance spaced
  match [['?', '='], ['?', '!'], ['?', '<', '='], ['?', '<', '!']].findSome? inner.after? with
  | some after => fail .lookAround (after.since c.offset)
  | none =>
    match [['?', 'P', '<'], ['?', '<']].findSome? inner.after? with
    | some after =>
      let (names, close) ← readName names after
      .ok (.group true [], names, close)
    | none =>
      match inner.after? ['?'] with
      | none => .ok (.group true [], names, inner)
      | some after =>
        if after.atEnd then fail .groupUnclosed c.here
        else
          let (items, close) ← readFlagItems [] after.offset after.rest
          let changes := flagChanges true items
          if close.isAt ':' then .ok (.group false changes, names, close.next)
          else if items.isEmpty then fail .repetitionMissing inner.point
          else .ok (.flags changes, names, close.next)

end ChoiceTemplate.Pattern

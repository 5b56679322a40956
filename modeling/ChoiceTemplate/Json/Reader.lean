import ChoiceTemplate.Json.Number

/-
  Reading JSON texts.

  The grammar is the strict one: no comments, no commas at the end, no raw control characters in
  strings, and nothing but white space around the value. Escapes of half a surrogate pair are
  refused, and so is a value that is nested more than 127 levels deep.
-/
namespace ChoiceTemplate.Json

/-- How many arrays and objects may be around a value. -/
def depthLimit : Nat := 127

/-- The text after white space. -/
def skipSpace (t : Text) : Text :=
  t.dropWhile fun c => c = ' ' || c = '\t' || c = '\n' || c = '\r'

/-- The value of a hexadecimal digit, if the character is one. -/
def hexDigit? (c : Char) : Option Nat :=
  if c.isDigit then some (c.toNat - '0'.toNat)
  else if 'a' ≤ c ∧ c ≤ 'f' then some (c.toNat - 'a'.toNat + 10)
  else if 'A' ≤ c ∧ c ≤ 'F' then some (c.toNat - 'A'.toNat + 10)
  else none

/-- The number that four hexadecimal digits at the front of a text denote, and the rest. -/
def readCode? : Text → Option (Nat × Text)
  | a :: b :: c :: d :: t => do
    let a ← hexDigit? a
    let b ← hexDigit? b
    let c ← hexDigit? c
    let d ← hexDigit? d
    some (((a * 16 + b) * 16 + c) * 16 + d, t)
  | _ => none

/-- The character of a code, and the rest of the text. The first half of a pair takes the second
half, which must follow. -/
def readUnit? (t : Text) : Option (Char × Text) := do
  let (n, t) ← readCode? t
  if n < 0xD800 ∨ 0xDFFF < n then some (Char.ofNat n, t)
  else if 0xDC00 ≤ n then none
  else
    match t with
    | '\\' :: 'u' :: t => do
      let (low, t) ← readCode? t
      if 0xDC00 ≤ low ∧ low ≤ 0xDFFF then
        some (Char.ofNat (0x10000 + (n - 0xD800) * 1024 + (low - 0xDC00)), t)
      else none
    | _ => none

/-- The character of an escape sequence, whose backslash has been read, and the rest. -/
def readEscape? : Text → Option (Char × Text)
  | '"' :: t => some ('"', t)
  | '\\' :: t => some ('\\', t)
  | '/' :: t => some ('/', t)
  | 'b' :: t => some ('\x08', t)
  | 'f' :: t => some ('\x0c', t)
  | 'n' :: t => some ('\n', t)
  | 'r' :: t => some ('\r', t)
  | 't' :: t => some ('\t', t)
  | 'u' :: t => readUnit? t
  | _ => none

/-- The characters of a string whose opening quote has been read, and the rest after its closing
quote, in at most `count` steps. -/
def readString? : (count : Nat) → Text → Option (Text × Text)
  | 0, _ => none
  | _ + 1, [] => none
  | count + 1, c :: t =>
    if c = '"' then some ([], t)
    else if c = '\\' then do
      let (d, t) ← readEscape? t
      let (s, rest) ← readString? count t
      some (d :: s, rest)
    else if c.toNat < 0x20 then none
    else do
      let (s, rest) ← readString? count t
      some (c :: s, rest)

/-- The value of a word, if the text begins with it, and the rest. -/
def readWord? (t : Text) : Option (Json × Text) :=
  match Text.afterStart? "null".toList t with
  | some rest => some (.null, rest)
  | none =>
    match Text.afterStart? "true".toList t with
    | some rest => some (.boolean true, rest)
    | none => (Text.afterStart? "false".toList t).map fun rest => (.boolean false, rest)

mutual

/-- The value that a text begins with, after white space, and the rest. `depth` more levels may
be opened, and at most `count` steps are taken. -/
def readValue? : (count depth : Nat) → Text → Option (Json × Text)
  | 0, _, _ => none
  | count + 1, depth, t =>
    match skipSpace t with
    | [] => none
    | '"' :: t => (readString? (t.length + 1) t).map fun (s, rest) => (.string s, rest)
    | '[' :: t =>
      if depth = 0 then none
      else
        match skipSpace t with
        | ']' :: rest => some (.array [], rest)
        | t => (readItems? count (depth - 1) t).map fun (items, rest) => (.array items, rest)
    | '\x7b' :: t =>
      if depth = 0 then none
      else
        match skipSpace t with
        | '\x7d' :: rest => some (.object [], rest)
        | t =>
          (readMembers? count (depth - 1) t).map fun (members, rest) => (.object members, rest)
    | c :: t => if c = '-' ∨ c.isDigit then readNumber? (c :: t) else readWord? (c :: t)

/-- The items of an array up to its closing bracket, and the rest after it. -/
def readItems? : (count depth : Nat) → Text → Option (List Json × Text)
  | 0, _, _ => none
  | count + 1, depth, t => do
    let (item, t) ← readValue? count depth t
    match skipSpace t with
    | ',' :: t => do
      let (items, rest) ← readItems? count depth t
      some (item :: items, rest)
    | ']' :: rest => some ([item], rest)
    | _ => none

/-- The members of an object up to its closing brace, and the rest after it. -/
def readMembers? : (count depth : Nat) → Text → Option (List (Text × Json) × Text)
  | 0, _, _ => none
  | count + 1, depth, t =>
    match skipSpace t with
    | '"' :: t => do
      let (key, t) ← readString? (t.length + 1) t
      match skipSpace t with
      | ':' :: t => do
        let (value, t) ← readValue? count depth t
        match skipSpace t with
        | ',' :: t => do
          let (members, rest) ← readMembers? count depth t
          some ((key, value) :: members, rest)
        | '\x7d' :: rest => some ([(key, value)], rest)
        | _ => none
      | _ => none
    | _ => none

end

/-- The value that a text denotes. -/
def read? (t : Text) : Option Json :=
  match readValue? (t.length + 1) depthLimit t with
  | some (value, rest) => if (skipSpace rest).isEmpty then some value else none
  | none => none

end ChoiceTemplate.Json

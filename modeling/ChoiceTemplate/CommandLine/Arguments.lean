import ChoiceTemplate.Text.Split

/-
  Options and operands of a command line.

  A grammar lists the options that may be given: flags, and options with a value, each with a
  long name and perhaps a letter. `scan` sorts the arguments into options and operands. The value
  of an option stands in the same argument after `=` (or right after the letter), or is the next
  argument, which must not look like an option; where negative numbers are allowed it may look
  like one. After `--` every argument is an operand.
-/
namespace ChoiceTemplate.CommandLine

/-- What an option takes. -/
inductive OptionKind where
  | flag
  /-- A flag that answers the command line by itself, whatever follows it. -/
  | answer
  /-- A value, which may be a negative number if `negative` holds. -/
  | value (negative : Bool)
  deriving DecidableEq

/-- An option that may be given, and whether more than once. -/
structure OptionSpec where
  name : Text
  letter : Option Char
  kind : OptionKind
  repeatable : Bool

/-- An option that was given. A flag has an empty value. -/
structure Given where
  name : Text
  value : Text

/-- The command line does not follow the grammar. -/
inductive UsageError where
  | unknownOption
  | repeatedOption
  | unexpectedValue
  | missingValue
  | invalidValue
  | missingOperand
  | unexpectedOperand
  | missingReference
  | conflictingReferences
  | missingCommand
  | unknownCommand
  deriving DecidableEq

/-- Whether the digits of a number go on as they should: a point may come once, not in front and
not after an exponent, and an exponent once, neither in front nor at the end. -/
def isNumberFrom (atStart pointAllowed exponentAllowed : Bool) : Text → Bool
  | [] => true
  | c :: t =>
    if c.isDigit then isNumberFrom false pointAllowed exponentAllowed t
    else if c = '.' then
      !atStart && pointAllowed && isNumberFrom false false exponentAllowed t
    else if c = 'e' then
      !atStart && exponentAllowed && !t.isEmpty && isNumberFrom false false false t
    else false

/-- Whether an argument looks like a negative number. -/
def looksNegative : Text → Bool
  | '-' :: t => isNumberFrom true true true t
  | _ => false

/-- Whether an argument can be the value of the option before it. -/
def canBeValue (negative : Bool) (argument : Text) : Bool :=
  match argument with
  | '-' :: _ :: _ => negative && looksNegative argument
  | _ => true

/-- The options and the operands that have been scanned, in order. -/
structure Scanned where
  options : List Given
  operands : List Text

namespace Scanned

def empty : Scanned := ⟨[], []⟩

/-- Adds an option, unless it was given before and may not be repeated. -/
def addOption (s : Scanned) (spec : OptionSpec) (value : Text) : Except UsageError Scanned :=
  if !spec.repeatable && s.options.any (fun given => given.name == spec.name) then
    .error .repeatedOption
  else .ok { s with options := s.options ++ [⟨spec.name, value⟩] }

/-- Adds an operand. -/
def addOperand (s : Scanned) (operand : Text) : Scanned :=
  { s with operands := s.operands ++ [operand] }

/-- The last value that an option was given. -/
def value? (s : Scanned) (name : Text) : Option Text :=
  ((s.options.filter fun given => given.name == name).getLast?).map Given.value

/-- All values that an option was given. -/
def values (s : Scanned) (name : Text) : List Text :=
  (s.options.filter fun given => given.name == name).map Given.value

/-- Whether an option was given. -/
def has (s : Scanned) (name : Text) : Bool := (s.value? name).isSome

end Scanned

/-- The options after a long option, and the option that still lacks its value, if it does. -/
def scanLong (specs : List OptionSpec) (s : Scanned) (body : Text) :
    Except UsageError (Scanned × Option OptionSpec) :=
  let (name, value) := match Text.splitOnce '=' body with
    | some (name, value) => (name, some value)
    | none => (body, none)
  match specs.find? fun spec => spec.name == name with
  | none => .error .unknownOption
  | some spec =>
    match spec.kind, value with
    | .flag, none => (s.addOption spec []).map fun s => (s, none)
    | .flag, some _ => .error .unexpectedValue
    | .answer, none => (s.addOption spec []).map fun s => (s, none)
    | .answer, some _ => .error .unexpectedValue
    | .value _, some value => (s.addOption spec value).map fun s => (s, none)
    | .value _, none => .ok (s, some spec)

/-- The options after letters that follow one hyphen, and the option that still lacks its
value, if it does. -/
def scanLetters (specs : List OptionSpec) (s : Scanned) :
    Text → Except UsageError (Scanned × Option OptionSpec)
  | [] => .ok (s, none)
  | c :: t =>
    match specs.find? fun spec => spec.letter == some c with
    | none => .error .unknownOption
    | some spec =>
      match spec.kind with
      | .flag => do scanLetters specs (← s.addOption spec []) t
      | .answer => (s.addOption spec []).map fun s => (s, none)
      | .value _ =>
        match t with
        | [] => .ok (s, some spec)
        | '=' :: value => (s.addOption spec value).map fun s => (s, none)
        | value => (s.addOption spec value).map fun s => (s, none)

/-- One argument where no value is awaited: `none` for `--`, and otherwise the options and
operands after it and the option that still lacks its value. -/
def scanOne (specs : List OptionSpec) (s : Scanned) (argument : Text) :
    Except UsageError (Option (Scanned × Option OptionSpec)) :=
  match argument with
  | ['-', '-'] => .ok none
  | '-' :: '-' :: body => (scanLong specs s body).map some
  | '-' :: c :: rest => (scanLetters specs s (c :: rest)).map some
  | operand => .ok (some (s.addOperand operand, none))

/-- Sorts arguments into options and operands. `awaiting` is the option whose value comes next. -/
def scan (specs : List OptionSpec) (s : Scanned) (awaiting : Option OptionSpec) :
    List Text → Except UsageError Scanned
  | [] => if awaiting.isSome then .error .missingValue else .ok s
  | argument :: rest =>
    match awaiting with
    | some spec =>
      if canBeValue (spec.kind == .value true) argument then do
        scan specs (← s.addOption spec argument) none rest
      else .error .missingValue
    | none => do
      match ← scanOne specs s argument with
      | none => .ok { s with operands := s.operands ++ rest }
      | some (s, awaiting) => scan specs s awaiting rest

end ChoiceTemplate.CommandLine

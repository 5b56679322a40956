import ChoiceTemplate.CommandLine.Arguments
import ChoiceTemplate.Number.Reader
import ChoiceTemplate.Options
import ChoiceTemplate.Reference

/-
  The commands of the program and how they are written.

  Before the command stand options that hold for all of them, which may also follow it; the ones
  that follow win. `Request.ofArguments` turns a command line into a request or a usage error.
-/
namespace ChoiceTemplate.CommandLine

-- Powers are the core library's, whatever else is imported.
attribute [local instance (high)] instPowNat

/-- When output is coloured. -/
inductive ColorChoice where
  | auto
  | always
  | never
  deriving DecidableEq

/-- Where values for placeholders come from: a file, and pairs that replace its values. -/
structure ValueSources where
  file : Option Text
  pairs : List (Text × Text)

/-- What the program is asked to do. -/
inductive Command where
  | choice (template : Text) (reference : Reference) (sources : ValueSources)
    (options : MatchOptions) (json : Bool)
  | format (template : Text) (sources : ValueSources)
  | parse (template : Text) (strict json : Bool)
  | check (files : List Text) (options : MatchOptions) (json : Bool)

/-- A request: the version of the program, or a command with a choice of colour. -/
inductive Request where
  | version
  | run (color : ColorChoice) (command : Command)

/-- An option with a value, which has no letter and is given at most once. -/
def single (name : String) : OptionSpec := ⟨name.toList, none, .value false, false⟩

/-- An option with a value that may be a negative number. -/
def numeric (name : String) : OptionSpec := ⟨name.toList, none, .value true, false⟩

/-- A flag without a letter. -/
def flag (name : String) : OptionSpec := ⟨name.toList, none, .flag, false⟩

/-- The options that hold for all commands. -/
def commonOptions : List OptionSpec :=
  [single "color", ⟨"verbose".toList, some 'v', .flag, false⟩]

/-- The options that may stand before the command. -/
def rootOptions : List OptionSpec :=
  ⟨"version".toList, some 'V', .answer, false⟩ :: commonOptions

/-- The options for values of placeholders. -/
def valueOptions : List OptionSpec :=
  [⟨"param".toList, some 'p', .value false, true⟩, single "values"]

/-- The options for matching. -/
def matchingOptions : List OptionSpec := [flag "fold-case", single "pattern-size-limit"]

/-- The value of an option as `read` reads it; `standard` if it was not given. -/
def optionValue {α : Type} (s : Scanned) (name : String) (standard : α)
    (read : Text → Option α) : Except UsageError α :=
  match s.value? name.toList with
  | none => .ok standard
  | some value =>
    match read value with
    | some result => .ok result
    | none => .error .invalidValue

/-- A choice of colour by its name. -/
def readColor? (t : Text) : Option ColorChoice :=
  if t = "auto".toList then some .auto
  else if t = "always".toList then some .always
  else if t = "never".toList then some .never
  else none

/-- A size limit: a decimal number of 64 bits without a minus sign. -/
def readLimit? (t : Text) : Option Nat :=
  if t.head? = some '-' then none else (readInteger? 0 (2 ^ (64 : Nat) - 1) t).map Int.toNat

/-- A truth value by its name. -/
def readBoolean? (t : Text) : Option Bool :=
  if t = "true".toList then some true else if t = "false".toList then some false else none

/-- A path, which is not empty. -/
def readPath? (t : Text) : Option Text := if t = [] then none else some t

/-- Pairs of a key and a value around the first `=` of each text. -/
def readPairs : List Text → Except UsageError (List (Text × Text))
  | [] => .ok []
  | t :: rest =>
    match Text.splitOnce '=' t with
    | none => .error .invalidValue
    | some pair => (readPairs rest).map (pair :: ·)

/-- The sources of values that were given. -/
def valueSources (s : Scanned) : Except UsageError ValueSources := do
  let file ← optionValue s "values" none fun t => (readPath? t).map some
  let pairs ← readPairs (s.values "param".toList)
  .ok ⟨file, pairs⟩

/-- The options for matching that were given. -/
def matchOptions (s : Scanned) : Except UsageError MatchOptions := do
  let limit ← optionValue s "pattern-size-limit" MatchOptions.defaultSizeLimit readLimit?
  .ok ⟨limit, s.has "fold-case".toList⟩

/-- The one operand of a command that takes one. -/
def onlyOperand (s : Scanned) : Except UsageError Text :=
  match s.operands with
  | [] => .error .missingOperand
  | [operand] => .ok operand
  | _ => .error .unexpectedOperand

/-- The readers of references, by the name of their option. -/
def referenceReaders : List (String × (Text → Option Reference)) :=
  [("bool", fun t => (readBoolean? t).map .boolean),
   ("text", fun t => some (.text t)),
   ("number", fun t => (Double.read? t).map .number),
   ("count", fun t => (readInteger? (-2 ^ (63 : Nat)) (2 ^ (63 : Nat) - 1) t).map .ofCount)]

/-- The one reference that must be given. -/
def givenReference (s : Scanned) : Except UsageError Reference :=
  match referenceReaders.filter fun (name, _) => s.has name.toList with
  | [] => .error .missingReference
  | [(name, read)] =>
    match (s.value? name.toList).bind read with
    | some reference => .ok reference
    | none => .error .invalidValue
  | _ => .error .conflictingReferences

/-- A kind of command: its own options and how it is made of what was given. -/
structure CommandSpec where
  name : Text
  options : List OptionSpec
  make : Scanned → Except UsageError Command

/-- All kinds of commands. -/
def commandSpecs : List CommandSpec :=
  [⟨"choice".toList,
    [single "bool", single "text", numeric "number", numeric "count", flag "json"] ++
      valueOptions ++ matchingOptions,
    fun s => do
      .ok (.choice (← onlyOperand s) (← givenReference s) (← valueSources s) (← matchOptions s)
        (s.has "json".toList))⟩,
   ⟨"format".toList, valueOptions, fun s => do
      .ok (.format (← onlyOperand s) (← valueSources s))⟩,
   ⟨"parse".toList, [flag "strict", flag "json"], fun s => do
      .ok (.parse (← onlyOperand s) (s.has "strict".toList) (s.has "json".toList))⟩,
   ⟨"check".toList, flag "json" :: matchingOptions, fun s => do
      if s.operands.isEmpty then .error .missingOperand
      else if s.operands.contains [] then .error .invalidValue
      else .ok (.check s.operands (← matchOptions s) (s.has "json".toList))⟩]

namespace Request

/-- The request of a command and the arguments after it, `color` having been asked for before
it. -/
def ofCommand (color : ColorChoice) (name : Text) (arguments : List Text) :
    Except UsageError Request :=
  match commandSpecs.find? fun spec => spec.name == name with
  | none => .error .unknownCommand
  | some spec => do
    let s ← scan (spec.options ++ commonOptions) .empty none arguments
    let color ← optionValue s "color" color readColor?
    .ok (.run color (← spec.make s))

/-- The request of a command line of which the options before the command have been scanned. The
version is given as soon as it is asked for. -/
def ofRest (s : Scanned) (awaiting : Option OptionSpec) : List Text → Except UsageError Request
  | [] => if awaiting.isSome then .error .missingValue else .error .missingCommand
  | argument :: rest =>
    match awaiting with
    | some spec =>
      if canBeValue false argument then do
        let s ← s.addOption spec argument
        let _ ← optionValue s "color" .auto readColor?
        ofRest s none rest
      else .error .missingValue
    | none => do
      match ← scanOne rootOptions s argument with
      | none => .error .unexpectedOperand
      | some (s, awaiting) =>
        let color ← optionValue s "color" .auto readColor?
        if s.has "version".toList then .ok .version
        else
          match s.operands with
          | [] => ofRest s awaiting rest
          | name :: _ => ofCommand color name rest

/-- The request of a command line. -/
def ofArguments (arguments : List Text) : Except UsageError Request :=
  ofRest .empty none arguments

end Request

/-- The files that a command reads. -/
def Command.files : Command → List Text
  | .choice _ _ sources _ _ => sources.file.toList
  | .format _ sources => sources.file.toList
  | .parse _ _ _ => []
  | .check files _ _ => files

/-- The files that a request reads. -/
def Request.files : Request → List Text
  | .version => []
  | .run _ command => command.files

end ChoiceTemplate.CommandLine

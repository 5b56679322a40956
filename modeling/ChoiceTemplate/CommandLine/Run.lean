import ChoiceTemplate.CommandLine.Check
import ChoiceTemplate.CommandLine.Command
import ChoiceTemplate.Json.Values
import ChoiceTemplate.Message
import ChoiceTemplate.Pattern.Basic
import ChoiceTemplate.Table

/-
  What the program answers to a command line.

  An answer is an exit code and what is written to the standard output and to the standard error.
  `run` decides it from the arguments and from the files, which it reads through a given function.
-/
namespace ChoiceTemplate.CommandLine

/-- An exit code and what is written. On the standard error the diagnostics come first, as they are
found; how they are drawn is left to the terminal. -/
structure Outcome where
  exitCode : Nat
  stdout : Text
  reports : List Diagnostic
  stderr : Text
  deriving DecidableEq

namespace ExitCode

def success : Nat := 0
def warnings : Nat := 1
def usage : Nat := 2
def badData : Nat := 65
def noInput : Nat := 66
def failure : Nat := 70

end ExitCode

/-- The name and the version of the program. -/
def versionText : Text := "istring 0.1.0".toList

/-- A line of output. -/
def line (t : Text) : Text := t ++ ['\n']

/-- An answer that succeeds. -/
def succeed (stdout : Text) : Outcome := ⟨ExitCode.success, line stdout, [], []⟩

/-- The values for placeholders, or why they cannot be had. The pairs replace values of the
file. -/
def loadValues (read : Text → Except ReadError Text) (sources : ValueSources) :
    Except Text Values := do
  let base ← match sources.file with
    | none => .ok Values.empty
    | some path =>
      match read path with
      | .error reason =>
        .error ("Cannot read values file ".toList ++ path ++ [':', ' '] ++ reason.message)
      | .ok content =>
        match Json.read? content with
        | none => .error ("Invalid JSON in values file ".toList ++ path)
        | some value => .ok value.toValues
  .ok (base.insertAll sources.pairs)

/-- The answer to `choice`. -/
def runChoice [PatternEngine] (template : Text) (reference : Reference) (values : Values)
    (options : MatchOptions) (json : Bool) : Outcome :=
  let result := (Message.ofText template options).formatChoice reference values
  if json then
    succeed (Json.pretty (.object
      [("reference".toList, .string reference.display), ("result".toList, .string result)]))
  else succeed result

/-- The answer to `format`. -/
def runFormat [PatternEngine] (template : Text) (values : Values) : Outcome :=
  succeed (format template values)

/-- Choices as JSON. -/
def choicesJson (c : Choices) : Json :=
  .object
    [("selectors".toList, .array (c.selectors.map .string)),
     ("texts".toList, .array (c.texts.map .string)),
     ("default_text".toList, .string c.defaultText),
     ("default_index".toList, (c.defaultIndex.map fun i => .integer i).getD .null)]

/-- The answer to `parse`. -/
def runParse (template : Text) (strict json : Bool) : Outcome :=
  let parsed := if strict then Choices.parseStrict template else .ok (Choices.parse template)
  match parsed with
  | .error error => ⟨ExitCode.badData, [], [], line ("Parse error: ".toList ++ error.message)⟩
  | .ok choices =>
    if json then succeed (choicesJson choices).pretty
    else succeed (Text.join ['\n'] (Table.ofChoices choices))

/-- A text in a colour of the terminal, if colours are wanted. -/
def coloured (color : ColorChoice) (code : Text) (t : Text) : Text :=
  if color = .always then
    '\x1b' :: '[' :: code ++ 'm' :: t ++ '\x1b' :: "[39m".toList
  else t

/-- The last line of a check. -/
def summary (color : ColorChoice) (count : Nat) : Text :=
  if count = 0 then coloured color ['3', '2'] "No warnings found".toList
  else coloured color ['3', '3'] (Text.ofNat count ++ " warning(s)".toList)

/-- The answer to `check`. Warnings that are not written as JSON are reported as they are found. -/
def runCheck [PatternEngine] (read : Text → Except ReadError Text) (color : ColorChoice)
    (files : List Text) (options : MatchOptions) (json : Bool) : Outcome :=
  let reports := if json then [] else fileReports read options files
  match fileWarnings read options files with
  | .error unreadable =>
    ⟨ExitCode.noInput, [], reports,
      line ("Cannot read ".toList ++ unreadable.file ++ [':', ' '] ++ unreadable.reason.message)⟩
  | .ok found =>
    let exitCode := if found.isEmpty then ExitCode.success else ExitCode.warnings
    let stdout :=
      if json then Json.pretty (.array (found.map FileWarning.toJson))
      else summary color found.length
    ⟨exitCode, line stdout, reports, []⟩

/-- Goes on with the values from given sources, or fails if they cannot be had. -/
def withValues (read : Text → Except ReadError Text) (sources : ValueSources)
    (go : Values → Outcome) : Outcome :=
  match loadValues read sources with
  | .error message => ⟨ExitCode.failure, [], [], line ("Error: ".toList ++ message)⟩
  | .ok values => go values

/-- The answer to a request. -/
def runRequest [PatternEngine] (read : Text → Except ReadError Text) : Request → Outcome
  | .version => succeed versionText
  | .run color command =>
    match command with
    | .choice template reference sources options json =>
      withValues read sources fun values => runChoice template reference values options json
    | .format template sources => withValues read sources fun values => runFormat template values
    | .parse template strict json => runParse template strict json
    | .check files options json => runCheck read color files options json

/-- The answer to a command line. -/
def run [PatternEngine] (read : Text → Except ReadError Text) (arguments : List Text) : Outcome :=
  match Request.ofArguments arguments with
  | .error _ => ⟨ExitCode.usage, [], [], line "error: invalid arguments".toList⟩
  | .ok request => runRequest read request

end ChoiceTemplate.CommandLine

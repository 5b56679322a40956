import ChoiceTemplate.CommandLine.Directory
import ChoiceTemplate.Diagnostic
import ChoiceTemplate.Json.Printer
import ChoiceTemplate.Lint
import ChoiceTemplate.Text.Lines

/-
  Checking files that hold one template on each line.

  Every line that is not blank is linted. Lines are numbered from one, and blank lines count. A
  file that cannot be read ends the check: the warnings found before it are given up, but they have
  been reported by then, each with a diagnostic that points at its line (`fileReports`).
-/
namespace ChoiceTemplate.CommandLine

/-- A warning and where it was found. -/
structure FileWarning where
  file : Text
  line : Nat
  warning : Warning
  deriving DecidableEq

section
variable [PatternEngine]

/-- The warnings about lines that are numbered from `number`. -/
def lineWarnings (options : MatchOptions) (file : Text) (number : Nat) :
    List Text → List FileWarning
  | [] => []
  | line :: rest =>
    (if Text.isBlank line then [] else (lint line options).map fun warning =>
      ⟨file, number, warning⟩) ++ lineWarnings options file (number + 1) rest

/-- The warnings about the content of a file. -/
def contentWarnings (options : MatchOptions) (file content : Text) : List FileWarning :=
  lineWarnings options file 1 (Text.lines content)

/-- A file that could not be read, and why. -/
structure Unreadable where
  file : Text
  reason : ReadError

/-- The warnings about several files, unless one of them cannot be read. -/
def fileWarnings (read : Text → Except ReadError Text) (options : MatchOptions) :
    List Text → Except Unreadable (List FileWarning)
  | [] => .ok []
  | file :: rest =>
    match read file with
    | .error reason => .error ⟨file, reason⟩
    | .ok content =>
      (fileWarnings read options rest).map (contentWarnings options file content ++ ·)

/-- The diagnostic of a warning in a file with a given content. -/
def FileWarning.toDiagnostic (content : Text) (w : FileWarning) : Diagnostic :=
  .forLine w.file content (w.line - 1) w.warning

/-- The diagnostics of the warnings about a content. -/
def contentReports (options : MatchOptions) (file content : Text) : List Diagnostic :=
  (contentWarnings options file content).map (FileWarning.toDiagnostic content)

/-- What is reported about several files, up to one that cannot be read. -/
def fileReports (read : Text → Except ReadError Text) (options : MatchOptions) :
    List Text → List Diagnostic
  | [] => []
  | file :: rest =>
    match read file with
    | .error _ => []
    | .ok content => contentReports options file content ++ fileReports read options rest

end

/-- The name of the kind of a warning. -/
def kindName : Warning → Text
  | .missingSeparator _ _ => "missing_separator".toList
  | .shadowedDefault _ _ => "shadowed_default".toList
  | .invalidPattern _ _ _ => "invalid_pattern".toList
  | .uppercasePattern _ _ => "uppercase_pattern".toList
  | .unparsableBound _ _ => "unparsable_bound".toList
  | .nearKeyword _ _ _ => "near_boolean_keyword".toList

/-- What a warning says beside its kind and its index. -/
def detailMembers : Warning → List (Text × Json)
  | .missingSeparator _ entry => [("entry".toList, .string entry)]
  | .shadowedDefault _ previous => [("previous".toList, .integer previous)]
  | .invalidPattern _ selector message =>
    [("selector".toList, .string selector), ("message".toList, .string message)]
  | .uppercasePattern _ selector => [("selector".toList, .string selector)]
  | .unparsableBound _ selector => [("selector".toList, .string selector)]
  | .nearKeyword _ selector suggestion =>
    [("selector".toList, .string selector), ("suggestion".toList, .string suggestion)]

/-- A warning as members of a JSON object. -/
def warningMembers (w : Warning) : List (Text × Json) :=
  ("kind".toList, .string (kindName w)) :: ("index".toList, .integer w.index) :: detailMembers w

/-- A warning in a file as JSON. -/
def FileWarning.toJson (w : FileWarning) : Json :=
  .object (("file".toList, .string w.file) :: ("line".toList, .integer w.line) ::
    warningMembers w.warning)

end ChoiceTemplate.CommandLine

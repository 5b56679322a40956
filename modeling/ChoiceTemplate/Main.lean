import ChoiceTemplate.CommandLine.Run

/-
  The program: it reads the files that its arguments ask for, and then writes the answer.
-/
namespace ChoiceTemplate.CommandLine

/-- The content of a file of the system, or why it cannot be read. -/
def readFile (path : Text) : IO (Except ReadError Text) := do
  try
    let content ← IO.FS.readBinFile (String.ofList path)
    return match String.fromUTF8? content with
      | some text => .ok text.toList
      | none => .error .invalidText
  catch error =>
    return .error (match error with
      | .noFileOrDirectory _ _ _ => .notFound
      | .inappropriateType _ _ _ => .isDirectory
      | .resourceVanished _ _ => .notDirectory
      | error => .other (toString error).toList)

/-- The files that a command line asks for, with their contents. -/
def readFiles (arguments : List Text) : IO (List (Text × Except ReadError Text)) :=
  match Request.ofArguments arguments with
  | .error _ => return []
  | .ok request => request.files.mapM fun path => return (path, ← readFile path)

/-- Answers a command line. -/
def answer (arguments : List Text) : IO UInt32 := do
  let files ← readFiles arguments
  let read (path : Text) : Except ReadError Text :=
    ((files.find? fun file => file.1 == path).map Prod.snd).getD (.error .notFound)
  let outcome := run read arguments
  for report in outcome.reports do
    (← IO.getStderr).putStr (String.ofList (line report.summary))
  (← IO.getStdout).putStr (String.ofList outcome.stdout)
  (← IO.getStderr).putStr (String.ofList outcome.stderr)
  return outcome.exitCode.toUInt32

end ChoiceTemplate.CommandLine

/-- Answers the command line of the program. -/
def main (arguments : List String) : IO UInt32 :=
  ChoiceTemplate.CommandLine.answer (arguments.map String.toList)

import ChoiceTemplate.Text.Split

/-
  Reading files by their paths.

  A directory is a list of files with their paths relative to it. Paths are followed part by
  part; `.` and `..` and repeated slashes are understood. What cannot be read has one of the
  reasons that an operating system gives.
-/
namespace ChoiceTemplate.CommandLine

/-- Why a file cannot be read. -/
inductive ReadError where
  | notFound
  | isDirectory
  | notDirectory
  | invalidText
  | other (reason : Text)
  deriving DecidableEq

/-- The wording of a reason. -/
def ReadError.message : ReadError → Text
  | .notFound => "No such file or directory (os error 2)".toList
  | .isDirectory => "Is a directory (os error 21)".toList
  | .notDirectory => "Not a directory (os error 20)".toList
  | .invalidText => "stream did not contain valid UTF-8".toList
  | .other reason => reason

/-- The files of a directory: the parts of each path, and the content. -/
structure Directory where
  files : List (List Text × Text)

namespace Directory

/-- The parts of a path. -/
def parts (path : Text) : List Text := (Text.pieces ['/'] path).filter (· ≠ [])

/-- The directory with the given files by path. -/
def ofList (files : List (Text × Text)) : Directory :=
  ⟨files.map fun (path, content) => (parts path, content)⟩

/-- The content of the file at a place in the directory. -/
def fileAt? (d : Directory) (place : List Text) : Option Text :=
  (d.files.find? fun file => file.1 == place).map Prod.snd

/-- Whether there is a directory at a place. -/
def isDirectoryAt (d : Directory) (place : List Text) : Bool :=
  place.isEmpty || d.files.any fun file => place.isPrefixOf file.1 && file.1 != place

/-- Follows the parts of a path from a place, which is known to be a directory. -/
def follow (d : Directory) (place : List Text) : List Text → Except ReadError (List Text)
  | [] => .ok place
  | part :: rest =>
    if (d.fileAt? place).isSome then .error .notDirectory
    else if !d.isDirectoryAt place then .error .notFound
    else if part = ['.'] then follow d place rest
    else if part = ['.', '.'] then
      if place.isEmpty then .error (if rest.isEmpty then .isDirectory else .notFound)
      else follow d place.dropLast rest
    else follow d (place ++ [part]) rest

/-- The content of the file with a path. -/
def read (d : Directory) (path : Text) : Except ReadError Text :=
  if path.head? = some '/' then
    .error (if (parts path).isEmpty then .isDirectory else .notFound)
  else
    match d.follow [] (parts path) with
    | .error error => .error error
    | .ok place =>
      match d.fileAt? place with
      | some content => if path.getLast? = some '/' then .error .notDirectory else .ok content
      | none => .error (if d.isDirectoryAt place then .isDirectory else .notFound)

end Directory

end ChoiceTemplate.CommandLine

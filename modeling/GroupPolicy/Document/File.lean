import GroupPolicy.Text.Split

namespace GroupPolicy

/-- Why a file cannot be read. -/
inductive FileFault where
  /-- There is no such file. -/
  | missing
  /-- The path is that of a directory. -/
  | directory
  /-- A part of the path that should be a directory is a file. -/
  | throughFile
  /-- The path or a part of it is longer than any may be. -/
  | longName
  /-- The path holds the zero character. -/
  | brokenPath
  /-- The file holds something other than text. -/
  | notText
  /-- Any other reason, in words. -/
  | other (reason : String)
  deriving DecidableEq, Repr

/-- The wording of a fault. -/
def FileFault.message : FileFault → String
  | .missing => "No such file or directory (os error 2)"
  | .directory => "Is a directory (os error 21)"
  | .throughFile => "Not a directory (os error 20)"
  | .longName => "File name too long (os error 36)"
  | .brokenPath => "file name contained an unexpected NUL byte"
  | .notText => "stream did not contain valid UTF-8"
  | .other reason => reason

/-- The texts of files by path. -/
abbrev Files : Type := String → Except FileFault String

/-- The last part of a path. -/
def fileName (path : List Char) : List Char :=
  match Text.splitLast '/' path with
  | some (_, name) => name
  | none => path

/-- The part of a path after its last point, which must not be the first character of the name. -/
def fileExtension? (path : List Char) : Option (List Char) :=
  match Text.splitLast '.' (fileName path) with
  | some ([], _) => none
  | some (_, extension) => some extension
  | none => none

end GroupPolicy

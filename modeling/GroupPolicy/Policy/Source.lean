import GroupPolicy.Document.File
import GroupPolicy.Document.Yaml.Reader
import GroupPolicy.Policy.Document

namespace GroupPolicy

/-- The notation of a text. -/
inductive Format where
  | json
  | yaml
  deriving DecidableEq, Repr, Inhabited

namespace Format

/-- The name of a notation. -/
def text : Format → String
  | .json => "json"
  | .yaml => "yaml"

/-- The notation of a file, by its name; letter case is ignored. -/
def ofPath (path : String) : Format :=
  match fileExtension? path.toList with
  | some extension => if extension.map Char.toLower = ['j', 's', 'o', 'n'] then .json else .yaml
  | none => .yaml

/-- Decodes a text. -/
def decode {α : Type} [Coded α] : Format → String → Except DecodeError α
  | .json, s => Json.decode s
  | .yaml, s => Yaml.decode s

end Format

/-- Why there is no snapshot. -/
inductive SnapshotError where
  /-- The file cannot be read. -/
  | unread (path : String) (cause : FileFault)
  /-- The text does not describe a snapshot. -/
  | unparsed (format : Format) (cause : DecodeError)
  deriving DecidableEq, Repr

namespace SnapshotError

/-- The wording for a text that describes no snapshot. -/
def unparsedText (format reason : String) : String :=
  s!"Failed to parse {format} policy snapshot: {reason}"

/-- The wording of an error. -/
def message : SnapshotError → String
  | .unread path cause => "Failed to read policy snapshot " ++ path ++ ": " ++ cause.message
  | .unparsed format cause => unparsedText format.text cause.message

end SnapshotError

namespace Snapshot

/-- The snapshot that a text describes. -/
def parse (format : Format) (s : String) : Except SnapshotError Snapshot :=
  (format.decode s).mapError (.unparsed format)

/-- The snapshot in a file. -/
def load (files : Files) (path : String) : Except SnapshotError Snapshot :=
  match files path with
  | .ok s => parse (.ofPath path) s
  | .error cause => .error (.unread path cause)

end Snapshot

end GroupPolicy

import GroupPolicy.Command.Run

namespace GroupPolicy.Command

/-- Why the system did not read a file. -/
def faultOf : IO.Error → FileFault
  | .noFileOrDirectory .. => .missing
  | .inappropriateType _ code _ => if code = 20 then .throughFile else .directory
  | .invalidArgument _ 36 _ => .longName
  | e => .other (toString e)

/-- The text of a file. -/
def readText (path : String) : IO (Except FileFault String) := do
  try
    let bytes ← IO.FS.readBinFile path
    match String.fromUTF8? bytes with
    | some s => return .ok s
    | none => return .error .notText
  catch e => return .error (faultOf e)

/-- The files that a command line names. -/
def namedFiles (args : List String) : List String :=
  match parse args with
  | .render request => request.snapshot :: request.settings.toList
  | _ => []

end GroupPolicy.Command

open GroupPolicy GroupPolicy.Command in
/-- Runs the program. -/
def main (args : List String) : IO UInt32 := do
  let texts ← (namedFiles args).mapM fun path => do return (path, ← readText path)
  let files : Files := fun path => (texts.lookup path).getD (.error .missing)
  let outcome := run files args
  let err ← IO.getStderr
  for notice in outcome.notices do
    err.putStrLn notice.line
  if let some failure := outcome.failure then
    err.putStrLn ("ERROR " ++ failure)
  IO.print outcome.stdout
  return outcome.exitCode.toUInt32

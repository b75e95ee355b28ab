import GroupPolicy.Render.Location

namespace GroupPolicy

/-- An operation that a device did not carry out. -/
structure WriteError where
  node : String
  /-- The name of the operation. -/
  operation : String
  /-- What the device says about it. -/
  reason : String
  deriving DecidableEq, Repr

/-- The wording of the complaint. -/
def WriteError.message (e : WriteError) : String :=
  let node := e.node
  let operation := e.operation
  let reason := e.reason
  s!"Device operation {operation} failed on {node}: {reason}"

/-- Why something was not rendered. -/
inductive RenderError where
  /-- An endpoint has no location or no address, or is not known. -/
  | resolve (cause : ResolveError)
  /-- A device did not take what was written. -/
  | write (cause : WriteError)
  /-- A setting has a value of no use. -/
  | invalidSetting (field reason : String)
  /-- The settings cannot be read. -/
  | unreadSettings (path reason : String)
  deriving DecidableEq, Repr

namespace RenderError

/-- The wording of a complaint. -/
def message : RenderError → String
  | .resolve cause => cause.message
  | .write cause => cause.message
  | .invalidSetting field reason => s!"Invalid configuration for {field}: {reason}"
  | .unreadSettings path reason => s!"Failed to load configuration {path}: {reason}"

/-- Whether trying again may succeed: endpoints and locations can still become known, and devices
can come back. -/
def isRetryable : RenderError → Bool
  | .write _ => true
  | .resolve (.noLocation _) => true
  | .resolve (.unknownEndpoint _) => true
  | _ => false

end RenderError

end GroupPolicy

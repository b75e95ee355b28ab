import GroupPolicy.Command.Arguments
import GroupPolicy.Command.LogFilter
import GroupPolicy.Document.Json.Printer
import GroupPolicy.Document.KeyOrder
import GroupPolicy.Policy.Source
import GroupPolicy.Render.Renderer
import GroupPolicy.Text.Terminal

namespace GroupPolicy.Command

/-- Why a run comes to nothing. -/
inductive Failure where
  /-- The settings cannot be read. -/
  | settings (path : String) (cause : RenderError)
  /-- The settings make no sense. -/
  | validation (cause : RenderError)
  /-- The snapshot cannot be read. -/
  | snapshot (path : String) (cause : SnapshotError)
  /-- No endpoint to render has the address that was asked for. -/
  | noEndpoint (address : String)
  deriving DecidableEq, Repr

/-- The wording of a failure, with its cause behind what was being done. -/
def Failure.message : Failure → String
  | .settings path cause => "loading config " ++ path ++ ": " ++ cause.message
  | .validation cause => "validating config: " ++ cause.message
  | .snapshot path cause => "loading snapshot " ++ path ++ ": " ++ cause.message
  | .noEndpoint address => "no renderer endpoint with address " ++ address

/-- The wording of a failure as a terminal may show it. -/
def Failure.report (f : Failure) : String := String.ofList (Text.inert f.message.toList)

/-- The settings of a run, from their file if there is one. -/
def loadSettings (files : Files) (path : Option String) : Except Failure Settings := do
  let settings ←
    match path with
    | some path => (Settings.load files path).mapError (Failure.settings path)
    | none => .ok {}
  match settings.fault? with
  | some cause => .error (.validation cause)
  | none => return settings

/-- The endpoints to render: all, or those of an address. -/
def selected (c : Context) (address : Option String) : List EndpointKey :=
  c.rendererEndpoints.filter fun k => address.all (· == k.address)

/-- What is rendered for a context: the devices at the end, and all notices. -/
def rendered (settings : Settings) (c : Context) (address : Option String) :
    Logged (Except Failure Device) :=
  match selected c address, address with
  | [], some address => ⟨.error (.noEndpoint address), []⟩
  | keys, _ =>
    let (r, _) := ({ settings := settings } : Renderer).regroup c
    let done := r.updateAll c keys
    let first := if keys.isEmpty then [Notice.nothingToRender] else []
    ⟨.ok done.renderer.device, first ++ done.outcome.notices⟩

/-- What devices hold, as it stands in documents. -/
def output (s : Device) : Value :=
  (Value.object [("acls", .list s.aclValues), ("bindings", .list s.bindingValues)]).keyOrdered

/-- Does what is asked for: the devices at the end, and all notices on the way there. Rows of the
snapshot are skipped before anything is rendered, so they are reported even if nothing is. -/
def render (files : Files) (request : Request) : Logged (Except Failure Device) :=
  match loadSettings files request.settings with
  | .error failure => ⟨.error failure, []⟩
  | .ok settings =>
    match Snapshot.load files request.snapshot with
    | .error cause => ⟨.error (.snapshot request.snapshot cause), []⟩
    | .ok snapshot =>
      let done := rendered settings snapshot.context request.endpoint
      { done with notices := snapshot.skipped.map .skippedPolicy ++ done.notices }

/-- How the result of a run is laid out. -/
def Request.layout (request : Request) : Json.Layout := if request.pretty then .pretty else .compact

/-- What a run leaves behind. -/
structure Outcome where
  exitCode : UInt8
  /-- The text on the standard output. -/
  stdout : String := ""
  /-- The failure as it is reported, if it is. -/
  failure : Option String := none
  /-- The notices as far as they are shown. -/
  notices : List Notice := []
  deriving DecidableEq, Repr

/-- The text of a version. -/
def versionText : String := "aclrenderd 0.1.0\n"

/-- A run with the words of its command line. A filter that cannot be cut up ends it before anything
is read. -/
def run (files : Files) (args : List String) : Outcome :=
  match parse args with
  | .version => { exitCode := 0, stdout := versionText }
  | .help => { exitCode := 0 }
  | .misuse => { exitCode := 2 }
  | .render request =>
    match directives? request.logLevel with
    | none => { exitCode := 101 }
    | some directives =>
      let done := render files request
      let notices := shown directives done.notices
      match done.value with
      | .ok device =>
        { exitCode := 0, stdout := Json.print request.layout (output device) ++ "\n", notices }
      | .error failure =>
        { exitCode := 1
          failure := if shows directives ownTarget .error then some failure.report else none
          notices }

end GroupPolicy.Command

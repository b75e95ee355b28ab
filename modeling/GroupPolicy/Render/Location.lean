import GroupPolicy.Policy.Endpoint
import GroupPolicy.Text.Blank
import GroupPolicy.Text.Split

namespace GroupPolicy

/-- An interface of a node. -/
structure Location where
  node : String
  interface : String
  deriving DecidableEq, Repr, Inhabited

namespace Location

/-- Locations are ordered by node and then by interface. -/
instance : Ord Location := ⟨compareLex (compareOn node) (compareOn interface)⟩

instance : Std.TransOrd Location :=
  inferInstanceAs (Std.TransCmp (compareLex (compareOn node) (compareOn interface)))

instance : Std.LawfulEqOrd Location where
  compare_self := Std.ReflOrd.compare_self
  eq_of_compare {a b} h := by
    simp only [compare, compareLex_eq_eq] at h
    obtain ⟨hnode, hinterface⟩ := h
    cases a
    cases b
    simp only [mk.injEq]
    exact ⟨Std.LawfulEqOrd.eq_of_compare hnode, Std.LawfulEqOrd.eq_of_compare hinterface⟩

/-- The text of a location. -/
def text (l : Location) : String := l.node ++ "/" ++ l.interface

end Location

/-- Why an endpoint has no address or no location. -/
inductive ResolveError where
  /-- Neither the endpoint nor any endpoint above it has a routed address. -/
  | noRoutableAddress (key : EndpointKey)
  /-- The endpoint is attached nowhere. -/
  | noLocation (key : EndpointKey)
  /-- No endpoint of the key is known. -/
  | unknownEndpoint (key : EndpointKey)
  deriving DecidableEq, Repr

/-- The wording of a refusal. -/
def ResolveError.message : ResolveError → String
  | .noRoutableAddress key =>
    let endpoint := key.text
    s!"Endpoint {endpoint} has no routable L3 address"
  | .noLocation key =>
    let endpoint := key.text
    s!"Endpoint {endpoint} has no location"
  | .unknownEndpoint key =>
    let endpoint := key.text
    s!"Endpoint {endpoint} not found in policy context"

/-- The characters that may stand around a value in a path. -/
def isQuote (c : Char) : Bool := c == '\'' || c == '"'

/-- The name that a path leads to: the value in its last brackets, or the whole path if it has
none. Blanks and quotes around the name do not belong to it. -/
def leafChars (path : List Char) : List Char :=
  let path := Text.trim path
  match Text.splitLast '[' path with
  | none => path
  | some (_, bracketed) =>
    let selector := Text.dropEndWhile (· == ']') bracketed
    match Text.splitFirst '=' selector with
    | some (_, value) => Text.trimBoth isQuote (Text.trim value)
    | none => Text.trim selector

/-- The name that a path leads to. -/
def leafKey (path : String) : String := String.ofList (leafChars path.toList)

/-- The location that the paths of an attachment lead to, if both lead to a name. -/
def AttachmentPaths.location? (paths : AttachmentPaths) : Option Location := do
  let node := leafKey (← paths.mountPoint)
  let interface := leafKey (← paths.nodeConnector)
  if node = "" ∨ interface = "" then none else some { node, interface }

namespace Endpoint

/-- The routed address of an endpoint: its own, or that of the first endpoint above it that has
one. -/
def routedAddress (e : Endpoint) : Except ResolveError String :=
  if e.key.contextType.isL3 then .ok e.key.address
  else
    match e.parents.find? fun k => k.contextType.isL3 with
    | some parent => .ok parent.address
    | none => .error (.noRoutableAddress e.key)

/-- The location of an endpoint, if it is attached somewhere. -/
def location? (e : Endpoint) : Option Location := e.location.bind AttachmentPaths.location?

/-- The location of an endpoint. -/
def resolveLocation (e : Endpoint) : Except ResolveError Location :=
  match e.location? with
  | some l => .ok l
  | none => .error (.noLocation e.key)

end Endpoint

end GroupPolicy

import GroupPolicy.Policy.Context
import GroupPolicy.Render.Location

namespace GroupPolicy

/-- Endpoints by their location. Those that are attached nowhere are in no group. -/
def groupByLocation (es : List Endpoint) : SortedMap Location (SortedSet EndpointKey) :=
  es.foldl (fun groups e =>
    match e.location? with
    | some l => groups.insert l ((groups.getD l ∅).add e.key)
    | none => groups) ∅

/-- The endpoints of each interface and the interface of each endpoint, at a version of the
policy. -/
structure Grouping where
  /-- The version; a grouping that was never made has none. -/
  version : Option UInt64 := none
  /-- The endpoints of each interface. -/
  groups : SortedMap Location (SortedSet EndpointKey) := ∅
  /-- The interface of each endpoint. -/
  locations : SortedMap EndpointKey Location := ∅
  deriving DecidableEq, Inhabited

namespace Grouping

/-- The grouping of the endpoints of a context. -/
def ofContext (c : Context) : Grouping :=
  let groups := groupByLocation c.endpoints.values
  { version := some c.version
    groups
    locations := .ofList (groups.toList.flatMap fun (l, keys) => keys.members.map fun k => (k, l)) }

/-- The endpoints of an interface. -/
def endpointsOn? (g : Grouping) (l : Location) : Option (SortedSet EndpointKey) := g.groups.get? l

/-- The interfaces that an endpoint is attached to; there is at most one. -/
def interfacesOf (g : Grouping) (k : EndpointKey) : List Location := (g.locations.get? k).toList

/-- The endpoints that share the interface of an endpoint, itself among them; none if it has the
interface for itself. -/
def sharers (g : Grouping) (k : EndpointKey) : List EndpointKey :=
  match (g.locations.get? k).bind g.endpointsOn? with
  | some group => if 1 < group.card then group.members else []
  | none => []

/-- The number of interfaces. -/
def size (g : Grouping) : Nat := g.groups.size

/-- Whether there is no interface. -/
def isEmpty (g : Grouping) : Bool := g.groups.isEmpty

end Grouping

/-- The grouping in use, and the one that a request for a context gets. -/
structure Regrouping where
  /-- The grouping in use from now on. -/
  published : Grouping
  /-- The grouping of the context. -/
  current : Grouping

/-- Asks for the grouping of a context. A published grouping of the same version is handed out as
it is; otherwise a new one is made, and published unless a later version is in use. -/
def Grouping.refresh (published : Grouping) (c : Context) : Regrouping :=
  if published.version = some c.version then ⟨published, published⟩
  else
    let made := ofContext c
    match published.version with
    | some v => if c.version < v then ⟨published, made⟩ else ⟨made, made⟩
    | none => ⟨made, made⟩

end GroupPolicy

import GroupPolicy.Render.Plan

namespace GroupPolicy

/-- A renderer with the devices it writes to. -/
structure Renderer where
  settings : Settings := {}
  device : Device := {}
  /-- The grouping that is in use. -/
  grouping : Grouping := {}
  deriving DecidableEq, Inhabited

/-- The lists of an endpoint and where they belong. -/
structure EndpointAcls where
  location : Location
  ingress : Acl
  egress : Acl
  deriving DecidableEq, Repr

/-- Both lists, in the order in which they are written. -/
def EndpointAcls.acls (a : EndpointAcls) : List Acl := [a.ingress, a.egress]

/-- A renderer after an operation, with what the operation came to. -/
structure Step (α : Type) where
  renderer : Renderer
  outcome : Logged α

namespace Device

/-- Writes a list and binds it to its interface; nothing is bound that was not written. -/
def install (s : Device) (location : Location) (l : Acl) :
    Device × Logged (Except WriteError Unit) :=
  let written := s.writeAcl location.node l
  match written.result with
  | .error e => (written.device, ⟨.error e, [.notWritten l.name e]⟩)
  | .ok () =>
    let bound := written.device.bindAcl location l
    match bound.result with
    | .error e => (bound.device, ⟨.error e, [.notBound l.name location e]⟩)
    | .ok () => (bound.device, ⟨.ok (), []⟩)

/-- Installs lists in turn, up to the first that fails. -/
def installAll (s : Device) (location : Location) :
    List Acl → Device × Logged (Except WriteError Unit)
  | [] => (s, ⟨.ok (), []⟩)
  | l :: r =>
    match s.install location l with
    | (s, ⟨.error e, notices⟩) => (s, ⟨.error e, notices⟩)
    | (s, ⟨.ok (), notices⟩) =>
      let (s, rest) := s.installAll location r
      (s, ⟨rest.value, notices ++ rest.notices⟩)

/-- Writes the planned entries of a list, or takes them out of it. -/
def syncTarget (s : Device) (mode : SyncMode) (target : AclTarget) (es : List AclEntry) : Attempt :=
  match mode with
  | .write => s.writeEntries target.node target.name es
  | .remove => s.removeEntries target.node target.name (es.map AclEntry.name)

/-- Goes through the planned lists of a node, up to the first that fails. -/
def syncNode (s : Device) (mode : SyncMode) :
    List (AclTarget × List AclEntry) → Device × Logged (Except WriteError Unit)
  | [] => (s, ⟨.ok (), []⟩)
  | (target, es) :: r =>
    let done := s.syncTarget mode target es
    match done.result with
    | .error e => (done.device, ⟨.error e, [.notSynced mode target.name target.node e]⟩)
    | .ok () => done.device.syncNode mode r

/-- Goes through nodes in turn; the first failure is the one that counts, but it does not keep the
other nodes from being served. -/
def syncNodes (s : Device) (mode : SyncMode) :
    List (List (AclTarget × List AclEntry)) → Device × Logged (Except WriteError Unit)
  | [] => (s, ⟨.ok (), []⟩)
  | node :: r =>
    let (s, first) := s.syncNode mode node
    let (s, rest) := s.syncNodes mode r
    (s, ⟨first.value.bind fun () => rest.value, first.notices ++ rest.notices⟩)

end Device

/-- The planned lists that have entries, node by node. -/
def Plan.byNode (p : Plan) : List (List (AclTarget × List AclEntry)) :=
  (p.toList.filter fun piece => !piece.2.isEmpty).splitBy fun a b => a.1.node == b.1.node

namespace Renderer

/-- The renderer with the grouping of a context in use, unless that of a later one is; and the
grouping of the context. -/
def regroup (r : Renderer) (c : Context) : Renderer × Grouping :=
  let refreshed := r.grouping.refresh c
  ({ r with grouping := refreshed.published }, refreshed.current)

/-- The lists of an endpoint. -/
def resolveAcls (r : Renderer) (c : Context) (k : EndpointKey) :
    Step (Except ResolveError EndpointAcls) :=
  match c.endpoint? k with
  | none => ⟨r, ⟨.error (.unknownEndpoint k), []⟩⟩
  | some e =>
    match e.resolveLocation with
    | .error cause => ⟨r, ⟨.error cause, []⟩⟩
    | .ok location =>
      let (r, g) := r.regroup c
      let ingress := c.listEntries g r.settings.acl e .ingress
      let egress := c.listEntries g r.settings.acl e .egress
      let acls : EndpointAcls :=
        { location
          ingress := .ofInterface location.interface .ingress ingress.value
          egress := .ofInterface location.interface .egress egress.value }
      ⟨r, ⟨.ok acls, ingress.notices ++ egress.notices⟩⟩

/-- Writes the lists of an endpoint to its interface, unless that is left alone. -/
def update (r : Renderer) (c : Context) (k : EndpointKey) : Step (Except RenderError Unit) :=
  let ⟨r, resolved⟩ := r.resolveAcls c k
  match resolved.value with
  | .error cause => ⟨r, ⟨.error (.resolve cause), resolved.notices ++ [.notRendered cause]⟩⟩
  | .ok acls =>
    if r.settings.excludes acls.location then ⟨r, ⟨.ok (), resolved.notices⟩⟩
    else
      let (device, installed) := r.device.installAll acls.location acls.acls
      ⟨{ r with device },
        ⟨installed.value.mapError .write, resolved.notices ++ installed.notices⟩⟩

/-- Updates endpoints in turn, whether or not earlier ones fail, and collects the failures. -/
def updateAll (r : Renderer) (c : Context) :
    List EndpointKey → Step (List (EndpointKey × RenderError))
  | [] => ⟨r, ⟨[], []⟩⟩
  | k :: rest =>
    let ⟨r, first⟩ := r.update c k
    let ⟨r, others⟩ := r.updateAll c rest
    let failures :=
      match first.value with
      | .ok () => others.value
      | .error cause => (k, cause) :: others.value
    ⟨r, ⟨failures, first.notices ++ others.notices⟩⟩

/-- Updates the peers of an endpoint. -/
def updatePeers (r : Renderer) (c : Context) (k : EndpointKey) :
    Step (List (EndpointKey × RenderError)) :=
  let ⟨r, failures⟩ := r.updateAll c ((c.table.peers k).map (·.1))
  ⟨r, { failures with
    notices := failures.notices ++ failures.value.map fun (k, cause) => .peerNotUpdated k cause }⟩

/-- The plan for a change. -/
def plan (r : Renderer) (c : Context) (ch : Change) : Step Plan :=
  let (r, g) := r.regroup c
  ⟨r, ch.plan c g r.settings⟩

/-- Carries out a plan. -/
def sync (r : Renderer) (mode : SyncMode) (p : Plan) : Step (Except RenderError Unit) :=
  let (device, done) := r.device.syncNodes mode p.byNode
  ⟨{ r with device }, ⟨done.value.mapError .write, done.notices⟩⟩

end Renderer

end GroupPolicy

import GroupPolicy.Render.Grouping
import GroupPolicy.Render.PolicyEntries

namespace GroupPolicy

/-- Which entries are rendered besides those of policies. -/
structure AclSettings where
  /-- Whether the traffic of tenants' subnets is denied by default. -/
  denyTenantSubnets : Bool := true
  /-- Whether the traffic of an endpoint outside is permitted. -/
  allowExternal : Bool := true
  deriving DecidableEq, Repr, Inhabited

namespace Context

/-- The peer of a key, if it is known and attached somewhere. -/
def locatedPeer (c : Context) (k : EndpointKey) : Logged (Option Endpoint) :=
  match c.endpoint? k with
  | none => ⟨none, [.missingPeer k]⟩
  | some peer =>
    match peer.resolveLocation with
    | .ok _ => ⟨some peer, []⟩
    | .error cause => ⟨none, [.unlocatedPeer cause]⟩

/-- The entries of an endpoint's policies that are selected, by peer and by precedence. Policies
towards a peer that is attached nowhere make no entries. -/
def selectedEntries (c : Context) (selected : AppliedPolicy → Bool) (owner : Endpoint)
    (d : AclDirection) : Logged (List AclEntry) :=
  .gather (fun (peerKey, policies) =>
    let found := c.locatedPeer peerKey
    match found.value with
    | none => ⟨[], found.notices⟩
    | some peer => .gather (fun policy => policy.rendered owner peer d) (policies.filter selected))
    (c.table.peers owner.key)

/-- The entries of all policies of an endpoint. -/
def pairwiseEntries (c : Context) (owner : Endpoint) (d : AclDirection) :
    Logged (List AclEntry) :=
  c.selectedEntries (fun _ => true) owner d

/-- The entries of an endpoint that is on an interface beside another one. -/
def sharedEntries (c : Context) (d : AclDirection) (k : EndpointKey) : Logged (List AclEntry) :=
  match c.endpoint? k with
  | some e => c.pairwiseEntries e d
  | none => ⟨[], []⟩

/-- The entry that denies the traffic of a subnet: what enters may not go there, and what leaves
may not come from there. -/
def denyEntry (d : AclDirection) (s : ForwardingSubnet) : AclEntry :=
  let draft : Draft :=
    { name := "deny_" ++ d.lowerText ++ "_" ++ s.cidr.family.text ++ "_" ++ s.cidr.text
      action := .deny }
  match d with
  | .ingress => (draft.withDestination s.cidr).build
  | .egress => (draft.withSource s.cidr).build

/-- The entries that deny the traffic of tenants' subnets. -/
def denyEntries (c : Context) (d : AclDirection) : List AclEntry :=
  (c.subnets.filter ForwardingSubnet.isTenant).map (denyEntry d)

/-- Whether the endpoint of a key is known and attached somewhere. -/
def isLocated (c : Context) (k : EndpointKey) : Bool :=
  match c.endpoint? k with
  | some e => e.location?.isSome
  | none => false

/-- The prefix of the first endpoint above an endpoint that is attached nowhere and has one. -/
def externalCidr? (c : Context) (owner : Endpoint) : Option Cidr :=
  owner.parents.findSome? fun k =>
    if c.isLocated k then none else (Cidr.parse k.address).toOption

/-- The entry that permits the traffic of a prefix outside. -/
def permitEntry (d : AclDirection) (p : Cidr) : AclEntry :=
  let draft : Draft := { name := "permit_external_" ++ d.lowerText, action := .permit }
  match d with
  | .ingress => (draft.withSource p).build
  | .egress => (draft.withDestination p).build

/-- The entry that permits the traffic of an endpoint outside, if there is one above an
endpoint. -/
def externalEntry? (c : Context) (owner : Endpoint) (d : AclDirection) : Option AclEntry :=
  (c.externalCidr? owner).map (permitEntry d)

/-- The entries of the policies of an endpoint and of all that share its interface. -/
def interfaceEntries (c : Context) (g : Grouping) (owner : Endpoint) (d : AclDirection) :
    Logged (List AclEntry) :=
  (c.pairwiseEntries owner d).append
    (.gather (c.sharedEntries d) ((g.sharers owner.key).filter fun k => k != owner.key))

/-- The entries that stand behind those of policies. -/
def defaultEntries (c : Context) (settings : AclSettings) (owner : Endpoint) (d : AclDirection) :
    List AclEntry :=
  (if settings.denyTenantSubnets then c.denyEntries d else []) ++
    (if settings.allowExternal then (c.externalEntry? owner d).toList else [])

/-- The entries of the list of a known endpoint. Since the first entry that matches decides, those of
policies come before the defaults. -/
def listEntries (c : Context) (g : Grouping) (settings : AclSettings) (owner : Endpoint)
    (d : AclDirection) : Logged (List AclEntry) :=
  let shared := c.interfaceEntries g owner d
  { shared with value := shared.value ++ c.defaultEntries settings owner d }

/-- The entries of an endpoint's list. -/
def entries (c : Context) (g : Grouping) (settings : AclSettings) (k : EndpointKey)
    (d : AclDirection) : Logged (Except ResolveError (List AclEntry)) :=
  match c.endpoint? k with
  | none => ⟨.error (.unknownEndpoint k), []⟩
  | some owner =>
    let all := c.listEntries g settings owner d
    ⟨.ok all.value, all.notices⟩

end Context

end GroupPolicy

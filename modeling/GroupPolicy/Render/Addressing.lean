import GroupPolicy.Net.Cidr
import GroupPolicy.Render.Draft
import GroupPolicy.Render.Location

namespace GroupPolicy

/-- The end of traffic that an address stands for. -/
inductive AddressRole where
  | source
  | destination
  deriving DecidableEq, Repr, Inhabited

namespace AddressRole

/-- The name of an end. -/
def text : AddressRole → String
  | .source => "Source"
  | .destination => "Destination"

/-- Whether the end is the endpoint that entries are rendered for, and not its peer. -/
def usesOwner : AddressRole → AclDirection → Bool
  | .source, .ingress => true
  | .destination, .egress => true
  | _, _ => false

/-- The endpoint at an end. Traffic that enters at an endpoint comes from it and goes to its peer, and
traffic that leaves goes the other way. -/
def endpoint (role : AddressRole) (d : AclDirection) (owner peer : Endpoint) : Endpoint :=
  if role.usesOwner d then owner else peer

end AddressRole

namespace Endpoint

/-- The prefix of an endpoint's routed address, if it has one that is a prefix. -/
def routedCidr? (e : Endpoint) : Option Cidr :=
  match e.routedAddress with
  | .ok address => (Cidr.parse address).toOption
  | .error _ => none

/-- Why an endpoint's routed address is no prefix, if it has one. -/
def cidrFault? (e : Endpoint) : Option FormatError :=
  match e.routedAddress with
  | .ok address =>
    match Cidr.parse address with
    | .ok _ => none
    | .error fault => some fault
  | .error _ => none

/-- The version of an endpoint's own address, if that is a prefix. -/
def ownFamily? (e : Endpoint) : Option Family :=
  match e.key.addressType with
  | .ipPrefix => (Cidr.parse e.key.address).toOption.map Cidr.family
  | .macAddress => none

end Endpoint

/-- The version that both endpoints' own addresses have. -/
def sharedFamily? (owner peer : Endpoint) : Option Family :=
  match owner.ownFamily?, peer.ownFamily? with
  | some f, some g => if f = g then some f else none
  | _, _ => none

/-- The ports between which addresses are exchanged: each pair is a source and a destination. -/
def dhcpPorts : List (UInt16 × UInt16) := [(67, 68), (68, 67), (548, 547), (547, 548)]

namespace Draft

/-- Whether a draft covers the exchange of addresses. -/
def isDhcp (d : Draft) : Bool :=
  dhcpPorts.any fun (source, destination) =>
    d.sourcePorts.matchesPort source && d.destinationPorts.matchesPort destination

/-- The draft with a prefix at one of its ends. One for the exchange of addresses stays as it is, since
that traffic comes before the endpoints have addresses. -/
def withAddress (role : AddressRole) (p : Cidr) (d : Draft) : Draft :=
  if d.isDhcp then d
  else
    match role with
    | .source => d.withSource p
    | .destination => d.withDestination p

/-- Whether a draft can apply between two endpoints: it cannot if both have addresses of one
version and it is for the other. -/
def isRelevant (owner peer : Endpoint) (d : Draft) : Bool :=
  match sharedFamily? owner peer with
  | some family => d.etherType != some family.other
  | none => true

/-- Whether a draft is bound to an address, or covers the exchange of addresses. -/
def isBound (d : Draft) : Bool := d.hasAddress || d.isDhcp

end Draft

/-- The drafts with the address at one end. If that end has none, they stay as they are. -/
def assigned (role : AddressRole) (d : AclDirection) (owner peer : Endpoint) (drafts : List Draft) :
    List Draft :=
  match (role.endpoint d owner peer).routedCidr? with
  | some p => drafts.map (Draft.withAddress role p)
  | none => drafts

end GroupPolicy

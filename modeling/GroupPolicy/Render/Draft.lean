import GroupPolicy.Acl.Entry
import GroupPolicy.Render.PortBounds

namespace GroupPolicy

/-- The number that stands for any protocol. -/
def anyProtocol : UInt8 := 0

/-- The number of the protocol of control messages. -/
def icmpProtocol : UInt8 := 1

/-- The number of TCP. -/
def tcpProtocol : UInt8 := 6

/-- The number of UDP. -/
def udpProtocol : UInt8 := 17

/-- An entry in the making: what a rule says about its traffic, collected in any order. -/
structure Draft where
  name : String
  protocol : Option UInt8 := none
  /-- The version of the addresses, as far as no prefix tells it. -/
  etherType : Option Family := none
  sourcePorts : PortBounds := {}
  destinationPorts : PortBounds := {}
  ip : Option IpMatch := none
  action : Verdict := .deny
  deriving DecidableEq, Repr

namespace Draft

/-- The prefix of one side, as far as it can stand beside a prefix of a family. -/
def kept (d : Draft) (family : Family) (side : IpMatch → Option Cidr) : Option Cidr :=
  d.ip.bind fun ip => if ip.family = family then side ip else none

/-- The draft with a prefix for the source. A destination of the other family is dropped. -/
def withSource (d : Draft) (p : Cidr) : Draft :=
  let destination := d.kept p.family IpMatch.destination
  { d with ip := some { family := p.family, source := some p, destination } }

/-- The draft with a prefix for the destination. A source of the other family is dropped. -/
def withDestination (d : Draft) (p : Cidr) : Draft :=
  let source := d.kept p.family IpMatch.source
  { d with ip := some { family := p.family, source, destination := some p } }

/-- The draft of an entry that lets its traffic through. -/
def permit (d : Draft) : Draft := { d with action := .permit }

/-- The transport that the entry matches; ports count for TCP and UDP only. -/
def protocolMatch (d : Draft) : ProtocolMatch :=
  match d.protocol with
  | none => .other anyProtocol
  | some number =>
    if number = icmpProtocol then .icmp .any .any
    else if number = tcpProtocol then .tcp d.sourcePorts.toRange? d.destinationPorts.toRange?
    else if number = udpProtocol then .udp d.sourcePorts.toRange? d.destinationPorts.toRange?
    else .other number

/-- The addresses that the entry matches: the version alone is matched only where no prefix is
given. -/
def ipMatch (d : Draft) : Option IpMatch :=
  d.ip <|> d.etherType.map fun family => { family := family }

/-- The finished entry. -/
def build (d : Draft) : AclEntry :=
  { name := d.name
    traffic := { ip := d.ipMatch, protocol := d.protocolMatch }
    action := d.action }

/-- Whether the entry is bound to a prefix. -/
def hasAddress (d : Draft) : Bool :=
  d.ip.any fun ip => ip.source.isSome || ip.destination.isSome

end Draft

end GroupPolicy

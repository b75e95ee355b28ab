import GroupPolicy.Acl.Entry
import GroupPolicy.Net.Document

namespace GroupPolicy

/-- The names of directions in documents. -/
def AclDirection.table : List (String × AclDirection) :=
  [("INGRESS", .ingress), ("EGRESS", .egress)]

instance : Coded AclDirection where
  shape := .choice
  decode _ := choice AclDirection.table
  encode
    | .ingress => .text "INGRESS"
    | .egress => .text "EGRESS"

/-- The names of verdicts in documents. -/
def Verdict.table : List (String × Verdict) := [("permit", .permit), ("deny", .deny)]

instance : Coded Verdict where
  shape := .choice
  decode _ := choice Verdict.table
  encode v := .text v.text

namespace IcmpRange

/-- The fields of a range of types or codes. -/
def fields := (required UInt8 "first").and (required UInt8 "last")

instance : Coded IcmpRange where
  shape := .record fields.shapes
  decode r v := do
    let (first, last) ← fields.read "struct IcmpRange" r v
    return { first, last }
  encode x := .object (written "first" x.first ++ written "last" x.last)

end IcmpRange

namespace IpMatch

/-- The fields of a match on addresses beside its family. -/
def fields := (optional Cidr "source").and (optional Cidr "destination")

/-- What the fields of a family are called. -/
def title : Family → String
  | .ipv4 => "struct variant AceIpMatch::Ipv4"
  | .ipv6 => "struct variant AceIpMatch::Ipv6"

/-- The family is the tag of the record. -/
instance : Coded IpMatch where
  shape := .tagged "version"
  decode _ v := do
    let (family, rest) ← tagged "AceIpMatch" "version" Family.table v
    let (source, destination) ← fields.read (title family) .buffered rest
    return { family, source, destination }
  encode m := .object (written "version" m.family ++ writtenSome "source" m.source ++
    writtenSome "destination" m.destination)

end IpMatch

namespace ProtocolMatch

/-- The alternatives of a match on the transport. -/
inductive Kind where
  | other
  | icmp
  | tcp
  | udp
  deriving DecidableEq, Repr

/-- The names of the alternatives in documents. -/
def table : List (String × Kind) :=
  [("other", .other), ("icmp", .icmp), ("tcp", .tcp), ("udp", .udp)]

/-- The fields of a match on control messages. -/
def icmpFields := (required IcmpRange "types").and (required IcmpRange "codes")

/-- The fields of a match on ports. -/
def portFields := (optional PortRange "source_ports").and (optional PortRange "destination_ports")

/-- Reads the fields of an alternative. -/
def ofFields (rest : Value) : Kind → Except DecodeError ProtocolMatch
  | .other => do
    let number ← (required UInt8 "number").read "struct variant ProtocolMatch::Other" .buffered rest
    return .other number
  | .icmp => do
    let (types, codes) ← icmpFields.read "struct variant ProtocolMatch::Icmp" .buffered rest
    return .icmp types codes
  | .tcp => do
    let (source, destination) ←
      portFields.read "struct variant ProtocolMatch::Tcp" .buffered rest
    return .tcp source destination
  | .udp => do
    let (source, destination) ←
      portFields.read "struct variant ProtocolMatch::Udp" .buffered rest
    return .udp source destination

/-- The alternative is the tag of the record. -/
instance : Coded ProtocolMatch where
  shape := .tagged "protocol"
  decode _ v := do
    let (kind, rest) ← tagged "ProtocolMatch" "protocol" table v
    ofFields rest kind
  encode
    | .other number => .object (written "protocol" "other" ++ written "number" number)
    | .icmp types codes =>
      .object (written "protocol" "icmp" ++ written "types" types ++ written "codes" codes)
    | .tcp source destination =>
      .object (written "protocol" "tcp" ++ writtenSome "source_ports" source ++
        writtenSome "destination_ports" destination)
    | .udp source destination =>
      .object (written "protocol" "udp" ++ writtenSome "source_ports" source ++
        writtenSome "destination_ports" destination)

end ProtocolMatch

namespace Traffic

/-- The fields of a match on traffic. -/
def fields := (optional IpMatch "ip").and (required ProtocolMatch "protocol")

instance : Coded Traffic where
  shape := .record fields.shapes
  decode r v := do
    let (ip, protocol) ← fields.read "struct AceMatches" r v
    return { ip, protocol }
  encode m := .object (writtenSome "ip" m.ip ++ written "protocol" m.protocol)

end Traffic

namespace AclEntry

/-- The fields of an entry. -/
def fields :=
  (required String "name").and ((required Traffic "matches").and (required Verdict "action"))

instance : Coded AclEntry where
  shape := .record fields.shapes
  decode r v := do
    let (name, traffic, action) ← fields.read "struct Ace" r v
    return { name, traffic, action }
  encode e := .object (written "name" e.name ++ written "matches" e.traffic ++
    written "action" e.action)

end AclEntry

namespace Acl

/-- The fields of a list. -/
def fields :=
  (required String "name").and
    ((required AclDirection "direction").and (required (List AclEntry) "entries"))

instance : Coded Acl where
  shape := .record fields.shapes
  decode r v := do
    let (name, direction, entries) ← fields.read "struct Acl" r v
    return { name, direction, entries }
  encode l := .object (written "name" l.name ++ written "direction" l.direction ++
    written "entries" l.entries)

end Acl

end GroupPolicy

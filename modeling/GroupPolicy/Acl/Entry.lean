import GroupPolicy.Acl.Direction
import GroupPolicy.Net.Cidr
import GroupPolicy.Net.PortRange

namespace GroupPolicy

/-- What becomes of traffic. -/
inductive Verdict where
  | permit
  | deny
  deriving DecidableEq, Repr, Inhabited

/-- The name of a verdict. -/
def Verdict.text : Verdict → String
  | .permit => "permit"
  | .deny => "deny"

/-- A range of the numbers that control messages carry, both ends included. -/
structure IcmpRange where
  first : UInt8
  last : UInt8
  deriving DecidableEq, Repr, Inhabited

/-- The range of all types, or of all codes. -/
def IcmpRange.any : IcmpRange := ⟨0, 254⟩

/-- The addresses that an entry matches: those of a family, and of them those within the prefixes
that are given. -/
structure IpMatch where
  family : Family
  source : Option Cidr := none
  destination : Option Cidr := none
  deriving DecidableEq, Repr

/-- The transport that an entry matches. -/
inductive ProtocolMatch where
  /-- A protocol by its number alone; zero stands for any protocol. -/
  | other (number : UInt8)
  /-- Control messages of some types and codes. -/
  | icmp (types codes : IcmpRange)
  /-- TCP between some ports; an absent range stands for any port. -/
  | tcp (source destination : Option PortRange)
  /-- UDP between some ports; an absent range stands for any port. -/
  | udp (source destination : Option PortRange)
  deriving DecidableEq, Repr

/-- The traffic that an entry matches. -/
structure Traffic where
  /-- Its addresses; traffic of either family if absent. -/
  ip : Option IpMatch := none
  protocol : ProtocolMatch
  deriving DecidableEq, Repr

/-- An entry of a list. -/
structure AclEntry where
  name : String
  traffic : Traffic
  action : Verdict
  deriving DecidableEq, Repr

namespace AclEntry

/-- The prefix that the source must lie in. -/
def source (e : AclEntry) : Option Cidr := e.traffic.ip.bind IpMatch.source

/-- The prefix that the destination must lie in. -/
def destination (e : AclEntry) : Option Cidr := e.traffic.ip.bind IpMatch.destination

end AclEntry

/-- A list of entries for one direction. The first of them that matches some traffic decides about it.
-/
structure Acl where
  name : String
  direction : AclDirection
  entries : List AclEntry
  deriving DecidableEq, Repr

namespace Acl

/-- The list of an interface. -/
def ofInterface (interface : String) (direction : AclDirection) (entries : List AclEntry) : Acl :=
  { name := aclName interface direction, direction, entries }

/-- The first entry of a name. -/
def entry? (l : Acl) (name : String) : Option AclEntry :=
  l.entries.find? fun e => e.name == name

end Acl

end GroupPolicy

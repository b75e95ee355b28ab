import GroupPolicy.Net.Family

namespace GroupPolicy

/-- The reasons for refusing an address, a prefix or a port range. -/
inductive FormatError where
  /-- The text is no address. -/
  | address (text : String)
  /-- The text is no address, with or without a prefix length. -/
  | cidr (text : String)
  /-- The prefix length is more than an address of the family has bits. -/
  | length (length : Nat) (family : Family)
  /-- The text is neither a port nor two ports with a dash between them. -/
  | ports (text : String)
  /-- The lower port is above the upper one. -/
  | portOrder (lower upper : Nat)
  deriving DecidableEq, Repr

/-- The wording of a refusal. -/
def FormatError.message : FormatError → String
  | .address text => s!"invalid IP address format: {text}"
  | .cidr text => s!"invalid IP prefix format: {text}"
  | .length n family =>
    let max := family.maxLength
    let name := family.text
    s!"invalid IP prefix format: prefix length {n} exceeds maximum {max} for {name}"
  | .ports text => s!"invalid port range: {text}"
  | .portOrder lower upper => s!"invalid port range: min ({lower}) > max ({upper})"

end GroupPolicy

import GroupPolicy.Net.Address

namespace GroupPolicy

/-- An address with a prefix length. The bits of the address that do not count are kept. -/
structure Cidr where
  /-- The address. -/
  address : Address
  /-- How many of its leading bits count. -/
  length : Nat
  /-- No more bits count than the address has. -/
  length_le : length ≤ address.family.maxLength
  deriving DecidableEq, Repr

namespace Cidr

/-- The version of the address. -/
def family (p : Cidr) : Family := p.address.family

/-- An address with a prefix length, refused when the address has fewer bits. -/
def ofLength (address : Address) (length : Nat) : Except FormatError Cidr :=
  if h : length ≤ address.family.maxLength then .ok ⟨address, length, h⟩
  else .error (.length length address.family)

/-- The prefix of one address alone: all its bits count. -/
def host (address : Address) : Cidr :=
  ⟨address, address.family.maxLength, Nat.le_refl _⟩

/-- Whether all bits of the address count. -/
def isHost (p : Cidr) : Bool := p.length == p.family.maxLength

/-- Prefixes are ordered by address and then by length. -/
instance : Ord Cidr := ⟨fun p q => (compare p.address q.address).then (compare p.length q.length)⟩

/-- The characters of a prefix: the address, a slash and the length. -/
def chars (p : Cidr) : List Char := p.address.chars ++ '/' :: Text.decimal p.length

/-- The text of a prefix. -/
def text (p : Cidr) : String := String.ofList p.chars

/-- The prefix that a text stands for. The length follows the last slash; an address without a
length is a prefix of that address alone. -/
def parse (s : String) : Except FormatError Cidr :=
  match Text.splitLast '/' (Text.trim s.toList) with
  | none =>
    match Address.parse? s.toList with
    | some address => .ok (host address)
    | none => .error (.cidr s)
  | some (address, length) =>
    match Address.parse? address, Text.readUpTo? 255 length with
    | some address, some length => ofLength address length
    | _, _ => .error (.cidr s)

end Cidr

end GroupPolicy

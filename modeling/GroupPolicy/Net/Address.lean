import GroupPolicy.Net.FormatError
import GroupPolicy.Net.Ipv6
import GroupPolicy.Text.Blank

namespace GroupPolicy

/-- An address of either version. -/
inductive Address where
  | v4 (x : Ipv4)
  | v6 (x : Ipv6)
  deriving DecidableEq, Repr

namespace Address

/-- The version of an address. -/
def family : Address → Family
  | .v4 _ => .ipv4
  | .v6 _ => .ipv6

/-- Addresses of version 4 come before those of version 6. -/
def order : Address → Address → Ordering
  | .v4 x, .v4 y => compare x y
  | .v4 _, .v6 _ => .lt
  | .v6 _, .v4 _ => .gt
  | .v6 x, .v6 y => compare x y

instance : Ord Address := ⟨order⟩

/-- The characters of an address. -/
def chars : Address → List Char
  | .v4 x => x.chars
  | .v6 x => x.chars

/-- The text of an address. -/
def text (x : Address) : String := String.ofList x.chars

/-- The address that characters stand for, with no blanks around them. -/
def ofChars? (s : List Char) : Option Address :=
  match Ipv4.parse? s with
  | some x => some (.v4 x)
  | none => (Ipv6.parse? s).map .v6

/-- The address that characters stand for; blanks at the ends do not count. -/
def parse? (s : List Char) : Option Address :=
  ofChars? (Text.trim s)

/-- The address that a text stands for. -/
def parse (s : String) : Except FormatError Address :=
  match parse? s.toList with
  | some x => .ok x
  | none => .error (.address s)

end Address

end GroupPolicy

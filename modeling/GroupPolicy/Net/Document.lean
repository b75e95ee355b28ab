import GroupPolicy.Document.Choice
import GroupPolicy.Net.Cidr
import GroupPolicy.Net.PortRange

namespace GroupPolicy

/-- The names of the two versions in documents. -/
def Family.table : List (String × Family) := [("ipv4", .ipv4), ("ipv6", .ipv6)]

instance : Coded Family where
  shape := .choice
  decode _ := choice Family.table
  encode f := .text f.text

/-- Reads a text and what it stands for. -/
def Coded.parsed {α : Type} (parse : String → Except FormatError α) (v : Value) :
    Except DecodeError α := do
  let s ← Coded.text v "a string"
  (parse s).mapError .format

instance : Coded Address where
  shape := .text
  decode _ := Coded.parsed Address.parse
  encode x := .text x.text

instance : Coded Cidr where
  shape := .text
  decode _ := Coded.parsed Cidr.parse
  encode p := .text p.text

namespace PortRange

/-- The fields of a port range. -/
def fields := (required UInt16 "lower").and (required UInt16 "upper")

instance : Coded PortRange where
  shape := .record fields.shapes
  decode r v := do
    let (lower, upper) ← fields.read "struct PortRange" r v
    return ⟨lower, upper⟩
  encode p := .object (written "lower" p.lower ++ written "upper" p.upper)

end PortRange

end GroupPolicy

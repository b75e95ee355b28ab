import GroupPolicy.Net.FormatError
import GroupPolicy.Ordered.Order
import GroupPolicy.Text.Blank
import GroupPolicy.Text.Decimal
import GroupPolicy.Text.Split

namespace GroupPolicy

/-- The ports from a lower one to an upper one, both included. A range from a document may be upside
down; `ofBounds` and `parse` refuse such a range. -/
structure PortRange where
  /-- The first port. -/
  lower : UInt16
  /-- The last port. -/
  upper : UInt16
  deriving DecidableEq, Repr, Inhabited

namespace PortRange

/-- Ranges are ordered by the lower port and then by the upper one. -/
instance : Ord PortRange :=
  ⟨fun r s => (compare r.lower s.lower).then (compare r.upper s.upper)⟩

/-- The range between two ports, refused when they stand the wrong way round. -/
def ofBounds (lower upper : UInt16) : Except FormatError PortRange :=
  if lower ≤ upper then .ok ⟨lower, upper⟩ else .error (.portOrder lower.toNat upper.toNat)

/-- The range of one port. -/
def single (port : UInt16) : PortRange := ⟨port, port⟩

/-- Whether a port lies in the range. -/
def contains (r : PortRange) (port : UInt16) : Bool := r.lower ≤ port && port ≤ r.upper

/-- The characters of a range: its two ports with a dash between them. -/
def chars (r : PortRange) : List Char :=
  Text.decimal r.lower.toNat ++ '-' :: Text.decimal r.upper.toNat

/-- The text of a range. -/
def text (r : PortRange) : String := String.ofList r.chars

/-- The port that characters stand for; blanks at the ends do not count. -/
def port? (s : List Char) : Option UInt16 :=
  (Text.readUpTo? 65535 (Text.trim s)).map UInt16.ofNat

/-- The range that a text stands for: two ports with a dash between them, or one port. -/
def parse (s : String) : Except FormatError PortRange :=
  match Text.splitFirst '-' s.toList with
  | some (lower, upper) =>
    match port? lower, port? upper with
    | some lower, some upper => ofBounds lower upper
    | _, _ => .error (.ports s)
  | none =>
    match port? s.toList with
    | some port => .ok (single port)
    | none => .error (.ports s)

@[simp]
theorem contains_single (p q : UInt16) : (single p).contains q = true ↔ q = p := by
  simp only [single, contains, Bool.and_eq_true]
  constructor
  · rintro ⟨hlower, hupper⟩
    exact UInt16.le_antisymm (of_decide_eq_true hupper) (of_decide_eq_true hlower)
  · rintro rfl
    exact ⟨decide_eq_true (UInt16.le_refl _), decide_eq_true (UInt16.le_refl _)⟩

end PortRange

end GroupPolicy

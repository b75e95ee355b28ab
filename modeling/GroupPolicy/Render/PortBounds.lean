import GroupPolicy.Net.PortRange

namespace GroupPolicy

/-- A lower and an upper bound on ports. -/
structure PortBounds where
  lower : Option UInt16 := none
  upper : Option UInt16 := none
  deriving DecidableEq, Repr, Inhabited

namespace PortBounds

/-- The bounds that one port alone keeps. -/
def exact (port : UInt16) : PortBounds := ⟨some port, some port⟩

/-- The bounds of a range. -/
def range (lower upper : UInt16) : PortBounds := ⟨some lower, some upper⟩

/-- Whether there is no bound. -/
def isEmpty (b : PortBounds) : Bool := b.lower.isNone && b.upper.isNone

/-- The range between the bounds, if there are two that stand the right way round. -/
def toRange? (b : PortBounds) : Option PortRange :=
  match b.lower, b.upper with
  | some lower, some upper => if lower ≤ upper then some ⟨lower, upper⟩ else none
  | _, _ => none

/-- Whether a port keeps the bounds; a single bound is kept by its own port alone, and no bounds by
no port. -/
def matchesPort (b : PortBounds) (port : UInt16) : Bool :=
  match b.lower, b.upper with
  | some lower, some upper => lower ≤ port && port ≤ upper
  | some bound, none => bound == port
  | none, some bound => bound == port
  | none, none => false

end PortBounds

end GroupPolicy

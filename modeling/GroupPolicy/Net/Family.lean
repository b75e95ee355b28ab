import GroupPolicy.Ordered.Order
import GroupPolicy.Text.Name

namespace GroupPolicy

/-- The version an address or a prefix belongs to. -/
inductive Family where
  | ipv4
  | ipv6
  deriving DecidableEq, Repr, Inhabited

namespace Family

instance : Ranked Family where
  rank
    | .ipv4 => 0
    | .ipv6 => 1
  rank_inj {a b} h := by cases a <;> cases b <;> simp_all

/-- The number of bits of an address, which bounds every prefix length. -/
def maxLength : Family → Nat
  | .ipv4 => 32
  | .ipv6 => 128

/-- The version that this one is not. -/
def other : Family → Family
  | .ipv4 => .ipv6
  | .ipv6 => .ipv4

/-- There are only two versions. -/
theorem eq_or_eq_other (f g : Family) : g = f ∨ g = f.other := by
  cases f <;> cases g <;> simp [other]

/-- The name of a version. -/
def text : Family → String
  | .ipv4 => "ipv4"
  | .ipv6 => "ipv6"

/-- The version a text names, in full or by number alone; letter case is ignored. -/
def ofText (s : String) : Except UnknownName Family :=
  match s.toLower with
  | "ipv4" | "v4" => .ok .ipv4
  | "ipv6" | "v6" => .ok .ipv6
  | _ => .error ⟨"address family", s⟩

end Family

end GroupPolicy

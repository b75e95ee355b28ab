import GroupPolicy.Ordered.Order
import GroupPolicy.Text.Decimal
import GroupPolicy.Text.Split

namespace GroupPolicy

/-- An address of version 4. -/
structure Ipv4 where
  /-- The first octet. -/
  a : UInt8
  /-- The second octet. -/
  b : UInt8
  /-- The third octet. -/
  c : UInt8
  /-- The last octet. -/
  d : UInt8
  deriving DecidableEq, Repr, Inhabited

namespace Ipv4

/-- The octets in turn, so that the order of addresses is the order of their octets. -/
def octets (x : Ipv4) : List UInt8 := [x.a, x.b, x.c, x.d]

instance : Ord Ipv4 := ⟨compareOn octets⟩

/-- The characters of an address. -/
def chars (x : Ipv4) : List Char :=
  ['.'].intercalate (x.octets.map fun o => Text.decimal o.toNat)

/-- The text of an address. -/
def text (x : Ipv4) : String := String.ofList x.chars

/-- An octet is at most three digits long and starts with a zero only if it is zero. -/
def octet? (s : List Char) : Option UInt8 :=
  if s.length ≤ 3 ∧ (s.length = 1 ∨ s.head? ≠ some '0') then
    ((Text.readNat? s).filter (· ≤ 255)).map UInt8.ofNat
  else none

/-- The address that four octets with points between them stand for. -/
def parse? (s : List Char) : Option Ipv4 :=
  match Text.splitAll '.' s with
  | [a, b, c, d] => do
    let a ← octet? a
    let b ← octet? b
    let c ← octet? c
    let d ← octet? d
    return ⟨a, b, c, d⟩
  | _ => none

theorem octet?_decimal (o : UInt8) : octet? (Text.decimal o.toNat) = some o := by
  have hall : ∀ n < 256, octet? (Text.decimal n) = some (UInt8.ofNat n) := by decide +kernel
  rw [hall o.toNat o.toNat_lt]
  simp

/-- An address is read back from its text. -/
theorem parse?_chars (x : Ipv4) : parse? x.chars = some x := by
  have hdot : ∀ n, '.' ∉ Text.decimal n := Text.not_mem_decimal (by decide)
  have hpieces : Text.splitAll '.' x.chars =
      [Text.decimal x.a.toNat, Text.decimal x.b.toNat, Text.decimal x.c.toNat,
        Text.decimal x.d.toNat] := by
    rw [chars, Text.splitAll_intercalate (by simp [octets]) (by simp [octets, hdot])]
    rfl
  simp [parse?, hpieces, octet?_decimal]

end Ipv4

end GroupPolicy

namespace GroupPolicy.Text

/-- A positive number that is a whole mantissa times a power of two, and the distance to the
numbers next to it: half a unit above, and half or a quarter of a unit below. -/
structure Binary where
  /-- The mantissa. -/
  mantissa : Nat
  /-- The power of two. -/
  exponent : Int
  /-- Whether the number below is nearer than the one above. -/
  nearBelow : Bool

/-- A power of a base for a possibly negative exponent, as a numerator and a denominator. -/
def power (base : Nat) (e : Int) : Nat × Nat :=
  if e < 0 then (1, base.pow e.natAbs) else (base.pow e.natAbs, 1)

/-- Whether one fraction is less than another. -/
def fractionLt (a b : Nat × Nat) : Bool := a.1 * b.2 < b.1 * a.2

/-- The product of two fractions. -/
def fractionMul (a b : Nat × Nat) : Nat × Nat := (a.1 * b.1, a.2 * b.2)

namespace Binary

/-- A number of quarters of the unit of a mantissa. -/
def quarters (x : Binary) (n : Nat) : Nat × Nat :=
  fractionMul (n, 4) (power 2 x.exponent)

/-- Whether a fraction is read back as the number: it lies no further off than halfway to the
numbers next to it, and the halfway points count for an even mantissa. -/
def readsBack (x : Binary) (a : Nat × Nat) : Bool :=
  let low := x.quarters (4 * x.mantissa - if x.nearBelow then 1 else 2)
  let high := x.quarters (4 * x.mantissa + 2)
  if x.mantissa % 2 = 0 then !fractionLt a low && !fractionLt high a
  else fractionLt low a && fractionLt a high

/-- The number of digits before the decimal point; of a number below one, the number of zeros
after the point, with a minus sign. -/
def magnitude (x : Binary) : Int :=
  let (num, den) := x.quarters (4 * x.mantissa)
  if den ≤ num then (Nat.toDigits 10 (num / den)).length
  else
    let guess : Int := -((Nat.toDigits 10 (den / num)).length : Int) + 1
    if fractionLt (num, den) (power 10 (guess - 1)) then guess - 1
    else if fractionLt (num, den) (power 10 guess) then guess
    else guess + 1

/-- The nearest decimal of a given number of digits that is read back as the number: its digits
and the power of ten of the last one. -/
def withDigits? (x : Binary) (count : Nat) : Option (Nat × Int) :=
  let scale := x.magnitude - count
  let unit := power 10 scale
  let value := x.quarters (4 * x.mantissa)
  let below := (value.1 * unit.2) / (value.2 * unit.1)
  let atBelow := fractionMul (below, 1) unit
  let atAbove := fractionMul (below + 1, 1) unit
  let middle := fractionMul (2 * below + 1, 2) unit
  let aboveIsNearer :=
    fractionLt middle value || (!fractionLt value middle && below % 2 == 1)
  match x.readsBack atBelow, x.readsBack atAbove with
  | true, true => some (if aboveIsNearer then below + 1 else below, scale)
  | true, false => some (below, scale)
  | false, true => some (below + 1, scale)
  | false, false => none

/-- The shortest decimal that is read back as the number; seventeen digits always are. A number
just below a power of ten may round up to it, which is then a single digit again. -/
def shortest (x : Binary) : Nat × Int :=
  match (List.range 17).findSome? fun i => x.withDigits? (i + 1) with
  | some (digits, scale) => if digits = 10 then (1, scale + 1) else (digits, scale)
  | none => (x.mantissa, 0)

end Binary

/-- A decimal with a point: positional from five zeros after the point to sixteen digits before
it, and otherwise with a power of ten that always carries a sign. -/
def pointed (digits : Nat) (scale : Int) : String :=
  let ds := Nat.toDigits 10 digits
  let n : Int := ds.length
  let point := n + scale
  let zeros (k : Int) : List Char := List.replicate k.natAbs '0'
  if 0 ≤ scale ∧ point ≤ 16 then String.ofList (ds ++ zeros scale ++ ['.', '0'])
  else if 0 < point ∧ point ≤ 16 then
    String.ofList (ds.take point.natAbs ++ '.' :: ds.drop point.natAbs)
  else if -5 < point ∧ point ≤ 0 then String.ofList ('0' :: '.' :: zeros point ++ ds)
  else
    let mantissa := if ds.length = 1 then ds else ds.take 1 ++ '.' :: ds.drop 1
    let power := point - 1
    let sign := if power < 0 then "" else "+"
    String.ofList mantissa ++ s!"e{sign}{power}"

/-- The text of a finite double. -/
def doubleText (f : Float) : String :=
  let bits := f.toBits.toNat
  let sign := if bits / Nat.pow 2 63 = 1 then "-" else ""
  let field : Nat := bits / Nat.pow 2 52 % Nat.pow 2 11
  let fraction : Nat := bits % Nat.pow 2 52
  if field = 0 ∧ fraction = 0 then sign ++ "0.0"
  else
    let x : Binary :=
      if field = 0 then ⟨fraction, -1074, false⟩
      else ⟨fraction + Nat.pow 2 52, (field : Int) - 1075, fraction == 0 && 1 < field⟩
    let (digits, scale) := x.shortest
    sign ++ pointed digits scale

end GroupPolicy.Text

import GroupPolicy.Document.Value
import GroupPolicy.Text.Shortest

namespace GroupPolicy.Json

/-- The greatest word. -/
def maxWord : Nat := Nat.pow 2 64 - 1

/-- The digits that fit into a word, as a number, and how many digits there are after them. -/
def collectDigits (start : Nat) : List Char → Nat × List Char
  | [] => (start, [])
  | c :: r =>
    let next := 10 * start + (c.toNat - '0'.toNat)
    if maxWord < next then (start, c :: r) else collectDigits next r

/-- A double scaled by a power of ten; the number of rounds bounds how often it is divided by the
largest power before the rest of the scale is applied. `none` if the result is too large. -/
def scaled : Nat → Float → Int → Option Float
  | 0, f, _ => some f
  | rounds + 1, f, e =>
    if e.natAbs ≤ 308 then
      let power := Float.ofScientific 1 false e.natAbs
      if 0 ≤ e then
        let product := f * power
        if product.isInf then none else some product
      else some (f / power)
    else if f == 0.0 then some f
    else if 0 ≤ e then none
    else scaled rounds (f / 1e308) (e + 308)

/-- A double of a sign, a word and a power of ten. After three divisions by the largest power any
word is zero, so four rounds are enough. -/
def double? (negative : Bool) (word : Nat) (e : Int) : Option Number :=
  (scaled 8 word.toUInt64.toFloat e).map fun f =>
    .real (Text.doubleText (if negative then -f else f))

/-- The value of a number without fraction and exponent. Minus zero, and what does not fit into a word,
is a double. -/
def whole (negative : Bool) (n : Nat) : Number :=
  if negative then
    if n = 0 ∨ Nat.pow 2 63 < n then .real (Text.doubleText (-n.toUInt64.toFloat))
    else .integer true n
  else .integer false n

/-- What the digits before and after the point and the exponent of a number amount to; `none` if the
number is too large for a double. The digits of a double are collected into a word for as long as they
fit, and only then scaled, so it may be off in its last bit from the nearest double. -/
def number? (negative : Bool) (digits : List Char) (fraction : Option (List Char))
    (exponent : Option (Bool × List Char)) : Option Number :=
  let (word, left) := collectDigits 0 digits
  if left = [] ∧ fraction = none ∧ exponent = none then some (whole negative word)
  else
    let places := fraction.getD []
    let (word', unread) := collectDigits word places
    let taken := places.length - unread.length
    let start : Int := (left.length : Int) - taken
    match exponent with
    | none => double? negative word' start
    | some (down, ds) =>
      let e := Nat.ofDigitChars 10 ds 0
      if 2147483647 < e then
        if word' ≠ 0 ∧ !down then none else some (.real (if negative then "-0.0" else "0.0"))
      else double? negative word' (if down then start - e else start + e)

end GroupPolicy.Json

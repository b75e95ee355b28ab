import GroupPolicy.Text.Decimal

namespace GroupPolicy.Text

/-- A number without a sign, as it is written. -/
structure Scientific where
  /-- The digits in front of the point. -/
  whole : List Char
  /-- The digits behind it. -/
  fraction : List Char
  /-- The power of ten. -/
  exponent : Int
  deriving DecidableEq, Repr

/-- The power of ten that the characters behind a number announce; none announce zero. -/
def exponent? : List Char → Option Int
  | [] => some 0
  | e :: r =>
    if e = 'e' ∨ e = 'E' then
      match r with
      | '-' :: digits => (readNat? digits).map fun n => -(n : Int)
      | '+' :: digits => (readNat? digits).map fun n => (n : Int)
      | digits => (readNat? digits).map fun n => (n : Int)
    else none

/-- The digits behind a point, and what follows them; without a point there are none. -/
def splitFraction : List Char → List Char × List Char
  | '.' :: r => (r.takeWhile Char.isDigit, r.dropWhile Char.isDigit)
  | r => ([], r)

/-- The number that a text writes; a point alone is none. -/
def Scientific.ofText? (s : List Char) : Option Scientific :=
  let whole := s.takeWhile Char.isDigit
  let (fraction, rest) := splitFraction (s.dropWhile Char.isDigit)
  if whole = [] ∧ fraction = [] then none
  else (exponent? rest).map fun exponent => ⟨whole, fraction, exponent⟩

/-- Whether a text is a number with a sign or without one, an infinity or not a number; letter case
is ignored. -/
def isRealNumber (s : List Char) : Bool :=
  let unsigned :=
    match s with
    | '+' :: r => r
    | '-' :: r => r
    | r => r
  ["inf", "infinity", "nan"].contains (String.ofList (unsigned.map Char.toLower)) ||
    (Scientific.ofText? unsigned).isSome

end GroupPolicy.Text

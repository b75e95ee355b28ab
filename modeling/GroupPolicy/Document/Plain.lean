import GroupPolicy.Document.Value
import GroupPolicy.Text.Decimal
import GroupPolicy.Text.Hexadecimal
import GroupPolicy.Text.Scientific
import GroupPolicy.Text.Split

namespace GroupPolicy.Plain

/-- The spellings of the absent value, apart from writing nothing. -/
def isNull (s : String) : Bool :=
  s == "null" || s == "Null" || s == "NULL" || s == "~"

/-- The truth value that a scalar spells. -/
def bool? (s : String) : Option Bool :=
  match s with
  | "true" | "True" | "TRUE" => some true
  | "false" | "False" | "FALSE" => some false
  | _ => none

/-- The value of a digit in a base of at most sixteen. -/
def digit? (base : Nat) (c : Char) : Option Nat := (Text.hexDigit? c).filter (· < base)

/-- The number that a non-empty run of digits stands for. -/
def digits? (base : Nat) (s : List Char) : Option Nat :=
  if s = [] then none else s.foldlM (fun n c => (digit? base c).map fun d => base * n + d) 0

/-- The base that the characters in front of a number announce, and the digits after them. -/
def radix? : List Char → Option (Nat × List Char)
  | '0' :: 'x' :: r => some (16, r)
  | '0' :: 'o' :: r => some (8, r)
  | '0' :: 'b' :: r => some (2, r)
  | _ => none

/-- Digits in base ten, not led by a zero unless they are a single one. -/
def decimal? (s : List Char) : Option Nat :=
  if s.head? = some '0' ∧ s.length ≠ 1 then none else Text.readNat? s

/-- A number without a sign, in any of the bases. -/
def magnitude? (s : List Char) : Option Nat :=
  match radix? s with
  | some (base, digits) => digits? base digits
  | none => decimal? s

/-- A whole number that is not negative; a plus sign may stand in front. -/
def natural? (s : String) : Option Nat :=
  match s.toList with
  | '+' :: r => magnitude? r
  | r => magnitude? r

/-- A whole number: whether it has a minus sign, and its magnitude. -/
def integer? (s : String) : Option (Bool × Nat) :=
  match s.toList with
  | '-' :: r => (magnitude? r).map fun n => (true, n)
  | _ => (natural? s).map fun n => (false, n)

/-- Whether a number is below the largest magnitude that a double can round to. -/
def isFinite (x : Text.Scientific) : Bool :=
  let n := Nat.ofDigitChars 10 (x.whole ++ x.fraction) 0
  let scale := x.exponent - x.fraction.length
  let magnitude := ((Nat.toDigits 10 n).length : Int) + scale
  if n = 0 ∨ magnitude < 0 then true
  else if magnitude > 400 then false
  else
    let bound := Nat.pow 2 1024 - Nat.pow 2 970
    if scale < 0 then n < bound * Nat.pow 10 scale.natAbs else n * Nat.pow 10 scale.natAbs < bound

/-- Whether a scalar is a number in floating point notation, an infinity or not a number. -/
def isReal (s : String) : Bool :=
  let unsigned :=
    match s.toList with
    | '+' :: r => r
    | '-' :: r => r
    | r => r
  if [".inf", ".Inf", ".INF"].contains (String.ofList unsigned) then true
  else if [".nan", ".NaN", ".NAN"].contains s then true
  else (Text.Scientific.ofText? unsigned).any isFinite

/-- Whether a scalar is a run of digits with a zero in front, after a sign or none. Such a scalar
is text. -/
def isZeroLed (s : String) : Bool :=
  let digits :=
    match s.toList with
    | '-' :: r => r
    | '+' :: r => r
    | r => r
  1 < digits.length && digits.head? == some '0' && digits.all Char.isDigit

/-- Whether a whole number fits into a signed or unsigned word of so many bits. -/
def fits (bits : Nat) (minus : Bool) (magnitude : Nat) : Bool :=
  if minus then magnitude ≤ Nat.pow 2 (bits - 1) else magnitude < Nat.pow 2 bits

/-- The value of a whole number that fits into a word; larger ones stand for no value. -/
def wordValue? (i : Bool × Nat) : Option Value :=
  if fits 64 i.1 i.2 then some (.number (.integer i.1 i.2)) else none

/-- The value of a scalar that is neither a truth value nor a whole number. -/
def otherValue (s : String) : Value :=
  if !isZeroLed s && isReal s then .number (.real s) else .text s

/-- The value that a scalar stands for when nothing is known about what is wanted. Whole numbers
that fit into twice the length of a word, but not into a word, stand for no value. -/
def value? (s : String) : Option Value :=
  if s = "" ∨ isNull s then some .null
  else
    match bool? s with
    | some b => some (.bool b)
    | none =>
      match integer? s with
      | some i => if fits 128 i.1 i.2 then wordValue? i else some (otherValue s)
      | none => some (otherValue s)

end GroupPolicy.Plain

import GroupPolicy.Document.DecodeError
import GroupPolicy.Document.Shape
import GroupPolicy.Document.Value

namespace GroupPolicy

/-- How a value is read. -/
inductive Reading where
  /-- From the document itself. -/
  | direct
  /-- As a value that was taken in whole before it was known what is wanted. -/
  | buffered
  deriving DecidableEq, Repr

/-- A type whose values can be read from documents and written to them. A document is read in the order
of its text, and the first thing wrong is the one reported. -/
class Coded (α : Type) where
  /-- What is looked for in a document. -/
  shape : Shape
  /-- The value that a document describes. -/
  decode : Reading → Value → Except DecodeError α
  /-- The document that describes a value. -/
  encode : α → Value

namespace Coded

/-- The refusal of a value that is not of the kind expected. -/
def mistyped {α : Type} (v : Value) (expected : String) : Except DecodeError α :=
  match v with
  | .broken => .error .syntaxFault
  | .unreadable => .error .syntaxFault
  | v => .error (.mistyped v.described expected)

/-- A text. -/
def text (v : Value) (expected : String) : Except DecodeError String :=
  match v with
  | .text s => .ok s
  | v => mistyped v expected

/-- A truth value. -/
def truth (v : Value) : Except DecodeError Bool :=
  match v with
  | .bool b => .ok b
  | v => mistyped v "a boolean"

/-- A whole number between two bounds. -/
def integer (v : Value) (least greatest : Int) (expected : String) : Except DecodeError Int :=
  match v with
  | .number (.integer minus n) =>
    let i := Number.signed minus n
    if least ≤ i ∧ i ≤ greatest then .ok i else .error (.outOfRange v.described expected)
  | v => mistyped v expected

/-- The items of a list. -/
def items (v : Value) : Except DecodeError (List Value) :=
  match v with
  | .list vs => .ok vs
  | v => mistyped v "a sequence"

instance : Coded String where
  shape := .text
  decode _ v := text v "a string"
  encode := .text

instance : Coded Bool where
  shape := .truth
  decode _ v := truth v
  encode := .bool

instance : Coded UInt8 where
  shape := .integer false
  decode _ v := (integer v 0 255 "u8").map fun i => UInt8.ofNat i.toNat
  encode n := .int n.toNat

instance : Coded UInt16 where
  shape := .integer false
  decode _ v := (integer v 0 65535 "u16").map fun i => UInt16.ofNat i.toNat
  encode n := .int n.toNat

instance : Coded UInt32 where
  shape := .integer false
  decode _ v := (integer v 0 4294967295 "u32").map fun i => UInt32.ofNat i.toNat
  encode n := .int n.toNat

instance : Coded UInt64 where
  shape := .integer false
  decode _ v := (integer v 0 18446744073709551615 "u64").map fun i => UInt64.ofNat i.toNat
  encode n := .int n.toNat

instance : Coded Int64 where
  shape := .integer true
  decode _ v :=
    (integer v (-9223372036854775808) 9223372036854775807 "i64").map Int64.ofInt
  encode n := .int n.toInt

instance {α : Type} [Coded α] : Coded (List α) where
  shape := .list (shape α)
  decode r v := do (← items v).mapM (decode r)
  encode l := .list (l.map encode)

instance {α : Type} [Coded α] : Coded (Option α) where
  shape := .optional (shape α)
  decode r
    | .null => .ok none
    | v => some <$> decode r v
  encode
    | some a => encode a
    | none => .null

end Coded

end GroupPolicy

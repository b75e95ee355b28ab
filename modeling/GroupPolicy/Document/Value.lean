import GroupPolicy.Text.Quoted

namespace GroupPolicy

/-- A number in a document. A number with a fraction or an exponent, or too large for a word, is
only ever named in a complaint, so its text is all that is kept of it. -/
inductive Number where
  /-- A whole number: whether a minus sign stands in front of it, and its magnitude. -/
  | integer (minus : Bool) (magnitude : Nat)
  /-- Any other number, as a complaint writes it. -/
  | real (shown : String)
  deriving DecidableEq, Repr

/-- The number of a sign and a magnitude. -/
def Number.signed (minus : Bool) (magnitude : Nat) : Int :=
  if minus then -(magnitude : Int) else magnitude

/-- A value in a document. -/
inductive Value where
  | null
  | bool (b : Bool)
  | number (n : Number)
  | text (s : String)
  | list (items : List Value)
  /-- Entries in the order of the text; keys may repeat. -/
  | record (entries : List (Value × Value))
  /-- A piece of text that can be passed over but stands for no value: a number out of range, half
  of a surrogate pair, or a value that is nested too deeply. -/
  | unreadable
  /-- The place where the text stops making sense. -/
  | broken
  deriving Repr, Inhabited

namespace Value

/-- A record with text keys. -/
def object (fields : List (String × Value)) : Value :=
  .record (fields.map fun (name, v) => (.text name, v))

/-- A whole number. -/
def int (i : Int) : Value := .number (.integer (decide (i < 0)) i.natAbs)

mutual

/-- Whether the text made sense to its end, so that the value can be passed over. -/
def isWhole : Value → Bool
  | .list items => areWhole items
  | .record entries => entriesWhole entries
  | .broken => false
  | _ => true

/-- Whether all items are whole. -/
def areWhole : List Value → Bool
  | [] => true
  | v :: r => isWhole v && areWhole r

/-- Whether all keys and values are whole. -/
def entriesWhole : List (Value × Value) → Bool
  | [] => true
  | (k, v) :: r => isWhole k && isWhole v && entriesWhole r

end

mutual

/-- Whether every part of the text stands for a value. -/
def isReadable : Value → Bool
  | .list items => areReadable items
  | .record entries => entriesReadable entries
  | .broken => false
  | .unreadable => false
  | _ => true

/-- Whether all items are readable. -/
def areReadable : List Value → Bool
  | [] => true
  | v :: r => isReadable v && areReadable r

/-- Whether all keys and values are readable. -/
def entriesReadable : List (Value × Value) → Bool
  | [] => true
  | (k, v) :: r => isReadable k && isReadable v && entriesReadable r

end

/-- How a complaint names a value. -/
def described : Value → String
  | .null => "null"
  | .bool b => s!"boolean `{b}`"
  | .number (.integer minus n) =>
    let i := Number.signed minus n
    s!"integer `{i}`"
  | .number (.real shown) => s!"floating point `{shown}`"
  | .text s => "string " ++ Text.quoted s
  | .list _ => "sequence"
  | .record _ => "map"
  | .unreadable => "nothing"
  | .broken => "nothing"

theorem signed_natAbs (i : Int) : Number.signed (decide (i < 0)) i.natAbs = i := by
  unfold Number.signed
  split
  next h => exact (Int.eq_neg_natAbs_of_nonpos (Int.le_of_lt (of_decide_eq_true h))).symm
  next h => exact Int.natAbs_of_nonneg (Int.not_lt.1 fun hi => h (decide_eq_true hi))

end Value

end GroupPolicy

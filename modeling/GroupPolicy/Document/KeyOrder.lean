import GroupPolicy.Document.Value

namespace GroupPolicy.Value

/-- The name of an entry. -/
def keyText : Value → String
  | .text s => s
  | _ => ""

/-- An entry put into a list that is ordered by name. -/
def placeEntry (e : Value × Value) : List (Value × Value) → List (Value × Value)
  | [] => [e]
  | x :: r => if keyText e.1 < keyText x.1 then e :: x :: r else x :: placeEntry e r

mutual

/-- The document with the entries of all its records by name. -/
def keyOrdered : Value → Value
  | .list items => .list (itemsKeyOrdered items)
  | .record entries => .record (entriesKeyOrdered entries)
  | v => v

/-- The items with the entries of all their records by name. -/
def itemsKeyOrdered : List Value → List Value
  | [] => []
  | v :: r => keyOrdered v :: itemsKeyOrdered r

/-- The entries by name, and the same for the records in them. -/
def entriesKeyOrdered : List (Value × Value) → List (Value × Value)
  | [] => []
  | (k, v) :: r => placeEntry (k, keyOrdered v) (entriesKeyOrdered r)

end

end GroupPolicy.Value

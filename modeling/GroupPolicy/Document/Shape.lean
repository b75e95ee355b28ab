namespace GroupPolicy

/-- What is looked for in a document. Where a scalar does not say what it is, the shape decides what it
is read as; and what no shape asks for is not looked at. -/
inductive Shape where
  | text
  | truth
  /-- A whole number; `signed` says that it may be negative. -/
  | integer (signed : Bool)
  /-- The name of an alternative. -/
  | choice
  | list (item : Shape)
  /-- What `shape` looks for, or nothing. -/
  | optional (shape : Shape)
  /-- Entries of given names; all others are passed over. -/
  | record (fields : List (String × Shape))
  /-- Entries of given names, with all others taken in whole. -/
  | embedding (fields : List (String × Shape))
  /-- The name of an alternative in an entry of a given name, or first in a list, with all others
  taken in whole. -/
  | tagged (field : String)
  /-- Anything, taken in whole. -/
  | whole
  deriving Repr, Inhabited

/-- What is looked for where there is something. -/
def Shape.present : Shape → Shape
  | .optional shape => shape.present
  | shape => shape

end GroupPolicy

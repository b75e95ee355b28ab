import GroupPolicy.Document.Yaml.Tag

namespace GroupPolicy.Yaml

/-- How a scalar is written. -/
inductive Style where
  | plain
  | quoted
  | literal
  | folded
  deriving DecidableEq, Repr, Inhabited

/-- A scalar. -/
structure Scalar where
  style : Style
  tag : Option Tag
  text : String
  deriving Repr, Inhabited

/-- A node. -/
inductive Node where
  | scalar (s : Scalar)
  | list (tag : Option Tag) (items : List Node)
  | record (tag : Option Tag) (entries : List (Node × Node))
  /-- The node that has been given a number. -/
  | alias (number : Nat)
  deriving Repr, Inhabited

namespace Node

/-- A node where nothing is written but perhaps a tag. -/
def nothing (tag : Option Tag) : Node := .scalar ⟨.plain, tag, ""⟩

mutual

/-- How many parts a node consists of: a list and a record have a beginning and an end. -/
def parts : Node → Nat
  | .list _ items => itemParts items + 2
  | .record _ entries => entryParts entries + 2
  | _ => 1

/-- How many parts items consist of. -/
def itemParts : List Node → Nat
  | [] => 0
  | n :: r => parts n + itemParts r

/-- How many parts entries consist of. -/
def entryParts : List (Node × Node) → Nat
  | [] => 0
  | (k, n) :: r => parts k + parts n + entryParts r

end

end Node

/-- A document: its outermost node, and the nodes that have been given numbers. -/
structure Document where
  root : Node
  /-- Nodes by number, the one that starts last first; only the first of a number counts. -/
  numbered : List (Nat × Node)
  deriving Repr, Inhabited

/-- The node of a number. -/
def Document.node? (d : Document) (number : Nat) : Option Node :=
  (d.numbered.find? fun e => e.1 == number).map (·.2)

end GroupPolicy.Yaml

import GroupPolicy.Document.Coded
import GroupPolicy.Document.Plain
import GroupPolicy.Document.Yaml.Node

namespace GroupPolicy.Yaml

namespace Scalar

/-- Whether nothing is written. -/
def isEmpty (s : Scalar) : Bool := s.style == .plain && s.text == ""

/-- Whether the absent value is written, or nothing. -/
def isAbsent (s : Scalar) : Bool := s.style == .plain && (s.text == "" || Plain.isNull s.text)

/-- Whether a scalar may stand for a value of a kind with a tag: without quotes it may, and with
the tag also as a block that keeps its line breaks. -/
def maySpell (s : Scalar) (tag : Tag) : Bool :=
  s.style == .plain || (s.style == .literal && s.tag == some tag)

/-- The whole number that a scalar spells, with a minus sign only where there may be one. -/
def integer? (s : Scalar) (signed : Bool) : Option (Bool × Nat) :=
  if signed then Plain.integer? s.text else (Plain.natural? s.text).map fun n => (false, n)

/-- The value of a scalar without a tag: one in quotes or in a block is a text. -/
def untagged? (s : Scalar) : Option Value :=
  if s.style = .plain then Plain.value? s.text else some (.text s.text)

/-- The value of a scalar about which nothing is known. A tag of the application fits nothing, but
if its name is no text, it says nothing. -/
def whole? (s : Scalar) : Option Value :=
  match s.tag with
  | some (.own _) => none
  | some .truth => (Plain.bool? s.text).map .bool
  | some .integer => (Plain.integer? s.text).bind Plain.wordValue?
  | some .real => if Plain.isReal s.text then some (.number (.real s.text)) else none
  | some .null => if Plain.isNull s.text then some .null else none
  | some .other => some (.text s.text)
  | some .unnamed => s.untagged?
  | none => s.untagged?

/-- The name of an alternative: the text, or a tag of the application on a scalar that says no
more. -/
def name? (s : Scalar) : Option String :=
  match s.tag with
  | some (.own name) => if s.isAbsent then some name else none
  | _ => some s.text

/-- Whether a scalar is the absent value where there may be none; `none` if its tag says that it
is, and its text says otherwise. -/
def absent? (s : Scalar) : Option Bool :=
  if s.style ≠ .plain then some false
  else
    match s.tag with
    | some .null => if Plain.isNull s.text then some true else none
    | some _ => some false
    | none => some s.isAbsent

/-- The value of a scalar where a shape is looked for. -/
def value? (s : Scalar) : Shape → Option Value
  | .text => some (.text s.text)
  | .truth => if s.maySpell .truth then (Plain.bool? s.text).map .bool else none
  | .integer signed =>
    if s.maySpell .integer then
      (s.integer? signed).map fun (minus, n) => .number (.integer minus n)
    else none
  | .choice => s.name?.map .text
  | .list _ => if s.isEmpty then some (.list []) else none
  | .record _ => if s.isEmpty then some (.record []) else none
  | .embedding _ => if s.isEmpty then some (.record []) else none
  | .optional shape => do if ← s.absent? then return .null else s.value? shape
  | .tagged _ => none
  | .whole => s.whole?

end Scalar

/-- Whether a tag is one of the application. -/
def isOwn : Option Tag → Bool
  | some (.own _) => true
  | _ => false

/-- Readers that may follow so many more aliases. -/
abbrev Following (α : Type) : Type := StateT Nat Option α

/-- Reads entries about which nothing is known but that the value at a name is a text. -/
def taggedEntries (look : Shape → Node → Following Value) (field : String)
    (entries : List (Node × Node)) : Following (List (Value × Value)) :=
  entries.mapM fun (k, n) => do
    match ← look .whole k with
    | .text name => return (.text name, ← look (if name = field then .text else .whole) n)
    | k => return (k, ← look .whole n)

namespace Document

variable (d : Document)

/-- The node that an alias leads to, or the node itself. -/
def landing (n : Node) : Following Node := do
  match n with
  | .alias number =>
    match ← get with
    | 0 => failure
    | left + 1 =>
      set left
      d.node? number
  | n => return n

/-- The text of a scalar, which is read as such. -/
def text (n : Node) : Following String := do
  match ← d.landing n with
  | .scalar s => return s.text
  | _ => failure

/-- Reads entries of given names; `look` reads the values, and `other` the shape of an entry of
another name, if such entries are looked at. -/
def namedEntries (look : Shape → Node → Following Value) (fields : List (String × Shape))
    (other : Option Shape) (entries : List (Node × Node)) : Following (List (Value × Value)) :=
  entries.filterMapM fun (k, n) => do
    let name ← d.text k
    match ((fields.find? fun e => e.1 == name).map (·.2)).or other with
    | some shape => return some (.text name, ← look shape n)
    | none => return none

/-- The value of a node where a shape is looked for; collections lie at most so many deep. -/
def valueWithin : Nat → Shape → Node → Following Value
  | depth, shape, n => do
    match ← d.landing n with
    | .scalar s => s.value? shape
    | .list tag items =>
      match depth with
      | 0 => failure
      | depth + 1 =>
        match shape.present with
        | .list item => return .list (← items.mapM fun n => valueWithin depth item n)
        | .whole =>
          if isOwn tag then failure
          else return .list (← items.mapM fun n => valueWithin depth .whole n)
        | .tagged _ =>
          match isOwn tag, items with
          | true, _ => failure
          | false, [] => return .list []
          | false, first :: rest =>
            let first ← d.text first
            return .list (.text first :: (← rest.mapM fun n => valueWithin depth .whole n))
        | _ => failure
    | .record tag entries =>
      match depth with
      | 0 => failure
      | depth + 1 =>
        let look (shape : Shape) (n : Node) : Following Value := valueWithin depth shape n
        match shape.present with
        | .record fields => return .record (← d.namedEntries look fields none entries)
        | .embedding fields => return .record (← d.namedEntries look fields (some .whole) entries)
        | .tagged field =>
          if isOwn tag then failure else return .record (← taggedEntries look field entries)
        | .whole =>
          if isOwn tag then failure
          else
            return .record (← entries.mapM fun (k, n) => return (← look .whole k, ← look .whole n))
        | _ => failure
    | .alias _ => failure

/-- A value nested in more collections than this is not read. -/
def maxDepth : Nat := 128

/-- How often aliases are followed for each part of a document. -/
def maxRepetition : Nat := 100

/-- The value of a document where a shape is looked for. Aliases in nodes that no shape asks for may
lead anywhere; those in the others are followed only so often. -/
def value? (shape : Shape) : Option Value :=
  (d.valueWithin maxDepth shape d.root).run' (maxRepetition * d.root.parts)

end Document

end GroupPolicy.Yaml

import GroupPolicy.Document.Record

namespace GroupPolicy

/-- The alternative that a name stands for. -/
def chosen {α : Type} (table : List (String × α)) (name : String) : Except DecodeError α :=
  match table.find? fun e => e.1 == name with
  | some e => .ok e.2
  | none => .error (.unknownVariant name (table.map (·.1)))

/-- Reads a member of an enumeration: its name, or a record of one entry whose key is the name and
whose value is null. -/
def choice {α : Type} (table : List (String × α)) (v : Value) : Except DecodeError α :=
  match v with
  | .text name => chosen table name
  | .record ((.text name, given) :: rest) => do
    let a ← chosen table name
    match given with
    | .null => if rest.isEmpty then return a else .error .syntaxFault
    | v => Coded.mistyped v "unit"
  | _ => .error .syntaxFault

/-- A value taken in whole. -/
def buffer (v : Value) : Except DecodeError Value :=
  if v.isReadable then .ok v else .error .syntaxFault

/-- The tag and the other entries of a tagged record, as far as it has been read. -/
structure TagScan (τ : Type) where
  /-- The alternative, once the tag has been read. -/
  tag : Option τ
  /-- The other entries, the last one first. -/
  others : List (Value × Value)

/-- Reads one entry of a tagged record. -/
def TagScan.entry {τ : Type} (field : String) (table : List (String × τ)) (scan : TagScan τ)
    (e : Value × Value) : Except DecodeError (TagScan τ) := do
  match (← buffer e.1) with
  | .text name =>
    if name = field then
      if scan.tag.isSome then .error (.duplicateField field)
      else
        let tag ← chosen table (← Coded.text e.2 "variant identifier")
        return { scan with tag := some tag }
    else return { scan with others := (.text name, ← buffer e.2) :: scan.others }
  | k => return { scan with others := (k, ← buffer e.2) :: scan.others }

/-- Reads a tagged record: the alternative it belongs to, and a buffered value that holds the
fields of that alternative. The tag may stand anywhere among the entries of a record, and first in
a list. -/
def tagged {τ : Type} (title field : String) (table : List (String × τ)) (v : Value) :
    Except DecodeError (τ × Value) :=
  match v with
  | .record entries => do
    let scan ← entries.foldlM (TagScan.entry field table) ⟨none, []⟩
    match scan.tag with
    | some tag => return (tag, .record scan.others.reverse)
    | none => .error (.missingField field)
  | .list [] => .error (.missingField field)
  | .list (first :: rest) => do
    let tag ← chosen table (← Coded.text first "variant identifier")
    return (tag, .list (← rest.mapM buffer))
  | v => Coded.mistyped v ("internally tagged enum " ++ title)

end GroupPolicy

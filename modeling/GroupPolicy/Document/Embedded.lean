import GroupPolicy.Document.Choice

namespace GroupPolicy.Fields

variable {σ τ α β : Type}

/-- Reads one entry: `others` holds the entries that are no fields of the outer record, the last
one first. -/
def outerEntry (outer : Fields σ α) (r : Reading) (slots : σ × List (Value × Value))
    (e : Value × Value) : Except DecodeError (σ × List (Value × Value)) := do
  let name ← keyName outer.names r e.1
  match outer.fill r name e.2 slots.1 with
  | some result => return (← result, slots.2)
  | none => return (slots.1, (.text name, ← buffer e.2) :: slots.2)

/-- Reads both records from their common entries. -/
def ofSharedEntries (outer : Fields σ α) (embedded : Fields τ β) (r : Reading)
    (entries : List (Value × Value)) : Except DecodeError (α × β) := do
  let (slots, others) ← entries.foldlM (outer.outerEntry r) (outer.blank, [])
  let a ← outer.finish slots
  let b ← embedded.ofEntries .buffered others.reverse
  return (a, b)

/-- Reads a record with another one embedded in it; `title` is what the outer record is called. The
fields of the outer record are read where they stand, and those of the embedded one when the outer one
has ended. -/
def readShared (outer : Fields σ α) (embedded : Fields τ β) (title : String) (r : Reading)
    (v : Value) : Except DecodeError (α × β) :=
  match v with
  | .record entries => outer.ofSharedEntries embedded r entries
  | v => Coded.mistyped v title

end GroupPolicy.Fields

import GroupPolicy.Document.Coded

namespace GroupPolicy

/-- One field of a record. -/
structure Field (α : Type) where
  /-- The name of the field. -/
  name : String
  /-- What is looked for in its value. -/
  shape : Shape
  /-- How its value is read. -/
  decode : Reading → Value → Except DecodeError α
  /-- What stands in for the value of an absent field, if it may be absent. -/
  absent : Option α

/-- The fields of a record in the order of their declaration: `σ` holds what has been read of them
so far, and `α` what they amount to. -/
structure Fields (σ α : Type) where
  /-- The names of the fields, and what is looked for in their values. -/
  shapes : List (String × Shape)
  /-- Nothing has been read. -/
  blank : σ
  /-- Reads the value of a field; `none` if no field has the name. -/
  fill : Reading → String → Value → σ → Option (Except DecodeError σ)
  /-- The values of all fields at the end of a record. -/
  finish : σ → Except DecodeError α
  /-- Reads the fields from the items of a list, by position; the first argument says what is wrong
  with a list that ends before the field of a given position. -/
  positional : (Nat → DecodeError) → Reading → Nat → List Value →
    Except DecodeError (α × List Value)

namespace Fields

variable {σ τ α β : Type}

/-- The names of the fields. -/
def names (s : Fields σ α) : List String := s.shapes.map (·.1)

/-- A single field. -/
def one (f : Field α) : Fields (Option α) α where
  shapes := [(f.name, f.shape)]
  blank := none
  fill r name v slot :=
    if name = f.name then
      match slot with
      | some _ => some (.error (.duplicateField f.name))
      | none => some (some <$> f.decode r v)
    else none
  finish
    | some a => .ok a
    | none =>
      match f.absent with
      | some a => .ok a
      | none => .error (.missingField f.name)
  positional short r i
    | v :: rest => (f.decode r v).map fun a => (a, rest)
    | [] =>
      match f.absent with
      | some a => .ok (a, [])
      | none => .error (short i)

/-- Fields followed by further fields. -/
def and (s : Fields σ α) (t : Fields τ β) : Fields (σ × τ) (α × β) where
  shapes := s.shapes ++ t.shapes
  blank := (s.blank, t.blank)
  fill r name v slots :=
    match s.fill r name v slots.1 with
    | some result => some (result.map fun a => (a, slots.2))
    | none => (t.fill r name v slots.2).map fun result => result.map fun b => (slots.1, b)
  finish slots := do
    let a ← s.finish slots.1
    let b ← t.finish slots.2
    return (a, b)
  positional short r i vs := do
    let (a, rest) ← s.positional short r i vs
    let (b, rest) ← t.positional short r (i + s.names.length) rest
    return ((a, b), rest)

/-- The name that a key gives to an entry. A buffered key may also be the place of a field among
the declared ones. -/
def keyName (names : List String) (r : Reading) (k : Value) : Except DecodeError String :=
  match r, k with
  | _, .text name => .ok name
  | .buffered, .number (.integer false n) => .ok (names.getD n "")
  | _, _ => .error .syntaxFault

/-- Reads one entry of a record. -/
def entry (s : Fields σ α) (r : Reading) (slots : σ) (e : Value × Value) :
    Except DecodeError σ := do
  let name ← keyName s.names r e.1
  match s.fill r name e.2 slots with
  | some result => result
  | none => if e.2.isWhole then .ok slots else .error .syntaxFault

/-- Reads a record from its entries. What is wrong with an entry is reported where it stands, and a
missing field at the end; entries of other names are passed over. -/
def ofEntries (s : Fields σ α) (r : Reading) (entries : List (Value × Value)) :
    Except DecodeError α := do
  s.finish (← entries.foldlM (s.entry r) s.blank)

/-- A count of things, in words. -/
def counted (n : Nat) (thing : String) : String :=
  let plural := if n = 1 then "" else "s"
  s!"{n} {thing}{plural}"

/-- Reads a record from a list of its fields; `title` is what the record is called. A list with
items left over is a fault of the text, or of the buffered list. -/
def ofItems (s : Fields σ α) (title : String) (r : Reading) (vs : List Value) :
    Except DecodeError α := do
  let short (i : Nat) : DecodeError :=
    .length i (title ++ " with " ++ counted s.names.length "element")
  let (a, rest) ← s.positional short r 0 vs
  if rest.isEmpty then return a
  else if r = .buffered then
    .error (.length vs.length (counted (vs.length - rest.length) "element" ++ " in sequence"))
  else .error .syntaxFault

/-- Reads a record; `title` is what the record is called. -/
def read (s : Fields σ α) (title : String) (r : Reading) (v : Value) : Except DecodeError α :=
  match v with
  | .record entries => s.ofEntries r entries
  | .list vs => s.ofItems title r vs
  | v => Coded.mistyped v title

end Fields

/-- A field that must be given. -/
def required (α : Type) [Coded α] (name : String) : Fields (Option α) α :=
  .one ⟨name, Coded.shape α, Coded.decode, none⟩

/-- A field that may be absent or hold nothing. -/
def optional (α : Type) [Coded α] (name : String) : Fields (Option (Option α)) (Option α) :=
  .one ⟨name, Coded.shape (Option α), Coded.decode, some none⟩

/-- A field with a value of its own when it is absent. -/
def defaulted (α : Type) [Coded α] (name : String) (value : α) : Fields (Option α) α :=
  .one ⟨name, Coded.shape α, Coded.decode, some value⟩

/-- The entry of a field in a written record. -/
def written {α : Type} [Coded α] (name : String) (a : α) : List (String × Value) :=
  [(name, Coded.encode a)]

/-- The entry of a field that is left out when it has no value. -/
def writtenSome {α : Type} [Coded α] (name : String) : Option α → List (String × Value)
  | some a => [(name, Coded.encode a)]
  | none => []

/-- The entry of a field that is left out when it is an empty list. -/
def writtenNonempty {α : Type} [Coded α] (name : String) : List α → List (String × Value)
  | [] => []
  | l => [(name, Coded.encode l)]

end GroupPolicy

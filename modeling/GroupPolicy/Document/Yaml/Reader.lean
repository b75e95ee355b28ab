import GroupPolicy.Document.Yaml.Shaped
import GroupPolicy.Document.Yaml.Token

namespace GroupPolicy.Yaml

/-- The names given to nodes so far. A node that is given a name gets as its number how many
different names there were before, so a name that is given again moves on to another number, which
a later name may share. -/
structure Anchors where
  /-- The number of each name, by which aliases go. -/
  numbers : List (String × Nat) := []
  /-- The nodes with their numbers, in the order in which they start. -/
  nodes : Array (Nat × Node) := #[]

namespace Anchors

/-- The number that a name stands for. -/
def number? (a : Anchors) (name : String) : Option Nat :=
  (a.numbers.find? fun e => e.1 == name).map (·.2)

/-- A node is given a name where it starts. -/
def start (a : Anchors) (name : String) : Anchors :=
  let number := a.numbers.length
  { numbers := (name, number) :: a.numbers.filter fun e => e.1 != name
    nodes := a.nodes.push (number, .nothing none) }

/-- The node that started as the one at `place` has been read. -/
def complete (a : Anchors) (place : Nat) (n : Node) : Anchors :=
  { a with nodes := a.nodes.modify place fun e => (e.1, n) }

end Anchors

/-- What has been read, with the tokens after it and the names that are known then. -/
structure Parsed (α : Type) where
  value : α
  rest : List Token
  anchors : Anchors

/-- Whether a token cannot start the value of an entry in a block. -/
def endsBlockEntry : Token → Bool
  | .blockEntry => true
  | .key => true
  | .value => true
  | .blockEnd => true
  | _ => false

/-- Whether a token cannot start a key or a value in a block. -/
def endsBlockPair : Token → Bool
  | .key => true
  | .value => true
  | .blockEnd => true
  | _ => false

/-- Whether a token cannot start a key or a value in brackets. -/
def endsFlowPair : Token → Bool
  | .value => true
  | .flowEntry => true
  | .flowMappingEnd => true
  | _ => false

/-- What stands in front of a node. -/
structure Properties where
  anchor : Option String := none
  tag : Option Tag := none

/-- Whether nothing stands in front of a node. -/
def Properties.isEmpty (p : Properties) : Bool := p.anchor.isNone && p.tag.isNone

/-- The tag of a handle and a name. -/
def tag? (handles : Handles) (handle : String) (name : List UInt8) : Option Tag :=
  (fullName? handles handle name).map Tag.ofOctets

/-- The name and the tag in front of a node, in either order, and the tokens after them. -/
def takeProperties (handles : Handles) : List Token → Option (Properties × List Token)
  | .anchor a :: .tag handle name :: ts => do
    return ({ anchor := some a, tag := some (← tag? handles handle name) }, ts)
  | .tag handle name :: .anchor a :: ts => do
    return ({ anchor := some a, tag := some (← tag? handles handle name) }, ts)
  | .anchor a :: ts => some ({ anchor := some a }, ts)
  | .tag handle name :: ts => do return ({ tag := some (← tag? handles handle name) }, ts)
  | ts => some ({}, ts)

/-- A node where none is written. -/
def absent (ts : List Token) (anchors : Anchors) : Parsed Node := ⟨.nothing none, ts, anchors⟩

mutual

/-- Reads a node. Block collections start only where `block` says so, and a sequence of dashes
without indentation only where `indentless` says so. -/
def readNode (handles : Handles) : Nat → Bool → Bool → Anchors → List Token → Option (Parsed Node)
  | 0, _, _, _, _ => none
  | _ + 1, _, _, anchors, .alias name :: ts => do
    return ⟨.alias (← anchors.number? name), ts, anchors⟩
  | fuel + 1, block, indentless, anchors, ts => do
    let (properties, ts) ← takeProperties handles ts
    match properties.anchor with
    | none => readContent handles fuel block indentless properties anchors ts
    | some name =>
      let p ← readContent handles fuel block indentless properties (anchors.start name) ts
      return { p with anchors := p.anchors.complete anchors.nodes.size p.value }

/-- Reads a node behind its name and its tag: these alone stand for an empty scalar. -/
def readContent (handles : Handles) :
    Nat → Bool → Bool → Properties → Anchors → List Token → Option (Parsed Node)
  | 0, _, _, _, _, _ => none
  | fuel + 1, block, indentless, properties, anchors, ts =>
    let tag := properties.tag
    let other : Option (Parsed Node) :=
      if properties.isEmpty then none else some ⟨.nothing tag, ts, anchors⟩
    match ts with
    | .scalar style text :: ts => some ⟨.scalar ⟨style, tag, text⟩, ts, anchors⟩
    | .flowSequenceStart :: ts => do
      let p ← readFlowItems handles fuel true anchors ts
      return { p with value := .list tag p.value }
    | .flowMappingStart :: ts => do
      let p ← readFlowPairs handles fuel true anchors ts
      return { p with value := .record tag p.value }
    | .blockEntry :: _ =>
      if indentless then do
        let p ← readDashes handles fuel anchors ts
        return { p with value := .list tag p.value }
      else other
    | .blockSequenceStart :: ts =>
      if block then do
        let p ← readBlockItems handles fuel anchors ts
        return { p with value := .list tag p.value }
      else other
    | .blockMappingStart :: ts =>
      if block then do
        let p ← readBlockPairs handles fuel anchors ts
        return { p with value := .record tag p.value }
      else other
    | _ => other

/-- Reads the items of a block sequence, and its end. -/
def readBlockItems (handles : Handles) :
    Nat → Anchors → List Token → Option (Parsed (List Node))
  | 0, _, _ => none
  | fuel + 1, anchors, .blockEntry :: ts => do
    let item ←
      match ts with
      | .blockEntry :: _ => some (absent ts anchors)
      | .blockEnd :: _ => some (absent ts anchors)
      | ts => readNode handles fuel true false anchors ts
    let p ← readBlockItems handles fuel item.anchors item.rest
    return { p with value := item.value :: p.value }
  | _ + 1, anchors, .blockEnd :: ts => some ⟨[], ts, anchors⟩
  | _ + 1, _, _ => none

/-- Reads the items of a sequence without indentation, which ends where there are no dashes. -/
def readDashes (handles : Handles) : Nat → Anchors → List Token → Option (Parsed (List Node))
  | 0, _, _ => none
  | fuel + 1, anchors, .blockEntry :: ts => do
    let item ←
      if ts.head?.any endsBlockEntry then some (absent ts anchors)
      else readNode handles fuel true false anchors ts
    let p ← readDashes handles fuel item.anchors item.rest
    return { p with value := item.value :: p.value }
  | _ + 1, anchors, ts => some ⟨[], ts, anchors⟩

/-- Reads a key or a value of a block mapping after its indicator. -/
def readBlockPart (handles : Handles) : Nat → Anchors → List Token → Option (Parsed Node)
  | 0, _, _ => none
  | fuel + 1, anchors, ts =>
    if ts.head?.any endsBlockPair then some (absent ts anchors)
    else readNode handles fuel true true anchors ts

/-- Reads the entries of a block mapping, and its end. -/
def readBlockPairs (handles : Handles) :
    Nat → Anchors → List Token → Option (Parsed (List (Node × Node)))
  | 0, _, _ => none
  | fuel + 1, anchors, .key :: ts => do
    let k ← readBlockPart handles fuel anchors ts
    let v ←
      match k.rest with
      | .value :: ts => readBlockPart handles fuel k.anchors ts
      | ts => some (absent ts k.anchors)
    let p ← readBlockPairs handles fuel v.anchors v.rest
    return { p with value := (k.value, v.value) :: p.value }
  | _ + 1, anchors, .blockEnd :: ts => some ⟨[], ts, anchors⟩
  | _ + 1, _, _ => none

/-- Reads the items of a sequence in brackets, and its end; `first` says that there has been none
yet. A key among the items makes a mapping of one entry. -/
def readFlowItems (handles : Handles) :
    Nat → Bool → Anchors → List Token → Option (Parsed (List Node))
  | 0, _, _, _ => none
  | _ + 1, _, anchors, .flowSequenceEnd :: ts => some ⟨[], ts, anchors⟩
  | fuel + 1, first, anchors, ts => do
    let ts ←
      match first, ts with
      | true, ts => some ts
      | false, .flowEntry :: ts => some ts
      | false, _ => none
    match ts with
    | .flowSequenceEnd :: ts => return ⟨[], ts, anchors⟩
    | .key :: ts =>
      let pair ← readFlowItemPair handles fuel anchors ts
      let p ← readFlowItems handles fuel false pair.anchors pair.rest
      return { p with value := .record none [pair.value] :: p.value }
    | ts =>
      let item ← readNode handles fuel false false anchors ts
      let p ← readFlowItems handles fuel false item.anchors item.rest
      return { p with value := item.value :: p.value }

/-- Reads the entry that stands as an item in brackets. -/
def readFlowItemPair (handles : Handles) :
    Nat → Anchors → List Token → Option (Parsed (Node × Node))
  | 0, _, _ => none
  | fuel + 1, anchors, ts => do
    let k ←
      match ts with
      | .value :: ts => some (absent ts anchors)
      | .flowEntry :: ts => some (absent ts anchors)
      | .flowSequenceEnd :: ts => some (absent ts anchors)
      | ts => readNode handles fuel false false anchors ts
    let v ←
      match k.rest with
      | .value :: .flowEntry :: ts => some (absent (.flowEntry :: ts) k.anchors)
      | .value :: .flowSequenceEnd :: ts => some (absent (.flowSequenceEnd :: ts) k.anchors)
      | .value :: ts => readNode handles fuel false false k.anchors ts
      | ts => some (absent ts k.anchors)
    return ⟨(k.value, v.value), v.rest, v.anchors⟩

/-- Reads the entries of a mapping in brackets, and its end; `first` says that there has been none
yet. -/
def readFlowPairs (handles : Handles) :
    Nat → Bool → Anchors → List Token → Option (Parsed (List (Node × Node)))
  | 0, _, _, _ => none
  | _ + 1, _, anchors, .flowMappingEnd :: ts => some ⟨[], ts, anchors⟩
  | fuel + 1, first, anchors, ts => do
    let ts ←
      match first, ts with
      | true, ts => some ts
      | false, .flowEntry :: ts => some ts
      | false, _ => none
    match ts with
    | .flowMappingEnd :: ts => return ⟨[], ts, anchors⟩
    | .key :: ts =>
      let k ←
        if ts.head?.any endsFlowPair then some (absent ts anchors)
        else readNode handles fuel false false anchors ts
      let v ←
        match k.rest with
        | .value :: ts =>
          if ts.head?.any fun t => t != .value && endsFlowPair t then some (absent ts k.anchors)
          else readNode handles fuel false false k.anchors ts
        | ts => some (absent ts k.anchors)
      let p ← readFlowPairs handles fuel false v.anchors v.rest
      return { p with value := (k.value, v.value) :: p.value }
    | ts =>
      let k ← readNode handles fuel false false anchors ts
      let p ← readFlowPairs handles fuel false k.anchors k.rest
      return { p with value := (k.value, .nothing none) :: p.value }

end

/-- What the lines in front of a document declare. -/
structure Prologue where
  /-- Whether a version of the notation has been asked for. -/
  versioned : Bool := false
  handles : Handles := []

/-- Whether a version of the notation is known. -/
def isKnownVersion (major minor : Nat) : Bool := major == 1 && (minor == 1 || minor == 2)

/-- Reads the lines in front of a document, which must start after them: what they declare, and the
tokens of the document. -/
def readPrologue (p : Prologue) : List Token → Option (Prologue × List Token)
  | .version major minor :: ts =>
    if p.versioned || !isKnownVersion major minor then none
    else readPrologue { p with versioned := true } ts
  | .handle handle name :: ts =>
    if p.handles.any fun e => e.1 == handle then none
    else readPrologue { p with handles := (handle, name) :: p.handles } ts
  | .documentStart :: ts => some (p, ts)
  | _ => none

/-- Whether a token belongs to the lines around documents. -/
def isOutside : Token → Bool
  | .version _ _ => true
  | .handle _ _ => true
  | .documentStart => true
  | .documentEnd => true
  | _ => false

/-- Whether nothing but the end of a document follows. -/
def isDone : List Token → Bool
  | [] => true
  | .documentEnd :: ts => isDone ts
  | _ => false

/-- The node of a document, and the tokens after it. A document that is opened may be empty; one
that is not has content. -/
def readRoot (handles : Handles) (opened : Bool) (ts : List Token) : Option (Parsed Node) :=
  if opened && ts.head?.all isOutside then some (absent ts {})
  else readNode handles (4 * ts.length + 4) true false {} ts

/-- Reads a text that holds one document; an empty text is an empty document. -/
def read? (s : String) : Option Document := do
  let ts ← tokens? s
  let p ←
    match ts with
    | [] => some (absent [] {})
    | t :: _ =>
      if isOutside t && t != .documentEnd then do
        let (prologue, content) ← readPrologue {} ts
        readRoot (prologue.handles ++ knownHandles) true content
      else readRoot knownHandles false ts
  if isDone p.rest then return ⟨p.value, p.anchors.nodes.toList.reverse⟩ else none

/-- Decodes a text. A fault anywhere in it refuses all of it, and every fault is the same. -/
def decode {α : Type} [Coded α] (s : String) : Except DecodeError α :=
  match (read? s).bind fun d => d.value? (Coded.shape α) with
  | some v => Coded.decode .direct v
  | none => .error .syntaxFault

end GroupPolicy.Yaml

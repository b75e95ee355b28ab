import GroupPolicy.Document.Yaml.Cursor
import GroupPolicy.Text.Hexadecimal

namespace GroupPolicy.Yaml

/-- What a tag says about a node. -/
inductive Tag where
  | null
  | truth
  | integer
  | real
  /-- A tag of the application, by the name after its mark; the mark alone is a name too. -/
  | own (name : String)
  /-- A tag of the application whose name is no text. -/
  | unnamed
  /-- Any other tag. -/
  | other
  deriving DecidableEq, Repr, Inhabited

/-- The octets of a text. -/
def octetsOf (s : String) : List UInt8 := s.toUTF8.data.toList

/-- The octets of a name, which ends at a zero if it holds one. -/
def untilZero (octets : List UInt8) : List UInt8 := octets.takeWhile (· != 0)

/-- The tag of a full name. -/
def Tag.ofOctets (octets : List UInt8) : Tag :=
  match String.fromUTF8? ⟨octets.toArray⟩ with
  | some "tag:yaml.org,2002:null" => .null
  | some "tag:yaml.org,2002:bool" => .truth
  | some "tag:yaml.org,2002:int" => .integer
  | some "tag:yaml.org,2002:float" => .real
  | some s =>
    match s.toList with
    | ['!'] => .own "!"
    | '!' :: name => .own (String.ofList name)
    | _ => .other
  | none => if octets.head? = some (UInt8.ofNat '!'.toNat) then .unnamed else .other

/-- What handles stand for. -/
abbrev Handles : Type := List (String × List UInt8)

/-- The handles that every document knows. -/
def knownHandles : Handles :=
  [("!", octetsOf "!"), ("!!", octetsOf "tag:yaml.org,2002:")]

/-- The full name of a handle and a name after it; the empty handle stands for nothing. -/
def fullName? (handles : Handles) (handle : String) (name : List UInt8) : Option (List UInt8) :=
  if handle = "" then some name
  else (handles.find? fun e => e.1 == handle).map fun e => e.2 ++ name

/-- The characters of names in tags. Where a name is verbatim, brackets and commas are among
them. -/
def isTagChar (verbatim : Bool) (c : Char) : Bool :=
  isNameChar c ||
    [';', '/', '?', ':', '@', '&', '=', '+', '$', '.', '!', '~', '*', '\'', '(', ')'].contains c ||
    (verbatim && [',', '[', ']'].contains c)

/-- How many octets the character takes that starts with an octet. -/
def leadLength? (octet : Nat) : Option Nat :=
  if octet < 0x80 then some 1
  else if 0xC0 ≤ octet ∧ octet < 0xE0 then some 2
  else if 0xE0 ≤ octet ∧ octet < 0xF0 then some 3
  else if 0xF0 ≤ octet ∧ octet < 0xF8 then some 4
  else none

/-- The octet of a percent sign and two digits, and the text after it. -/
def readOctet : List Char → Option (Nat × List Char)
  | '%' :: a :: b :: r => do return (16 * (← Text.hexDigit? a) + (← Text.hexDigit? b), r)
  | _ => none

/-- Reads octets that go on a character. -/
def readTrail : Nat → List Char → Option (List UInt8 × List Char)
  | 0, s => some ([], s)
  | n + 1, s => do
    let (octet, s) ← readOctet s
    if octet / 64 = 2 then
      let (octets, s) ← readTrail n s
      return (UInt8.ofNat octet :: octets, s)
    else none

/-- Reads the octets of one character that is written with percent signs. -/
def readOctets (s : List Char) : Option (List UInt8 × List Char) := do
  let (lead, s) ← readOctet s
  let (octets, s) ← readTrail ((← leadLength? lead) - 1) s
  return (UInt8.ofNat lead :: octets, s)

/-- Reads the name in a tag, as far as it goes. -/
def readTagName (verbatim : Bool) : Nat → List Char → Option (List UInt8 × List Char)
  | 0, s => some ([], s)
  | _ + 1, [] => some ([], [])
  | fuel + 1, c :: r =>
    if c = '%' then do
      let (octets, r) ← readOctets (c :: r)
      let (others, r) ← readTagName verbatim fuel r
      return (octets ++ others, r)
    else if isTagChar verbatim c then do
      let (octets, r) ← readTagName verbatim fuel r
      return (UInt8.ofNat c.toNat :: octets, r)
    else some ([], c :: r)

/-- The name at the front of a text; it must not be empty. -/
def takeTagName? (verbatim : Bool) (s : List Char) : Option (List UInt8 × List Char) := do
  let (name, r) ← readTagName verbatim (s.length + 1) s
  if name = [] then none else return (name, r)

/-- A handle and a name after it, as they are written, and the text after them. -/
structure WrittenTag where
  handle : String
  name : List UInt8
  rest : List Char

/-- The handle at the front of a text after its mark: characters of a name and another mark. -/
def takeHandle? (s : List Char) : Option (String × List Char) :=
  let word := s.takeWhile isNameChar
  match s.drop word.length with
  | '!' :: r => some (String.ofList ('!' :: word ++ ['!']), r)
  | _ => none

/-- Reads a tag after its mark. A mark alone is a name of its own. -/
def readTag (s : List Char) : Option WrittenTag :=
  match s with
  | '<' :: s => do
    let (name, r) ← takeTagName? true s
    match r with
    | '>' :: r => return ⟨"", untilZero name, r⟩
    | _ => none
  | s =>
    match takeHandle? s with
    | some (handle, s) => do
      let (name, r) ← takeTagName? false s
      return ⟨handle, untilZero name, r⟩
    | none => do
      let (name, r) ← readTagName false (s.length + 1) s
      let name := untilZero name
      return if name = [] then ⟨"", octetsOf "!", r⟩ else ⟨"!", name, r⟩

/-- Reads what declares a handle: the handle, and the name that it stands for. -/
def readHandle (s : List Char) : Option WrittenTag := do
  match s.dropWhile isBlank with
  | '!' :: s =>
    let (handle, s) := (takeHandle? s).getD ("!", s)
    if s.head?.any isBlank then
      let (name, r) ← takeTagName? true (s.dropWhile isBlank)
      if endsWord r then return ⟨handle, untilZero name, r⟩ else none
    else none
  | _ => none

end GroupPolicy.Yaml

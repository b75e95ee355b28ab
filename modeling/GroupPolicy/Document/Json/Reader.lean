import GroupPolicy.Document.Coded
import GroupPolicy.Document.Json.Number
import GroupPolicy.Text.Decimal
import GroupPolicy.Text.Hexadecimal

namespace GroupPolicy.Json

/-- A value and the text after it; there is no text after a value that is broken. -/
abbrev Scan : Type := Value × Option (List Char)

/-- The end of what can be read. -/
def stop : Scan := (.broken, none)

/-- The characters that may stand between the parts of a document. -/
def isSpace (c : Char) : Bool := c == ' ' || c == '\t' || c == '\n' || c == '\r'

/-- The text after any space. -/
def skipSpace (s : List Char) : List Char := s.dropWhile isSpace

/-- The character that a letter after a backslash stands for. -/
def shortEscape? : Char → Option Char
  | '"' => some '"'
  | '\\' => some '\\'
  | '/' => some '/'
  | 'b' => some '\x08'
  | 'f' => some '\x0c'
  | 'n' => some '\n'
  | 'r' => some '\r'
  | 't' => some '\t'
  | _ => none

/-- Whether a code unit is the first half of a surrogate pair. -/
def isLead (n : Nat) : Bool := 0xD800 ≤ n && n ≤ 0xDBFF

/-- Whether a code unit is the second half of a surrogate pair. -/
def isTrail (n : Nat) : Bool := 0xDC00 ≤ n && n ≤ 0xDFFF

/-- The character of a surrogate pair. -/
def paired (lead trail : Nat) : Char :=
  Char.ofNat (0x10000 + 0x400 * (lead - 0xD800) + (trail - 0xDC00))

/-- Reads a text after its opening quote: `acc` holds its characters so far, the last one first,
`sound` says that no half of a surrogate pair has stood alone, and `lead` is a first half that
waits for its second. -/
def readText (acc : List Char) (sound : Bool) (lead : Option Nat) : List Char → Scan
  | [] => stop
  | '"' :: r =>
    (if sound && lead.isNone then .text (String.ofList acc.reverse) else .unreadable, some r)
  | '\\' :: 'u' :: a :: b :: c :: d :: r =>
    match Text.hexNat? [a, b, c, d], lead with
    | none, _ => stop
    | some n, some first =>
      if isTrail n then readText (paired first n :: acc) sound none r
      else readText acc false none r
    | some n, none =>
      if isLead n then readText acc sound (some n) r
      else if isTrail n then readText acc false none r
      else readText (Char.ofNat n :: acc) sound none r
  | '\\' :: e :: r =>
    match shortEscape? e with
    | some c => readText (c :: acc) (sound && lead.isNone) none r
    | none => stop
  | c :: r =>
    if c.toNat < 0x20 ∨ c = '\\' then stop else readText (c :: acc) (sound && lead.isNone) none r

/-- The digits at the front of a text, and the text after them. -/
def spanDigits (s : List Char) : List Char × List Char :=
  (s.takeWhile Char.isDigit, s.dropWhile Char.isDigit)

/-- Reads the exponent of a number, if there is one; the first part of the result is `none` if
there is none, and says whether the exponent is negative otherwise. The whole is `none` if digits
are missing. -/
def readExponent (s : List Char) : Option (Option (Bool × List Char) × List Char) :=
  match s with
  | e :: r =>
    if e = 'e' ∨ e = 'E' then
      let (down, r) :=
        match r with
        | '-' :: r => (true, r)
        | '+' :: r => (false, r)
        | r => (false, r)
      let (digits, rest) := spanDigits r
      if digits = [] then none else some (some (down, digits), rest)
    else some (none, s)
  | [] => some (none, [])

/-- Reads a number after its sign. -/
def readNumber (negative : Bool) (s : List Char) : Scan :=
  let (digits, rest) := spanDigits s
  if digits = [] ∨ (digits.head? = some '0' ∧ digits.length ≠ 1) then stop
  else
    let fraction :=
      match rest with
      | '.' :: r =>
        let (places, rest) := spanDigits r
        if places = [] then none else some (some places, rest)
      | rest => some (none, rest)
    match fraction with
    | none => stop
    | some (fraction, rest) =>
      match readExponent rest with
      | none => stop
      | some (exponent, rest) =>
        match number? negative digits fraction exponent with
        | some n => (.number n, some rest)
        | none => (.unreadable, some rest)

/-- A value nested in this many lists and records can be passed over but not read. -/
def maxDepth : Nat := 128

/-- A list or record at a depth. -/
def atDepth (depth : Nat) (v : Value) (rest : Option (List Char)) : Scan :=
  if depth + 1 < maxDepth then (v, rest)
  else
    match rest with
    | some r => (.unreadable, some r)
    | none => stop

mutual

/-- Reads a value that no space stands before; `depth` counts the lists and records around it. -/
def readValue : Nat → Nat → List Char → Scan
  | 0, _, _ => stop
  | fuel + 1, depth, s =>
    match s with
    | 'n' :: 'u' :: 'l' :: 'l' :: r => (.null, some r)
    | 't' :: 'r' :: 'u' :: 'e' :: r => (.bool true, some r)
    | 'f' :: 'a' :: 'l' :: 's' :: 'e' :: r => (.bool false, some r)
    | '"' :: r => readText [] true none r
    | '-' :: r => readNumber true r
    | '[' :: r =>
      match skipSpace r with
      | ']' :: r => atDepth depth (.list []) (some r)
      | r =>
        let (items, rest) := readItems fuel (depth + 1) r
        atDepth depth (.list items) rest
    | '\x7b' :: r =>
      match skipSpace r with
      | '\x7d' :: r => atDepth depth (.record []) (some r)
      | r =>
        let (entries, rest) := readEntries fuel (depth + 1) r
        atDepth depth (.record entries) rest
    | s => readNumber false s

/-- Reads the items of a list up to its closing bracket. -/
def readItems : Nat → Nat → List Char → List Value × Option (List Char)
  | 0, _, _ => ([.broken], none)
  | fuel + 1, depth, s =>
    match readValue fuel depth s with
    | (v, none) => ([v], none)
    | (v, some r) =>
      match skipSpace r with
      | ']' :: r => ([v], some r)
      | ',' :: r =>
        match skipSpace r with
        | ']' :: _ => ([v, .broken], none)
        | r =>
          let (vs, rest) := readItems fuel depth r
          (v :: vs, rest)
      | _ => ([v, .broken], none)

/-- Reads the entries of a record up to its closing brace. A key that is no text is kept, but
nothing after it is read. -/
def readEntries : Nat → Nat → List Char → List (Value × Value) × Option (List Char)
  | 0, _, _ => ([(.broken, .broken)], none)
  | fuel + 1, depth, s =>
    match s with
    | '"' :: r =>
      match readText [] true none r with
      | (k, none) => ([(k, .broken)], none)
      | (k, some r) =>
        match skipSpace r with
        | ':' :: r =>
          match readValue fuel depth (skipSpace r) with
          | (v, none) => ([(k, v)], none)
          | (v, some r) =>
            match skipSpace r with
            | '\x7d' :: r => ([(k, v)], some r)
            | ',' :: r =>
              match skipSpace r with
              | '\x7d' :: _ => ([(k, v), (.broken, .broken)], none)
              | r =>
                let (es, rest) := readEntries fuel depth r
                ((k, v) :: es, rest)
            | _ => ([(k, v), (.broken, .broken)], none)
        | _ => ([(k, .broken)], none)
    | s => ([((readValue fuel depth s).1, .broken)], none)

end

/-- A document and whether text other than space follows it. -/
structure Document where
  /-- The document. -/
  root : Value
  /-- Whether anything follows it. -/
  trailing : Bool

/-- Reads a document. Where the text stops making sense, the document holds `Value.broken`, so that who
decodes it meets the fault only after everything that stands before it. Each step of the reader takes
at least one character in two rounds, so the fuel cannot run out. -/
def read (s : String) : Document :=
  let chars := s.toList
  match readValue (2 * chars.length + 2) 0 (skipSpace chars) with
  | (v, none) => ⟨v, false⟩
  | (v, some rest) => ⟨v, !(skipSpace rest).isEmpty⟩

/-- Decodes a text. What follows the document counts only after all of the document. -/
def decode {α : Type} [Coded α] (s : String) : Except DecodeError α := do
  let t := read s
  let a ← Coded.decode .direct t.root
  if t.trailing then .error .syntaxFault else return a

end GroupPolicy.Json

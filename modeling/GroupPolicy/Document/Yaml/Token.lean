import GroupPolicy.Document.Yaml.Node
import GroupPolicy.Document.Yaml.Scalar

namespace GroupPolicy.Yaml

/-- The parts of YAML text. -/
inductive Token where
  /-- The version of the notation that a document asks for. -/
  | version (major minor : Nat)
  /-- A handle for tags, and the name that it stands for. -/
  | handle (handle : String) (name : List UInt8)
  | documentStart
  | documentEnd
  | blockSequenceStart
  | blockMappingStart
  | blockEnd
  | flowSequenceStart
  | flowSequenceEnd
  | flowMappingStart
  | flowMappingEnd
  | blockEntry
  | flowEntry
  | key
  | value
  | alias (name : String)
  | anchor (name : String)
  /-- A tag as it is written. -/
  | tag (handle : String) (name : List UInt8)
  | scalar (style : Style) (text : String)
  deriving DecidableEq, Repr, Inhabited

/-- A place where a key may have started. That one has is seen only at the colon after it; the tokens
that announce it are then put in here. -/
structure PendingKey where
  /-- Whether the place cannot hold anything but a key. -/
  required : Bool
  /-- The number of tokens before. -/
  number : Nat
  index : Nat
  line : Nat
  column : Nat
  deriving Repr

/-- A key is on one line, and at most so many octets long. -/
def maxKeyLength : Nat := 1024

/-- The state of the scanner. -/
structure Scanner where
  cursor : Cursor
  /-- The tokens so far, the last one first. -/
  tokens : List Token := []
  /-- The number of tokens so far. -/
  count : Nat := 0
  /-- The columns of the open block collections, the innermost first. -/
  indents : List Nat := []
  /-- Whether a key may start here. -/
  keyAllowed : Bool := true
  /-- The place where a key may have started, in the innermost collection in brackets. -/
  pending : Option PendingKey := none
  /-- The same for the collections around it; there is one for each open bracket. -/
  outerPending : List (Option PendingKey) := []
  deriving Inhabited

namespace Scanner

/-- Whether brackets are open. -/
def inFlow (s : Scanner) : Bool := !s.outerPending.isEmpty

/-- One more than the column of the innermost block collection; zero outside of all. -/
def outer (s : Scanner) : Nat :=
  match s.indents with
  | [] => 0
  | column :: _ => column + 1

/-- Adds a token. -/
def push (s : Scanner) (t : Token) : Scanner :=
  { s with tokens := t :: s.tokens, count := s.count + 1 }

/-- Adds a token behind the first `number` tokens. -/
def pushAt (s : Scanner) (number : Nat) (t : Token) : Scanner :=
  let after := s.count - number
  { s with tokens := s.tokens.take after ++ t :: s.tokens.drop after, count := s.count + 1 }

/-- Closes the block collections that are indented further than a column; `none` stands for the
margin. -/
def unroll (s : Scanner) (column : Option Nat) : Scanner :=
  if s.inFlow then s
  else
    let isOpen (indent : Nat) : Bool := column.all (· < indent)
    let closed := s.indents.takeWhile isOpen
    { s with
      indents := s.indents.dropWhile isOpen
      tokens := List.replicate closed.length .blockEnd ++ s.tokens
      count := s.count + closed.length }

/-- Opens a block collection at a column that is indented further than the open ones; its token
goes behind the first `number` tokens. -/
def roll (s : Scanner) (column number : Nat) (t : Token) : Scanner :=
  if s.inFlow || column < s.outer then s
  else { s.pushAt number t with indents := column :: s.indents }

/-- Gives up the pending key, which must not be a required one. -/
def dropPending (s : Scanner) : Option Scanner :=
  if s.pending.any PendingKey.required then none else some { s with pending := none }

/-- Remembers that a key may start here. -/
def savePending (s : Scanner) : Option Scanner :=
  if s.keyAllowed then
    let key : PendingKey :=
      { required := !s.inFlow && s.indents.head? == some s.cursor.column
        number := s.count
        index := s.cursor.index
        line := s.cursor.line
        column := s.cursor.column }
    s.dropPending.map fun s => { s with pending := some key }
  else some s

/-- Gives up a pending key that has become too long, or goes over the end of a line. -/
def refreshKey (c : Cursor) (key : Option PendingKey) : Option (Option PendingKey) :=
  match key with
  | some k =>
    if k.line < c.line ∨ k.index + maxKeyLength < c.index then
      if k.required then none else some none
    else some key
  | none => some none

/-- Gives up all pending keys that cannot be keys any more. -/
def refresh (s : Scanner) : Option Scanner := do
  let pending ← refreshKey s.cursor s.pending
  let outerPending ← s.outerPending.mapM (refreshKey s.cursor)
  return { s with pending, outerPending }

/-- Goes to the next token, over blanks, comments and line breaks, and over a byte order mark in
front of a line. After a line break a key may start, unless brackets are open; where a key may
start, tabs do not count as blanks. -/
def toToken : Nat → Scanner → Scanner
  | 0, s => s
  | fuel + 1, s =>
    let skipped (ch : Char) : Bool := ch == ' ' || ((s.inFlow || !s.keyAllowed) && ch == '\t')
    let marked := s.cursor.column == 0 && s.cursor.peek == some '\uFEFF'
    let c := if marked then s.cursor.skip 1 else s.cursor
    let c := c.skipWhile skipped
    let c := if c.peek = some '#' then c.skipWhile fun ch => !isBreak ch else c
    if c.peek.any isBreak then
      toToken fuel { s with cursor := c.skipBreak.1, keyAllowed := s.keyAllowed || !s.inFlow }
    else { s with cursor := c }

/-- Takes an indicator of some characters for a token; `keyAllowed` says whether a key may start
after it. -/
def indicator (s : Scanner) (length : Nat) (keyAllowed : Bool) (t : Token) : Scanner :=
  { s.push t with cursor := s.cursor.skip length, keyAllowed }

/-- Reads an opening bracket. -/
def openFlow (s : Scanner) (t : Token) : Option Scanner := do
  let s ← s.savePending
  return { s.indicator 1 true t with pending := none, outerPending := s.pending :: s.outerPending }

/-- Reads a closing bracket. -/
def closeFlow (s : Scanner) (t : Token) : Option Scanner := do
  let s ← s.dropPending
  let s := s.indicator 1 false t
  match s.outerPending with
  | [] => return s
  | pending :: outerPending => return { s with pending, outerPending }

/-- Reads a comma. -/
def flowEntry (s : Scanner) : Option Scanner := do
  return (← s.dropPending).indicator 1 true .flowEntry

/-- Opens a block collection here, which a key must be allowed to start; in brackets there are no
block collections. -/
def rollHere (s : Scanner) (t : Token) : Option Scanner :=
  if s.inFlow then some s
  else if s.keyAllowed then some (s.roll s.cursor.column s.count t)
  else none

/-- Reads a dash. -/
def blockEntry (s : Scanner) : Option Scanner := do
  return (← (← s.rollHere .blockSequenceStart).dropPending).indicator 1 true .blockEntry

/-- Reads a question mark. -/
def explicitKey (s : Scanner) : Option Scanner := do
  let s ← (← s.rollHere .blockMappingStart).dropPending
  return s.indicator 1 (!s.inFlow) .key

/-- Reads a colon: it makes a key of what stands before, or comes after a key that has been
announced. -/
def mappingValue (s : Scanner) : Option Scanner :=
  match s.pending with
  | some key =>
    let s := (s.pushAt key.number .key).roll key.column key.number .blockMappingStart
    some ({ s with pending := none }.indicator 1 false .value)
  | none => do
    let s ← s.rollHere .blockMappingStart
    return s.indicator 1 (!s.inFlow) .value

/-- Reads the name of an anchor or of an alias. -/
def named (s : Scanner) (make : String → Token) : Option Scanner := do
  let s ← s.savePending
  let name := (s.cursor.rest.drop 1).takeWhile isNameChar
  let after := s.cursor.rest.drop (1 + name.length)
  if name = [] then none
  else if endsWord after || after.head?.any ['?', ':', ',', ']', '\x7d', '%', '@', '\x60'].contains
  then return s.indicator (1 + name.length) false (make (String.ofList name))
  else none

/-- Reads a tag; a blank comes after it, or in brackets a comma. -/
def tagged (s : Scanner) : Option Scanner := do
  let s ← s.savePending
  let t ← readTag (s.cursor.rest.drop 1)
  let cursor := s.cursor.skip (s.cursor.rest.length - t.rest.length)
  if endsWord t.rest || (s.inFlow && t.rest.head? == some ',') then
    return { s.push (.tag t.handle t.name) with cursor, keyAllowed := false }
  else none

/-- Takes over a scalar. -/
def scanned (s : Scanner) (style : Style) (keyAllowed : Bool) (r : Scanned) : Scanner :=
  { s.push (.scalar style (String.ofList r.text)) with cursor := r.cursor, keyAllowed }

/-- Reads a scalar in quotes. -/
def quotedScalar (s : Scanner) (fuel : Nat) (single : Bool) : Option Scanner := do
  let s ← s.savePending
  let r ← readQuoted single fuel [] (s.cursor.skip 1)
  return s.scanned .quoted false r

/-- Reads a scalar without quotes. -/
def plainScalar (s : Scanner) (fuel : Nat) : Option Scanner := do
  let s ← s.savePending
  let r ← readPlain s.inFlow s.outer fuel [] {} s.cursor
  return s.scanned .plain r.crossed r

/-- Reads a block of lines. -/
def blockScalar (s : Scanner) (fuel : Nat) (literal : Bool) : Option Scanner := do
  let s ← s.dropPending
  let r ← readBlock literal s.outer fuel (s.cursor.skip 1)
  return s.scanned (if literal then .literal else .folded) true r

/-- Reads a line that separates documents. -/
def documentMark (s : Scanner) (t : Token) : Option Scanner := do
  return (← (s.unroll none).dropPending).indicator 3 false t

/-- Reads the number in a version. -/
def versionNumber (s : List Char) : Option (Nat × List Char) :=
  let digits := s.takeWhile Char.isDigit
  if digits = [] ∨ 9 < digits.length then none
  else some (Nat.ofDigitChars 10 digits 0, s.drop digits.length)

/-- Reads a version, and the text after it. -/
def version (s : List Char) : Option (Token × List Char) := do
  let (major, r) ← versionNumber (s.dropWhile isBlank)
  match r with
  | '.' :: r =>
    let (minor, r) ← versionNumber r
    return (.version major minor, r)
  | _ => none

/-- Reads a line that asks for a version of the notation, or declares a handle for tags. -/
def directive (s : Scanner) : Option Scanner := do
  let s ← (s.unroll none).dropPending
  let name := (s.cursor.rest.drop 1).takeWhile isNameChar
  let r := s.cursor.rest.drop (1 + name.length)
  if endsWord r then
    let (t, r) ←
      match String.ofList name with
      | "YAML" => version r
      | "TAG" => (readHandle r).map fun t => (.handle t.handle t.name, t.rest)
      | _ => none
    let c := s.cursor.skip (s.cursor.rest.length - r.length)
    return { s.push t with cursor := ← c.skipLineRest, keyAllowed := false }
  else none

/-- Whether a character starts a scalar without quotes when `after` follows it. -/
def startsPlain (inFlow : Bool) (ch : Char) (after : List Char) : Bool :=
  if ch = '-' then !after.head?.any isBlank
  else if ch = '?' ∨ ch = ':' then !inFlow && !endsWord after
  else
    !isGap ch && !([',', '[', ']', '\x7b', '\x7d', '#', '&', '*', '!', '|', '>', '\'', '"', '%',
      '@', '\x60'].contains ch)

/-- Reads the token that a character starts; there are fewer characters left than `fuel`. -/
def fetch (s : Scanner) (fuel : Nat) (ch : Char) (after : List Char) : Option Scanner :=
  if s.cursor.column = 0 ∧ ch = '%' then s.directive
  else if s.cursor.atDocumentMark then
    s.documentMark (if ch = '-' then .documentStart else .documentEnd)
  else if ch = '[' then s.openFlow .flowSequenceStart
  else if ch = '\x7b' then s.openFlow .flowMappingStart
  else if ch = ']' then s.closeFlow .flowSequenceEnd
  else if ch = '\x7d' then s.closeFlow .flowMappingEnd
  else if ch = ',' then s.flowEntry
  else if ch = '-' ∧ endsWord after then s.blockEntry
  else if ch = '?' ∧ (s.inFlow ∨ endsWord after) then s.explicitKey
  else if ch = ':' ∧ (s.inFlow ∨ endsWord after) then s.mappingValue
  else if ch = '*' then s.named .alias
  else if ch = '&' then s.named .anchor
  else if ch = '!' then s.tagged
  else if ch = '|' ∧ !s.inFlow then s.blockScalar fuel true
  else if ch = '>' ∧ !s.inFlow then s.blockScalar fuel false
  else if ch = '\'' then s.quotedScalar fuel true
  else if ch = '"' then s.quotedScalar fuel false
  else if startsPlain s.inFlow ch after then s.plainScalar fuel
  else none

/-- Reads all tokens. Every token takes at least one character, so the characters that are left are
always fewer than the rounds. -/
def run : Nat → Scanner → Option (List Token)
  | 0, _ => none
  | fuel + 1, s => do
    let s ← (toToken (fuel + 1) s).refresh
    let s := s.unroll (some s.cursor.column)
    match s.cursor.rest with
    | [] =>
      let s ← (s.unroll none).dropPending
      return s.tokens.reverse
    | ch :: after => run fuel (← s.fetch (fuel + 1) ch after)

end Scanner

/-- The tokens of a text. -/
def tokens? (s : String) : Option (List Token) :=
  let chars := s.toList
  if chars.all isAllowed then Scanner.run (chars.length + 1) { cursor := { rest := chars } }
  else none

end GroupPolicy.Yaml

import GroupPolicy.Document.Yaml.Cursor
import GroupPolicy.Text.Hexadecimal

namespace GroupPolicy.Yaml

/-- What stands between two words of a scalar. -/
structure Gap where
  /-- The blanks, if the words are on one line. -/
  blanks : List Char := []
  /-- The first line break. -/
  firstBreak : List Char := []
  /-- The other line breaks. -/
  otherBreaks : List Char := []
  /-- Whether a line has ended. -/
  crossed : Bool := false

/-- What a gap stands for: a single line break for a space, and several of them for all but the first.
-/
def Gap.folded (g : Gap) : List Char :=
  if g.crossed then
    if g.firstBreak = ['\n'] then if g.otherBreaks = [] then [' '] else g.otherBreaks
    else g.firstBreak ++ g.otherBreaks
  else g.blanks

/-- Reads a gap. Tabs are refused in front of the column `indent` of a further line. -/
def readGap (indent : Nat) : Nat → Gap → Cursor → Option (Gap × Cursor)
  | 0, g, c => some (g, c)
  | fuel + 1, g, c =>
    match c.peek with
    | none => some (g, c)
    | some ch =>
      if isBlank ch then
        if g.crossed && c.column < indent && ch == '\t' then none
        else if g.crossed then readGap indent fuel g (c.skip 1)
        else readGap indent fuel { g with blanks := g.blanks ++ [ch] } (c.skip 1)
      else if isBreak ch then
        let (next, lineBreak) := c.skipBreak
        if g.crossed then
          readGap indent fuel { g with otherBreaks := g.otherBreaks ++ lineBreak } next
        else readGap indent fuel { g with firstBreak := lineBreak, crossed := true } next
      else some (g, c)

/-- The word of a plain scalar at the front of a text. In brackets a colon must not stand in front
of a bracket or comma. -/
def plainWord (inFlow : Bool) : List Char → Option (List Char)
  | [] => some []
  | ch :: r =>
    if isGap ch then some []
    else if ch = ':' then
      if inFlow && r.head?.any [',', '?', '[', ']', '\x7b', '\x7d'].contains then none
      else if endsWord r then some []
      else (plainWord inFlow r).map (ch :: ·)
    else if inFlow && [',', '[', ']', '\x7b', '\x7d'].contains ch then some []
    else (plainWord inFlow r).map (ch :: ·)

/-- A scalar that has been read. -/
structure Scanned where
  text : List Char
  /-- The place after it. -/
  cursor : Cursor
  /-- Whether the place is on a line after the scalar. -/
  crossed : Bool

/-- Reads the words of a plain scalar: `text` is what has been read, the last character first, and
`gap` stands after it. -/
def readPlain (inFlow : Bool) (indent : Nat) : Nat → List Char → Gap → Cursor → Option Scanned
  | 0, text, gap, c => some ⟨text.reverse, c, gap.crossed⟩
  | fuel + 1, text, gap, c =>
    if c.atDocumentMark || c.peek == some '#' then some ⟨text.reverse, c, gap.crossed⟩
    else
      match plainWord inFlow c.rest with
      | none => none
      | some [] => some ⟨text.reverse, c, gap.crossed⟩
      | some word =>
        let text := word.reverse ++ (gap.folded.reverse ++ text)
        let c := c.skip word.length
        match readGap indent fuel {} c with
        | none => none
        | some (gap, next) =>
          if next.index = c.index then some ⟨text.reverse, c, false⟩
          else if !inFlow && next.column < indent then some ⟨text.reverse, next, gap.crossed⟩
          else readPlain inFlow indent fuel text gap next

/-- The character that a letter after a backslash stands for. -/
def escaped? : Char → Option Char
  | '0' => some '\x00'
  | 'a' => some '\x07'
  | 'b' => some '\x08'
  | 't' => some '\t'
  | '\t' => some '\t'
  | 'n' => some '\n'
  | 'v' => some '\x0b'
  | 'f' => some '\x0c'
  | 'r' => some '\r'
  | 'e' => some '\x1b'
  | ' ' => some ' '
  | '"' => some '"'
  | '/' => some '/'
  | '\\' => some '\\'
  | 'N' => some '\u0085'
  | '_' => some '\u00a0'
  | 'L' => some '\u2028'
  | 'P' => some '\u2029'
  | _ => none

/-- How many hexadecimal digits a letter after a backslash announces. -/
def escapeLength? : Char → Option Nat
  | 'x' => some 2
  | 'u' => some 4
  | 'U' => some 8
  | _ => none

/-- The character of a number in hexadecimal digits; there is none for surrogates. -/
def hexChar? (digits : List Char) : Option Char := do
  let n ← Text.hexNat? digits
  if n.isValidChar then return Char.ofNat n else none

/-- The character that an escape after its backslash stands for, and how many characters the
escape takes. -/
def readEscape : List Char → Option (Char × Nat)
  | [] => none
  | e :: r =>
    match escaped? e with
    | some c => some (c, 1)
    | none => do
      let n ← escapeLength? e
      let digits := r.take n
      if digits.length = n then return (← hexChar? digits, n + 1) else none

/-- Reads a word in quotes, up to a gap, a closing quote or an escaped line break: `text` with the
word in front of it, the last character first, and the place after the word. -/
def quotedWord (single : Bool) : Nat → List Char → Cursor → Option (List Char × Cursor)
  | 0, text, c => some (text, c)
  | fuel + 1, text, c =>
    match c.rest with
    | [] => some (text, c)
    | ch :: r =>
      if isGap ch then some (text, c)
      else if single then
        if ch = '\'' then
          if r.head? = some '\'' then quotedWord single fuel (ch :: text) (c.skip 2)
          else some (text, c)
        else quotedWord single fuel (ch :: text) (c.skip 1)
      else if ch = '"' then some (text, c)
      else if ch = '\\' then
        if r.head?.any isBreak then some (text, c)
        else
          match readEscape r with
          | some (escaped, n) => quotedWord single fuel (escaped :: text) (c.skip (n + 1))
          | none => none
      else quotedWord single fuel (ch :: text) (c.skip 1)

/-- Reads a scalar after its opening quote: `text` is what has been read, the last character
first. -/
def readQuoted (single : Bool) : Nat → List Char → Cursor → Option Scanned
  | 0, _, _ => none
  | fuel + 1, text, c =>
    if c.atDocumentMark || c.rest.isEmpty then none
    else
      match quotedWord single fuel text c with
      | none => none
      | some (text, c) =>
        let crossed := c.peek == some '\\'
        let c := if crossed then (c.skip 1).skipBreak.1 else c
        if c.peek = some (if single then '\'' else '"') then some ⟨text.reverse, c.skip 1, false⟩
        else
          match readGap 0 fuel { crossed := crossed } c with
          | none => none
          | some (gap, next) => readQuoted single fuel (gap.folded.reverse ++ text) next

/-- What becomes of the line breaks at the end of a block. -/
inductive Chomping where
  /-- All are dropped. -/
  | strip
  /-- One is kept. -/
  | clip
  /-- All are kept. -/
  | keep
  deriving DecidableEq

/-- The chomping that a character asks for. -/
def Chomping.ofChar? : Char → Option Chomping
  | '+' => some .keep
  | '-' => some .strip
  | _ => none

/-- What the head of a block says: its chomping, and how far it is indented if that is given. -/
structure BlockHead where
  chomping : Chomping := .clip
  indent : Option Nat := none

/-- The number of a digit other than zero; zero is no indentation. -/
def indentDigit? (c : Char) : Option Nat :=
  if c.isDigit ∧ c ≠ '0' then some (c.toNat - '0'.toNat) else none

/-- Reads the indicators in the head of a block, in either order. -/
def readBlockHead (c : Cursor) : BlockHead × Cursor :=
  match c.rest with
  | a :: r =>
    match Chomping.ofChar? a, indentDigit? a with
    | some chomping, _ =>
      match r.head?.bind indentDigit? with
      | some n => ({ chomping, indent := some n }, c.skip 2)
      | none => ({ chomping }, c.skip 1)
    | none, some n =>
      match r.head?.bind Chomping.ofChar? with
      | some chomping => ({ chomping, indent := some n }, c.skip 2)
      | none => ({ indent := some n }, c.skip 1)
    | none, none => ({}, c)
  | [] => ({}, c)

/-- The empty lines in front of a line of a block. -/
structure BlockGap where
  breaks : List Char
  cursor : Cursor
  /-- The widest indentation among them. -/
  widest : Nat

/-- Reads empty lines and the indentation of the line after them. If `indent` is zero, the
indentation is still to be found, and any number of spaces belongs to it. -/
def readBlockGap (indent : Nat) : Nat → List Char → Nat → Cursor → Option BlockGap
  | 0, breaks, widest, c => some ⟨breaks, c, widest⟩
  | fuel + 1, breaks, widest, c =>
    let spaces := (c.rest.takeWhile (· == ' ')).length
    let c := c.skip (if indent = 0 then spaces else Nat.min spaces (indent - c.column))
    let widest := Nat.max widest c.column
    if (indent = 0 || c.column < indent) && c.peek == some '\t' then none
    else if c.peek.any isBreak then
      let (next, lineBreak) := c.skipBreak
      readBlockGap indent fuel (breaks ++ lineBreak) widest next
    else some ⟨breaks, c, widest⟩

/-- The lines of a block that have been read. -/
structure BlockText where
  /-- The text, the last character first. -/
  text : List Char := []
  /-- The break of the last line. -/
  lastBreak : List Char := []
  /-- The breaks of the empty lines after it. -/
  breaks : List Char := []
  /-- Whether the last line starts with a blank; such a line is not folded. -/
  startsBlank : Bool := false
  cursor : Cursor

/-- What the line breaks in front of a further line stand for. -/
def BlockText.folded (b : BlockText) (literal startsBlank : Bool) : List Char :=
  if !literal && b.lastBreak == ['\n'] && !b.startsBlank && !startsBlank then
    if b.breaks = [] then [' '] else b.breaks
  else b.lastBreak ++ b.breaks

/-- Reads the lines of a block. -/
def readBlockLines (literal : Bool) (indent : Nat) : Nat → BlockText → Option BlockText
  | 0, b => some b
  | fuel + 1, b =>
    if b.cursor.column ≠ indent ∨ b.cursor.rest = [] then some b
    else
      let startsBlank := b.cursor.peek.any isBlank
      let line := b.cursor.rest.takeWhile fun ch => !isBreak ch
      let (next, lastBreak) := (b.cursor.skip line.length).skipBreak
      match readBlockGap indent fuel [] 0 next with
      | none => none
      | some gap =>
        readBlockLines literal indent fuel
          { text := line.reverse ++ ((b.folded literal startsBlank).reverse ++ b.text), lastBreak,
            breaks := gap.breaks, startsBlank, cursor := gap.cursor }

/-- Reads a block after its indicator. Unless the head gives the indentation, that of the first
line counts; it is more than that of the surrounding collection, where `outer` is one more than the
column of that collection, and zero outside of all. -/
def readBlock (literal : Bool) (outer fuel : Nat) (c : Cursor) : Option Scanned := do
  let (head, c) := readBlockHead c
  let c ← c.skipLineRest
  let given : Nat :=
    match head.indent with
    | some n => (outer - 1) + n
    | none => 0
  let gap ← readBlockGap given fuel [] 0 c
  let indent := if given = 0 then Nat.max gap.widest (Nat.max outer 1) else given
  let b ← readBlockLines literal indent fuel
    { breaks := gap.breaks, cursor := gap.cursor }
  let tail :=
    match head.chomping with
    | .strip => []
    | .clip => b.lastBreak
    | .keep => b.lastBreak ++ b.breaks
  return ⟨b.text.reverse ++ tail, b.cursor, true⟩

end GroupPolicy.Yaml

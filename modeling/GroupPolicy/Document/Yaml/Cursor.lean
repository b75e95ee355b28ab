import GroupPolicy.Text.Octets

namespace GroupPolicy.Yaml

/-- The characters that separate words within a line. -/
def isBlank (c : Char) : Bool := c == ' ' || c == '\t'

/-- The characters that end a line. -/
def isBreak (c : Char) : Bool :=
  c == '\n' || c == '\r' || c == '\u0085' || c == '\u2028' || c == '\u2029'

/-- The characters that end a word. -/
def isGap (c : Char) : Bool := isBlank c || isBreak c

/-- Whether a word ends in front of a text. -/
def endsWord : List Char → Bool
  | [] => true
  | c :: _ => isGap c

/-- The characters of names. -/
def isNameChar (c : Char) : Bool := c.isAlphanum || c == '_' || c == '-'

/-- The characters that a text may hold at all. -/
def isAllowed (c : Char) : Bool :=
  let n := c.toNat
  n == 0x09 || n == 0x0A || n == 0x0D || (0x20 ≤ n && n ≤ 0x7E) || n == 0x85 ||
    (0xA0 ≤ n && n ≤ 0xFFFD) || 0x10000 ≤ n

/-- A place in a text. What a character starts depends on how far it is indented. -/
structure Cursor where
  /-- The text from here on. -/
  rest : List Char
  /-- The number of octets before. -/
  index : Nat := 0
  /-- The number of lines before. -/
  line : Nat := 0
  /-- The number of characters before in the same line. -/
  column : Nat := 0
  deriving Repr, Inhabited

namespace Cursor

/-- The character at a place. -/
def peek (c : Cursor) : Option Char := c.rest.head?

/-- The place some characters further on the same line. -/
def skip (c : Cursor) (n : Nat) : Cursor :=
  { c with
    rest := c.rest.drop n, index := c.index + Text.octets (c.rest.take n), column := c.column + n }

/-- The place after characters of a class. -/
def skipWhile (c : Cursor) (p : Char → Bool) : Cursor :=
  c.skip (c.rest.takeWhile p).length

/-- The place at the beginning of the next line, and what the line break stands for in a text. -/
def skipBreak (c : Cursor) : Cursor × List Char :=
  match c.rest with
  | '\r' :: '\n' :: r =>
    ({ rest := r, index := c.index + 2, line := c.line + 1, column := 0 }, ['\n'])
  | ch :: r =>
    if isBreak ch then
      ({ rest := r, index := c.index + ch.utf8Size, line := c.line + 1, column := 0 },
        [if ch = '\u2028' ∨ ch = '\u2029' then ch else '\n'])
    else (c, [])
  | [] => (c, [])

/-- Whether a line starts here that separates documents. -/
def atDocumentMark (c : Cursor) : Bool :=
  c.column == 0 &&
    match c.rest with
    | '-' :: '-' :: '-' :: r => endsWord r
    | '.' :: '.' :: '.' :: r => endsWord r
    | _ => false

/-- Whether a line ends here, or the text. -/
def atLineEnd (c : Cursor) : Bool :=
  match c.rest with
  | [] => true
  | ch :: _ => isBreak ch

/-- The place after the blanks and the comment at the end of a line; `none` if anything else stands
there. -/
def skipLineRest (c : Cursor) : Option Cursor :=
  let c := c.skipWhile isBlank
  let c := if c.peek = some '#' then c.skipWhile fun ch => !isBreak ch else c
  if c.atLineEnd then some c.skipBreak.1 else none

end Cursor

end GroupPolicy.Yaml

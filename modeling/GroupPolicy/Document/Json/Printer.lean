import GroupPolicy.Document.Value

namespace GroupPolicy.Json

/-- A character of a text as it stands between quotes. -/
def escapedChar (c : Char) : List Char :=
  match c with
  | '"' => ['\\', '"']
  | '\\' => ['\\', '\\']
  | '\x08' => ['\\', 'b']
  | '\x0c' => ['\\', 'f']
  | '\n' => ['\\', 'n']
  | '\r' => ['\\', 'r']
  | '\t' => ['\\', 't']
  | c =>
    if c.toNat < 0x20 then
      ['\\', 'u', '0', '0', Nat.digitChar (c.toNat / 16), Nat.digitChar (c.toNat % 16)]
    else [c]

/-- A text between quotes. -/
def textChars (s : String) : List Char :=
  '"' :: s.toList.flatMap escapedChar ++ ['"']

/-- A number. -/
def numberChars : Number → List Char
  | .integer minus n => (if minus then ['-'] else []) ++ Nat.toDigits 10 n
  | .real shown => shown.toList

/-- Where there is space between the parts of a document. -/
structure Layout where
  /-- What stands in front of an item with so many lists and records around it, and in front of the
  closing bracket of one with so many around it. -/
  gap : Nat → List Char
  /-- What stands behind a colon. -/
  afterColon : List Char

/-- All on one line, without any space. -/
def Layout.compact : Layout where
  gap _ := []
  afterColon := []

/-- One item a line, indented by two spaces for each level. -/
def Layout.pretty : Layout where
  gap depth := '\n' :: List.replicate (2 * depth) ' '
  afterColon := [' ']

mutual

/-- A document inside of `depth` lists and records. What is not a value of the notation is written as
null. -/
def valueChars (layout : Layout) (depth : Nat) : Value → List Char
  | .null => ['n', 'u', 'l', 'l']
  | .bool true => ['t', 'r', 'u', 'e']
  | .bool false => ['f', 'a', 'l', 's', 'e']
  | .number n => numberChars n
  | .text s => textChars s
  | .list [] => ['[', ']']
  | .list (v :: r) =>
    '[' :: layout.gap (depth + 1) ++ valueChars layout (depth + 1) v ++ itemsChars layout depth r
  | .record [] => ['\x7b', '\x7d']
  | .record ((k, v) :: r) =>
    '\x7b' :: layout.gap (depth + 1) ++ valueChars layout (depth + 1) k ++ ':' :: layout.afterColon ++
      valueChars layout (depth + 1) v ++ entriesChars layout depth r
  | .unreadable => ['n', 'u', 'l', 'l']
  | .broken => ['n', 'u', 'l', 'l']

/-- The items of a list after the first, and its end. -/
def itemsChars (layout : Layout) (depth : Nat) : List Value → List Char
  | [] => layout.gap depth ++ [']']
  | v :: r =>
    ',' :: layout.gap (depth + 1) ++ valueChars layout (depth + 1) v ++ itemsChars layout depth r

/-- The entries of a record after the first, and its end. -/
def entriesChars (layout : Layout) (depth : Nat) : List (Value × Value) → List Char
  | [] => layout.gap depth ++ ['\x7d']
  | (k, v) :: r =>
    ',' :: layout.gap (depth + 1) ++ valueChars layout (depth + 1) k ++ ':' :: layout.afterColon ++
      valueChars layout (depth + 1) v ++ entriesChars layout depth r

end

/-- The text of a document in a layout. -/
def print (layout : Layout) (v : Value) : String := String.ofList (valueChars layout 0 v)

/-- A document on one line, without any space. -/
def compact (v : Value) : String := print .compact v

end GroupPolicy.Json

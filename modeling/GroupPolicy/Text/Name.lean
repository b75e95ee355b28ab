namespace GroupPolicy

/-- A text that names nothing of its kind. -/
structure UnknownName where
  /-- What was to be named. -/
  noun : String
  /-- The text as it was given. -/
  text : String
  deriving DecidableEq, Repr

/-- The wording of the complaint. -/
def UnknownName.message (e : UnknownName) : String :=
  let noun := e.noun
  let text := e.text
  s!"Unknown {noun}: {text}"

namespace Text

/-- The capital letters of a character, as far as they are plain letters: the dotless i, the long
s, the sharp s and the ligatures are spelled with plain capitals too. Any other letter outside the
plain alphabet is left as it is, since no name holds one. -/
def capitals (c : Char) : List Char :=
  match c with
  | 'ı' => ['I']
  | 'ſ' => ['S']
  | 'ß' => ['S', 'S']
  | 'ﬀ' => ['F', 'F']
  | 'ﬁ' => ['F', 'I']
  | 'ﬂ' => ['F', 'L']
  | 'ﬃ' => ['F', 'F', 'I']
  | 'ﬄ' => ['F', 'F', 'L']
  | 'ﬅ' | 'ﬆ' => ['S', 'T']
  | c => [c.toUpper]

/-- Text with all its letters made capital. -/
def capitalized (s : String) : String :=
  String.ofList (s.toList.flatMap capitals)

end Text

end GroupPolicy

import GroupPolicy.Text.Hexadecimal

namespace GroupPolicy.Text

/-- Whether a character may steer a terminal: the bell, the backspace, the form feed, the escape
and delete characters, and the control characters beyond the plain alphabet. -/
def steers (c : Char) : Bool :=
  [0x07, 0x08, 0x0C, 0x1B, 0x7F].contains c.toNat || (0x80 ≤ c.toNat && c.toNat ≤ 0x9F)

/-- One character as a terminal may show it. -/
def inertChar (c : Char) : List Char :=
  if steers c then if c.toNat < 0x80 then numberedShort c else numbered c else [c]

/-- A text as a terminal may show it. -/
def inert (s : List Char) : List Char := s.flatMap inertChar

end GroupPolicy.Text

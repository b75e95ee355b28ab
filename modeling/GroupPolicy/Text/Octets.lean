namespace GroupPolicy.Text

/-- How many octets characters take. -/
def octets : List Char → Nat
  | [] => 0
  | c :: r => c.utf8Size + octets r

/-- The text before and after so many octets; `none` if a character lies across the cut, or the text
is shorter. -/
def cutOctets? : Nat → List Char → Option (List Char × List Char)
  | 0, s => some ([], s)
  | _ + 1, [] => none
  | n + 1, c :: r =>
    if c.utf8Size ≤ n + 1 then
      (cutOctets? (n + 1 - c.utf8Size) r).map fun (a, b) => (c :: a, b)
    else none

end GroupPolicy.Text

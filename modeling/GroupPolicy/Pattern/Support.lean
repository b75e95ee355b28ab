import GroupPolicy.Pattern.Reader

namespace GroupPolicy.Pattern

/-- The modes that decide what can be used. -/
structure Modes where
  characters : Bool := true
  caseless : Bool := false
  deriving DecidableEq, Repr

namespace Modes

/-- The modes behind a switch. -/
def switched (m : Modes) (w : Switch) : Modes :=
  ⟨w.apply .characters m.characters, w.apply .caseless m.caseless⟩

/-- Whether a class may hold a character. -/
def allows (m : Modes) (c : Char) : Bool :=
  if m.characters then !m.caseless else c.toNat < 0x80

end Modes

namespace Class

mutual

/-- Whether a class can be used. -/
def isUsable (m : Modes) : Class → Bool
  | .empty => true
  | .char c => m.allows c
  | .range first last => m.allows first && m.allows last
  | .named negated => if m.characters then !m.caseless else !negated
  | .shorthand negated => !m.characters && !negated
  | .bracketed negated inner => (m.characters || !negated) && inner.isUsable m
  | .union members => areUsable m members
  | .combined left right => left.isUsable m && right.isUsable m

/-- Whether all of some classes can be used. -/
def areUsable (m : Modes) : List Class → Bool
  | [] => true
  | c :: cs => c.isUsable m && areUsable m cs

end

end Class

mutual

/-- The modes behind a pattern that can be used. -/
def after? (m : Modes) : Pattern → Option Modes
  | .empty => some m
  | .char _ => if m.characters && m.caseless then none else some m
  | .octet c => if m.allows c then some m else none
  | .any => if m.characters then some m else none
  | .edge => some m
  | .wordEdge => if m.characters then none else some m
  | .shorthand negated => if m.characters || negated then none else some m
  | .oneOf c => if c.isUsable m then some m else none
  | .modes w => some (m.switched w)
  | .repeated p => p.after? m
  | .group w p => (p.after? (m.switched w)).map fun _ => m
  | .sequence ps => afterAll? m ps
  | .choice ps => afterAll? m ps

/-- The modes behind some patterns that can be used, one after the other. -/
def afterAll? (m : Modes) : List Pattern → Option Modes
  | [] => some m
  | p :: ps => (p.after? m).bind fun m => afterAll? m ps

end

/-- A pattern that is nested deeper cannot be used. -/
def maxHeight : Nat := 250

/-- Whether a text is a pattern that can be used. There are no tables of letter case, digits, blanks
and words beyond the plain alphabet, so what needs them cannot be used. -/
def isUsable (s : List Char) : Bool :=
  match read? s with
  | some p => p.height ≤ maxHeight && (p.after? {}).isSome
  | none => false

example : isUsable "(a|b)*?[^x-z]$".toList = true := by decide +kernel
example : isUsable "[[:^alpha:]&&[a-]]".toList = true := by decide +kernel
example : isUsable "(?-u:\\d)\\d".toList = false := by decide +kernel

end GroupPolicy.Pattern

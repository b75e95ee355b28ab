namespace GroupPolicy

/-- What a letter in a pattern switches on or off. -/
inductive Pattern.Mode where
  /-- Letter case is ignored. -/
  | caseless
  /-- Every line has a start and an end. -/
  | lines
  /-- The point fits line breaks too. -/
  | wholeText
  /-- Repetitions take as little as they can. -/
  | sparing
  /-- The text is one of characters, and not of octets. -/
  | characters
  /-- Lines end in two characters. -/
  | longBreaks
  /-- The pattern may be spaced out, and hold remarks. -/
  | spaced
  deriving DecidableEq, Repr

namespace Pattern

/-- The mode of a letter. -/
def Mode.ofChar? : Char → Option Mode
  | 'i' => some .caseless
  | 'm' => some .lines
  | 's' => some .wholeText
  | 'U' => some .sparing
  | 'u' => some .characters
  | 'R' => some .longBreaks
  | 'x' => some .spaced
  | _ => none

/-- Modes that are switched on and off. -/
structure Switch where
  on : List Mode := []
  off : List Mode := []
  deriving DecidableEq, Repr

namespace Switch

/-- Whether a mode is switched at all. -/
def has (w : Switch) (mode : Mode) : Bool := w.on.contains mode || w.off.contains mode

/-- One more mode, which is switched on or off. -/
def add (w : Switch) (off : Bool) (mode : Mode) : Switch :=
  if off then { w with off := mode :: w.off } else { w with on := mode :: w.on }

/-- Whether a mode is on behind a switch, if it is on or off in front of it. -/
def apply (w : Switch) (mode : Mode) (before : Bool) : Bool :=
  w.on.contains mode || (before && !w.off.contains mode)

end Switch

/-- What stands in square brackets. -/
inductive Class where
  | empty
  | char (c : Char)
  | range (first last : Char)
  /-- The characters of a named class. -/
  | named (negated : Bool)
  /-- The digits, the blanks or the characters of words. -/
  | shorthand (negated : Bool)
  | bracketed (negated : Bool) (inner : Class)
  | union (members : List Class)
  /-- What two classes share, or what lies in one of them only. -/
  | combined (left right : Class)
  deriving Repr

namespace Class

mutual

/-- How deep the parts of a class are nested. -/
def height : Class → Nat
  | .bracketed _ inner => inner.height + 1
  | .union members => heights members + 1
  | .combined left right => Nat.max left.height right.height + 1
  | _ => 0

/-- How deep the deepest of some classes is nested. -/
def heights : List Class → Nat
  | [] => 0
  | c :: cs => Nat.max c.height (heights cs)

end

/-- The class of all members of some classes. -/
def ofMembers : List Class → Class
  | [] => .empty
  | [c] => c
  | cs => .union cs

end Class

end Pattern

/-- A pattern. Nothing is ever held against it, so the tree keeps what decides whether it can be used.
-/
inductive Pattern where
  | empty
  | char (c : Char)
  /-- A character that is written by its number in two digits. -/
  | octet (c : Char)
  /-- Any character. -/
  | any
  /-- The start or the end of a line or of the text. -/
  | edge
  /-- The start or the end of a word, or the lack of both. -/
  | wordEdge
  /-- A digit, a blank or a character of words. -/
  | shorthand (negated : Bool)
  | oneOf (c : Pattern.Class)
  /-- Modes that hold from here up to the end of the group. -/
  | modes (w : Pattern.Switch)
  | repeated (p : Pattern)
  | group (w : Pattern.Switch) (p : Pattern)
  | sequence (ps : List Pattern)
  | choice (ps : List Pattern)
  deriving Repr

namespace Pattern

mutual

/-- How deep the parts of a pattern are nested. -/
def height : Pattern → Nat
  | .oneOf c => c.height
  | .repeated p => p.height + 1
  | .group _ p => p.height + 1
  | .sequence ps => heights ps + 1
  | .choice ps => heights ps + 1
  | _ => 0

/-- How deep the deepest of some patterns is nested. -/
def heights : List Pattern → Nat
  | [] => 0
  | p :: ps => Nat.max p.height (heights ps)

end

/-- The patterns of a list, one after the other. -/
def ofSequence : List Pattern → Pattern
  | [] => .empty
  | [p] => p
  | ps => .sequence ps

/-- The patterns of a list to choose from. -/
def ofChoice : List Pattern → Pattern
  | [] => .empty
  | [p] => p
  | ps => .choice ps

end Pattern

end GroupPolicy

import GroupPolicy.Pattern.Syntax
import GroupPolicy.Text.Blank
import GroupPolicy.Text.Hexadecimal
import GroupPolicy.Text.Letter

namespace GroupPolicy.Pattern

/-- The part of a pattern that has not been read. -/
structure Unread where
  rest : List Char
  /-- Whether blanks and remarks are skipped. -/
  spaced : Bool := false
  /-- The names of the groups that have been opened. -/
  names : List (List Char) := []

/-- The text after blanks and remarks; a remark goes from a number sign up to the end of the line,
and `remark` says that the text starts within one. -/
def skipBlanks : Bool → List Char → List Char
  | _, [] => []
  | true, c :: r => skipBlanks (c != '\n') r
  | false, c :: r =>
    if Text.isBlank c then skipBlanks false r else if c = '#' then skipBlanks true r else c :: r

namespace Unread

/-- What is left from a place on. -/
def goTo (s : Unread) (rest : List Char) : Unread := { s with rest := rest }

/-- What is left after blanks and remarks, where they are skipped. -/
def skip (s : Unread) : Unread := if s.spaced then s.goTo (skipBlanks false s.rest) else s

end Unread

/-- The character that a letter after a backslash stands for. -/
def escaped? : Char → Option Char
  | 'a' => some '\x07'
  | 'f' => some '\x0c'
  | 't' => some '\t'
  | 'n' => some '\n'
  | 'r' => some '\r'
  | 'v' => some '\x0b'
  | _ => none

/-- Whether a character stands for itself after a backslash. -/
def isEscapable (c : Char) : Bool :=
  c.toNat < 0x80 && !c.isAlphanum && !(['<', '>'].contains c)

/-- Reads so many hexadecimal digits: the number of those in front of them goes on with them. -/
def readDigits : Nat → Nat → Unread → Option (Nat × Unread)
  | 0, value, s => some (value, s)
  | n + 1, value, s =>
    let s := s.skip
    match s.rest with
    | c :: r => do readDigits n (16 * value + (← Text.hexDigit? c)) (s.goTo r)
    | [] => none

/-- Reads a character that is written by its number in so many digits. -/
def readNumbered (digits : Nat) (s : Unread) : Option (Char × Unread) := do
  let (n, s) ← readDigits digits 0 s
  if n.isValidChar then return (Char.ofNat n, s) else none

/-- Reads what stands after a backslash. -/
def readEscape (s : Unread) : Option (Pattern × Unread) :=
  match s.rest with
  | [] => none
  | c :: r =>
    let s := s.goTo r
    if c = 'x' then (readNumbered 2 s).map fun (c, s) => (.octet c, s)
    else if c = 'u' then (readNumbered 4 s).map fun (c, s) => (.char c, s)
    else if c = 'U' then (readNumbered 8 s).map fun (c, s) => (.char c, s)
    else if ['d', 's', 'w'].contains c then some (.shorthand false, s)
    else if ['D', 'S', 'W'].contains c then some (.shorthand true, s)
    else if ['A', 'z'].contains c then some (.edge, s)
    else if ['b', 'B', '<', '>'].contains c then some (.wordEdge, s)
    else if isEscapable c then some (.char c, s)
    else (escaped? c).map fun c => (.char c, s)

/-- Reads one part of a pattern that does not hold others. -/
def readPart (s : Unread) : Option (Pattern × Unread) :=
  match s.rest with
  | [] => none
  | c :: r =>
    let s := s.goTo r
    if c = '\\' then readEscape s
    else if c = '.' then some (.any, s)
    else if c = '^' ∨ c = '$' then some (.edge, s)
    else some (.char c, s)

namespace Class

/-- The names of classes. -/
def names : List String :=
  ["alnum", "alpha", "ascii", "blank", "cntrl", "digit", "graph", "lower", "print", "punct",
    "space", "upper", "word", "xdigit"]

/-- Reads a class by its name between colons, after the opening bracket. -/
def readNamed : List Char → Option (Class × List Char)
  | ':' :: s =>
    let (negated, s) :=
      match s with
      | '^' :: r => (true, r)
      | _ => (false, s)
    match s.dropWhile (· != ':') with
    | ':' :: ']' :: r =>
      if names.contains (String.ofList (s.takeWhile (· != ':'))) then some (.named negated, r)
      else none
    | _ => none
  | _ => none

/-- Reads what may stand first in brackets: dashes, and without them a closing bracket. `members`
are the dashes so far. -/
def readFirst : Nat → List Class → Unread → Option (List Class × Unread)
  | 0, _, _ => none
  | fuel + 1, members, s =>
    match s.rest with
    | [] => none
    | '-' :: r => readFirst fuel (.char '-' :: members) (s.goTo r).skip
    | ']' :: r => if members = [] then some ([.char ']'], s.goTo r) else some (members, s)
    | _ => some (members, s)

/-- Reads what stands after an opening bracket in front of the other members: whether the class is
negated, and its first members. -/
def readOpening (fuel : Nat) (s : Unread) : Option (Bool × List Class × Unread) :=
  let s := s.skip
  let (negated, s) :=
    match s.rest with
    | '^' :: r => (true, (s.goTo r).skip)
    | _ => (false, s)
  (readFirst fuel [] s).map fun (members, s) => (negated, members, s)

/-- Reads a character in brackets, or what stands after a backslash. -/
def readAtom (s : Unread) : Option (Pattern × Unread) :=
  match s.rest with
  | [] => none
  | '\\' :: r => readEscape (s.goTo r)
  | c :: r => some (.char c, s.goTo r)

/-- The character that a part of a pattern stands for, if it stands for one. -/
def char? : Pattern → Option Char
  | .char c => some c
  | .octet c => some c
  | _ => none

/-- The class that a part of a pattern makes by itself. -/
def ofAtom? : Pattern → Option Class
  | .shorthand negated => some (.shorthand negated)
  | p => (char? p).map .char

/-- The character after a dash. Where blanks are skipped, so is the sign of a remark, and the remark
is taken for more of the class. -/
def behindDash (s : Unread) : Option Char :=
  if s.spaced then
    match s.rest.dropWhile Text.isBlank with
    | '#' :: r => (r.dropWhile Text.isBlank).head?
    | r => r.head?
  else s.rest.head?

/-- Reads a member of a class: a character, a range of them or a shorthand. A dash in front of the
closing bracket or of another dash makes no range. -/
def readMember (s : Unread) : Option (Class × Unread) := do
  let (first, s) ← readAtom s
  let s := s.skip
  match s.rest with
  | [] => none
  | '-' :: r =>
    let behind := s.goTo r
    if [some ']', some '-'].contains (behindDash behind) then return (← ofAtom? first, s)
    else
      let (last, s) ← readAtom behind.skip
      let first ← char? first
      let last ← char? last
      if first ≤ last then return (.range first last, s) else none
  | _ => return (← ofAtom? first, s)

/-- The class of what stands in front of an operator, if there is one, and of the members after it,
the last one first. -/
def joined (left : Option Class) (members : List Class) : Class :=
  match left with
  | some left => .combined left (ofMembers members.reverse)
  | none => ofMembers members.reverse

/-- Reads the other members of a class, and its closing bracket: `left` is the class in front of the
last operator, and `members` are the members after it, the last one first. -/
def readMembers : Nat → Option Class → List Class → Unread → Option (Class × Unread)
  | 0, _, _, _ => none
  | fuel + 1, left, members, s =>
    let s := s.skip
    match s.rest with
    | [] => none
    | ']' :: r => some (joined left members, s.goTo r)
    | '[' :: r =>
      match readNamed r with
      | some (c, r) => readMembers fuel left (c :: members) (s.goTo r)
      | none => do
        let (negated, first, s) ← readOpening fuel (s.goTo r)
        let (inner, s) ← readMembers fuel none first s
        readMembers fuel left (.bracketed negated inner :: members) s
    | '&' :: '&' :: r => readMembers fuel (some (joined left members)) [] (s.goTo r)
    | '-' :: '-' :: r => readMembers fuel (some (joined left members)) [] (s.goTo r)
    | '~' :: '~' :: r => readMembers fuel (some (joined left members)) [] (s.goTo r)
    | _ => do
      let (member, s) ← readMember s
      readMembers fuel left (member :: members) s

/-- Reads a class after its opening bracket. -/
def read (fuel : Nat) (s : Unread) : Option (Class × Unread) := do
  let (negated, first, s) ← readOpening fuel s
  let (inner, s) ← readMembers fuel none first s
  return (.bracketed negated inner, s)

end Class

/-- Reads letters of modes up to a colon or a closing parenthesis. After a dash, of which there may
be one, the modes are switched off; there must be a mode after it. -/
def readSwitch : Switch → Bool → List Char → Option (Switch × List Char)
  | _, _, [] => none
  | w, off, c :: r =>
    if c = ':' ∨ c = ')' then if off && w.off.isEmpty then none else some (w, c :: r)
    else if c = '-' then if off then none else readSwitch w true r
    else
      match Mode.ofChar? c with
      | some mode => if w.has mode then none else readSwitch (w.add off mode) off r
      | none => none

/-- Whether a text may be the name of a group. -/
def isName : List Char → Bool
  | [] => false
  | c :: r =>
    (c == '_' || Text.isLetter c) &&
      r.all fun c => ['_', '.', '[', ']'].contains c || Text.isLetterOrDigit c

/-- Reads the name of a group, which no other group may have. -/
def readName (s : Unread) : Option Unread :=
  let name := s.rest.takeWhile (· != '>')
  match s.rest.dropWhile (· != '>') with
  | [] => none
  | _ :: r =>
    if isName name && !s.names.contains name then
      some { s with rest := r, names := name :: s.names }
    else none

/-- What an opening parenthesis starts. -/
inductive Opening where
  /-- Modes, and nothing that is enclosed. -/
  | modes (w : Switch)
  | group (w : Switch)

/-- Reads what stands after an opening parenthesis in front of what is enclosed. -/
def readOpening (s : Unread) : Option (Opening × Unread) :=
  let s := s.skip
  match s.rest with
  | '?' :: 'P' :: '<' :: r => (readName (s.goTo r)).map fun s => (.group {}, s)
  | '?' :: '<' :: r => (readName (s.goTo r)).map fun s => (.group {}, s)
  | '?' :: r =>
    match readSwitch {} false r with
    | some (w, ':' :: r) => some (.group w, s.goTo r)
    | some (w, _ :: r) => if w = {} then none else some (.modes w, s.goTo r)
    | _ => none
  | _ => some (.group {}, s)

/-- Whether a pattern may be repeated. -/
def isRepeatable : Pattern → Bool
  | .modes _ => false
  | _ => true

/-- The patterns to choose from and one more, which has some parts; the last one comes first. -/
def withBranch (parts earlier : List Pattern) : List Pattern := ofSequence parts.reverse :: earlier

/-- Reads patterns to choose from, up to a closing parenthesis or the end: `parts` are the parts of
the one that is read, and `earlier` are those in front of it, each with the last one first. -/
def readBranches : Nat → List Pattern → List Pattern → Unread → Option (Pattern × Unread)
  | 0, _, _, _ => none
  | fuel + 1, parts, earlier, s =>
    let s := s.skip
    match s.rest with
    | [] => some (ofChoice (withBranch parts earlier).reverse, s)
    | ')' :: _ => some (ofChoice (withBranch parts earlier).reverse, s)
    | '|' :: r => readBranches fuel [] (withBranch parts earlier) (s.goTo r)
    | '(' :: r => do
      let (opening, inside) ← readOpening (s.goTo r)
      match opening with
      | .modes w =>
        let spaced := w.apply .spaced s.spaced
        readBranches fuel (.modes w :: parts) earlier { inside with spaced := spaced }
      | .group w =>
        let spaced := w.apply .spaced s.spaced
        let (p, closing) ← readBranches fuel [] [] { inside with spaced := spaced }
        match closing.rest with
        | [] => none
        | _ :: r =>
          readBranches fuel (.group w p :: parts) earlier
            { closing with rest := r, spaced := s.spaced }
    | '[' :: r => do
      let (c, s) ← Class.read fuel (s.goTo r)
      readBranches fuel (.oneOf c :: parts) earlier s
    | '\x7b' :: _ => none
    | c :: r =>
      if ['?', '*', '+'].contains c then
        match parts with
        | [] => none
        | p :: parts =>
          let rest := if r.head? = some '?' then r.drop 1 else r
          if isRepeatable p then readBranches fuel (.repeated p :: parts) earlier (s.goTo rest)
          else none
      else do
        let (p, s) ← readPart s
        readBranches fuel (p :: parts) earlier s

/-- The pattern that a text writes. An opening curly brace is refused: patterns stand within curly
braces, so that it could not be closed. -/
def read? (s : List Char) : Option Pattern := do
  let (p, s) ← readBranches (s.length + 1) [] [] { rest := s }
  if s.rest = [] then return p else none

end GroupPolicy.Pattern

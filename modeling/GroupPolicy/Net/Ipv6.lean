import GroupPolicy.Net.Ipv4
import GroupPolicy.Text.Hexadecimal

namespace GroupPolicy

/-- An address of version 6. -/
structure Ipv6 where
  /-- The groups, the most significant first. -/
  groups : List UInt16
  /-- There are eight of them. -/
  length_eq : groups.length = 8
  deriving DecidableEq, Repr

namespace Ipv6

instance : Ord Ipv6 := ⟨compareOn groups⟩

/-- The hexadecimal digits of a group, without leading zeros. -/
def groupChars (g : UInt16) : List Char := Nat.toDigits 16 g.toNat

/-- Groups with colons between them. -/
def joined (gs : List UInt16) : List Char := [':'].intercalate (gs.map groupChars)

/-- How many zero groups stand in a row from a place on. -/
def zerosFrom (gs : List UInt16) (start : Nat) : Nat :=
  ((gs.drop start).takeWhile (· == 0)).length

/-- Where the longest run of zero groups starts, and its length; of equally long runs, the first. -/
def longestZeros (gs : List UInt16) : Nat × Nat :=
  (List.range gs.length).foldl
    (fun best i => if best.2 < zerosFrom gs i then (i, zerosFrom gs i) else best) (0, 0)

/-- The address of version 4 that a list of groups carries, if it is one mapped into version 6. -/
def mapped? : List UInt16 → Option Ipv4
  | [0, 0, 0, 0, 0, 0xffff, hi, lo] =>
    some ⟨(hi >>> 8).toUInt8, hi.toUInt8, (lo >>> 8).toUInt8, lo.toUInt8⟩
  | _ => none

/-- The characters of an address. The longest run of two or more zero groups is written as a double
colon, and an address that carries one of version 4 ends in the text of that. -/
def chars (x : Ipv6) : List Char :=
  match mapped? x.groups with
  | some v4 => ':' :: ':' :: 'f' :: 'f' :: 'f' :: 'f' :: ':' :: v4.chars
  | none =>
    let (start, length) := longestZeros x.groups
    if 1 < length then
      joined (x.groups.take start) ++ ':' :: ':' :: joined (x.groups.drop (start + length))
    else joined x.groups

/-- The text of an address. -/
def text (x : Ipv6) : String := String.ofList x.chars

/-- A group is one to four hexadecimal digits long. -/
def group? (s : List Char) : Option UInt16 :=
  if 1 ≤ s.length ∧ s.length ≤ 4 then (Text.hexNat? s).map UInt16.ofNat else none

/-- The two groups that an address of version 4 takes up. -/
def quadGroups (x : Ipv4) : List UInt16 :=
  [x.a.toUInt16 <<< 8 ||| x.b.toUInt16, x.c.toUInt16 <<< 8 ||| x.d.toUInt16]

/-- The groups that pieces of text stand for; the last piece may be an address of version 4 where
that is allowed. -/
def pieceGroups? (quadAllowed : Bool) : List (List Char) → Option (List UInt16)
  | [] => some []
  | [p] =>
    match quadAllowed, Ipv4.parse? p with
    | true, some x => some (quadGroups x)
    | _, _ => (group? p).map ([·])
  | p :: ps => do
    let g ← group? p
    let gs ← pieceGroups? quadAllowed ps
    return g :: gs

/-- The groups that a part of an address stands for; an empty part has none. -/
def partGroups? (quadAllowed : Bool) (s : List Char) : Option (List UInt16) :=
  if s = [] then some [] else pieceGroups? quadAllowed (Text.splitAll ':' s)

/-- The text before and after the first double colon. -/
def splitDouble : List Char → Option (List Char × List Char)
  | ':' :: ':' :: r => some ([], r)
  | c :: r => (splitDouble r).map fun (a, b) => (c :: a, b)
  | [] => none

/-- The address of eight groups. -/
def ofGroups? (gs : List UInt16) : Option Ipv6 :=
  if h : gs.length = 8 then some ⟨gs, h⟩ else none

/-- The address that a text stands for. A double colon stands for at least one zero group, and for
as many as are missing. -/
def parse? (s : List Char) : Option Ipv6 :=
  match splitDouble s with
  | none => (partGroups? true s).bind ofGroups?
  | some (front, back) => do
    let front ← partGroups? false front
    let back ← partGroups? true back
    if front.length + back.length ≤ 7 then
      ofGroups? (front ++ List.replicate (8 - (front.length + back.length)) 0 ++ back)
    else none

end Ipv6

end GroupPolicy

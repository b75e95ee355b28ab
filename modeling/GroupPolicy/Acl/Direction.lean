import GroupPolicy.Ordered.Order
import GroupPolicy.Text.Name
import GroupPolicy.Text.Split

namespace GroupPolicy

/-- The direction of the traffic that a list controls, as seen from the device. -/
inductive AclDirection where
  | ingress
  | egress
  deriving DecidableEq, Repr, Inhabited

namespace AclDirection

instance : Ranked AclDirection where
  rank
    | .ingress => 0
    | .egress => 1
  rank_inj {a b} h := by cases a <;> cases b <;> simp_all

/-- Both directions, in the order in which lists are written. -/
def all : List AclDirection := [.ingress, .egress]

theorem mem_all (d : AclDirection) : d ∈ all := by
  cases d <;> decide

/-- The characters of a direction's name. -/
def chars : AclDirection → List Char
  | .ingress => ['I', 'N', 'G', 'R', 'E', 'S', 'S']
  | .egress => ['E', 'G', 'R', 'E', 'S', 'S']

/-- The name of neither direction ends in that of the other one. -/
theorem chars_suffix_iff {d e : AclDirection} : d.chars <:+ e.chars ↔ d = e := by
  cases d <;> cases e <;> decide

/-- A text ends in the name of one direction at most. -/
theorem eq_of_chars_suffix {d e : AclDirection} {s : List Char} (hd : d.chars <:+ s)
    (he : e.chars <:+ s) : d = e := by
  -- Of two endings of a text, the shorter one is an ending of the longer one.
  rcases List.suffix_or_suffix_of_suffix hd he with hin | hin
  · exact chars_suffix_iff.mp hin
  · exact (chars_suffix_iff.mp hin).symm

/-- The name of a direction. -/
def text (d : AclDirection) : String := String.ofList d.chars

/-- The name of a direction in the names of entries. -/
def lowerText : AclDirection → String
  | .ingress => "ingress"
  | .egress => "egress"

/-- The other direction. -/
def opposite : AclDirection → AclDirection
  | .ingress => .egress
  | .egress => .ingress

/-- The direction a text names; letter case is ignored. -/
def ofText (s : String) : Except UnknownName AclDirection :=
  match Text.capitalized s with
  | "INGRESS" => .ok .ingress
  | "EGRESS" => .ok .egress
  | _ => .error ⟨"ACL direction", s⟩

end AclDirection

/-- The name of the list that controls an interface in a direction. -/
def aclName (interface : String) (d : AclDirection) : String := interface ++ d.text

/-- The interface and the direction that the name of a list tells. -/
def parseAclName (name : String) : Option (String × AclDirection) :=
  AclDirection.all.findSome? fun d =>
    (Text.stripEnd? d.chars name.toList).map fun interface => (String.ofList interface, d)

theorem toList_aclName (interface : String) (d : AclDirection) :
    (aclName interface d).toList = interface.toList ++ d.chars := by
  simp [aclName, AclDirection.text]

/-- A name that ends in the one direction does not end in the other one. -/
theorem stripEnd?_chars_of_ne {d e : AclDirection} (h : d ≠ e) (s : List Char) :
    Text.stripEnd? d.chars (s ++ e.chars) = none := by
  rw [Text.stripEnd?_eq_none_iff]
  intro hend
  exact h (AclDirection.eq_of_chars_suffix hend (List.suffix_append s e.chars))

/-- The name of a list tells its interface and its direction. -/
theorem parseAclName_aclName (interface : String) (d : AclDirection) :
    parseAclName (aclName interface d) = some (interface, d) := by
  unfold parseAclName
  rw [toList_aclName]
  cases d with
  | ingress => simp [AclDirection.all]
  | egress =>
    -- The other direction is looked for first, so it matters that the name does not end in it.
    have hne : AclDirection.ingress ≠ .egress := by decide
    simp [AclDirection.all, stripEnd?_chars_of_ne hne]

/-- A name that can be read is the one that its parts make. -/
theorem aclName_of_parseAclName {name interface : String} {d : AclDirection}
    (h : parseAclName name = some (interface, d)) : aclName interface d = name := by
  obtain ⟨e, _, he⟩ := List.exists_of_findSome?_eq_some h
  obtain ⟨chars, hchars, heq⟩ := Option.map_eq_some_iff.mp he
  obtain ⟨rfl, rfl⟩ := Prod.mk.inj heq
  have hname := Text.eq_append_of_stripEnd? hchars
  rw [← String.toList_inj, toList_aclName, String.toList_ofList, hname]

end GroupPolicy

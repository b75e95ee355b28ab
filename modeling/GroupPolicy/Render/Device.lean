import GroupPolicy.Acl.Document
import GroupPolicy.Ordered.Set
import GroupPolicy.Render.Location
import GroupPolicy.Render.RenderError

namespace GroupPolicy

/-- A list of a node, by name. -/
structure AclTarget where
  node : String
  name : String
  deriving DecidableEq, Repr, Inhabited

namespace AclTarget

/-- Targets are ordered by node and then by name. -/
instance : Ord AclTarget := ⟨compareLex (compareOn node) (compareOn name)⟩

instance : Std.TransOrd AclTarget :=
  inferInstanceAs (Std.TransCmp (compareLex (compareOn node) (compareOn name)))

instance : Std.LawfulEqOrd AclTarget where
  compare_self := Std.ReflOrd.compare_self
  eq_of_compare {a b} h := by
    simp only [compare, compareLex_eq_eq] at h
    obtain ⟨hnode, hname⟩ := h
    cases a
    cases b
    simp only [mk.injEq]
    exact ⟨Std.LawfulEqOrd.eq_of_compare hnode, Std.LawfulEqOrd.eq_of_compare hname⟩

/-- The list of an interface in a direction. -/
def ofLocation (l : Location) (d : AclDirection) : AclTarget := ⟨l.node, aclName l.interface d⟩

end AclTarget

/-- An interface in one direction. -/
structure Attachment where
  location : Location
  direction : AclDirection
  deriving DecidableEq, Repr, Inhabited

namespace Attachment

/-- Attachments are ordered by location and then by direction. -/
instance : Ord Attachment := ⟨compareLex (compareOn location) (compareOn direction)⟩

instance : Std.TransOrd Attachment :=
  inferInstanceAs (Std.TransCmp (compareLex (compareOn location) (compareOn direction)))

instance : Std.LawfulEqOrd Attachment where
  compare_self := Std.ReflOrd.compare_self
  eq_of_compare {a b} h := by
    simp only [compare, compareLex_eq_eq] at h
    obtain ⟨hlocation, hdirection⟩ := h
    cases a
    cases b
    simp only [mk.injEq]
    exact ⟨Std.LawfulEqOrd.eq_of_compare hlocation, Std.LawfulEqOrd.eq_of_compare hdirection⟩

end Attachment

/-- What the devices hold. -/
structure Device where
  /-- The lists of each node. -/
  acls : SortedMap AclTarget Acl := ∅
  /-- The name of the list that each interface is bound to in each direction. -/
  bindings : SortedMap Attachment String := ∅
  /-- The nodes that cannot be reached. -/
  unreachable : SortedSet String := ∅
  /-- How often a device has been asked to do something. -/
  calls : Nat := 0
  deriving DecidableEq, Inhabited

/-- The devices after an operation, and whether it was carried out. -/
structure Attempt where
  device : Device
  result : Except WriteError Unit

namespace Acl

/-- Entries with one more: it replaces the first entry of its name, or comes last. -/
def putEntry (e : AclEntry) : List AclEntry → List AclEntry
  | [] => [e]
  | x :: r => if x.name = e.name then e :: r else x :: putEntry e r

/-- The list with entries put into it in turn. -/
def putEntries (l : Acl) (es : List AclEntry) : Acl :=
  { l with entries := es.foldl (fun entries e => putEntry e entries) l.entries }

/-- The list without the entries of some names. -/
def dropEntries (l : Acl) (names : List String) : Acl :=
  { l with entries := l.entries.filter fun e => !names.contains e.name }

end Acl

namespace Device

/-- Asks a node to do something. The request counts even if the node cannot be reached. -/
def ask (s : Device) (node operation : String) (act : Device → Except String Device) : Attempt :=
  let s := { s with calls := s.calls + 1 }
  if s.unreachable.mem node then ⟨s, .error ⟨node, operation, "node unreachable"⟩⟩
  else
    match act s with
    | .ok s => ⟨s, .ok ()⟩
    | .error reason => ⟨s, .error ⟨node, operation, reason⟩⟩

/-- Puts a list on a node, in place of any of its name. -/
def writeAcl (s : Device) (node : String) (l : Acl) : Attempt :=
  s.ask node "write_acl" fun s => .ok { s with acls := s.acls.insert ⟨node, l.name⟩ l }

/-- Binds an interface to a list that its node holds. -/
def bindAcl (s : Device) (location : Location) (l : Acl) : Attempt :=
  s.ask location.node "bind_acl" fun s =>
    if s.acls.contains ⟨location.node, l.name⟩ then
      .ok { s with bindings := s.bindings.insert ⟨location, l.direction⟩ l.name }
    else .error ("ACL " ++ l.name ++ " does not exist")

/-- Puts entries into a list, which is made if the node does not hold it. -/
def writeEntries (s : Device) (node name : String) (es : List AclEntry) : Attempt :=
  s.ask node "write_entries" fun s =>
    match parseAclName name with
    | none => .error ("malformed ACL name " ++ name)
    | some (interface, direction) =>
      let l := s.acls.getD ⟨node, name⟩ (.ofInterface interface direction [])
      .ok { s with acls := s.acls.insert ⟨node, name⟩ (l.putEntries es) }

/-- Takes entries out of a list, if the node holds it. -/
def removeEntries (s : Device) (node name : String) (names : List String) : Attempt :=
  s.ask node "remove_entries" fun s =>
    match s.acls.get? ⟨node, name⟩ with
    | some l => .ok { s with acls := s.acls.insert ⟨node, name⟩ (l.dropEntries names) }
    | none => .ok s

/-- The list of a name on a node. -/
def acl? (s : Device) (node name : String) : Option Acl := s.acls.get? ⟨node, name⟩

/-- The lists, by node and name, as they stand in documents. -/
def aclValues (s : Device) : List Value :=
  s.acls.toList.map fun (target, l) => .object (written "node" target.node ++ written "acl" l)

/-- The bindings, by node, interface and direction, as they stand in documents. -/
def bindingValues (s : Device) : List Value :=
  s.bindings.toList.map fun (place, name) =>
    .object (written "node" place.location.node ++ written "interface" place.location.interface ++
      written "direction" place.direction ++ written "acl_name" name)

end Device

end GroupPolicy

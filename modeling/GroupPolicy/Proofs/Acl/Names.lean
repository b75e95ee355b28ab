import GroupPolicy.Render.Device

namespace GroupPolicy

variable {name interface interface' : String} {d d' : AclDirection} {l l' : Location}

/-- Reading accepts a name as that of an interface and a direction exactly if it is their name. -/
theorem parseAclName_eq_some_iff :
    parseAclName name = some (interface, d) ↔ aclName interface d = name := by
  constructor
  · exact aclName_of_parseAclName
  · rintro rfl
    exact parseAclName_aclName interface d

/-- Only names that end in neither direction are refused. -/
theorem parseAclName_eq_none_iff :
    parseAclName name = none ↔ ∀ d : AclDirection, ¬d.chars <:+ name.toList := by
  simp only [parseAclName, List.findSome?_eq_none_iff, Option.map_eq_none_iff,
    Text.stripEnd?_eq_none_iff, AclDirection.mem_all, forall_const]

theorem aclName_inj :
    aclName interface d = aclName interface' d' ↔ interface = interface' ∧ d = d' := by
  rw [eq_comm, ← parseAclName_eq_some_iff, parseAclName_aclName, Option.some.injEq, Prod.mk.injEq]

/-- The lists of different interfaces or directions have different places. -/
theorem AclTarget.ofLocation_inj :
    AclTarget.ofLocation l d = AclTarget.ofLocation l' d' ↔ l = l' ∧ d = d' := by
  obtain ⟨node, interface⟩ := l
  obtain ⟨node', interface'⟩ := l'
  rw [ofLocation, ofLocation, mk.injEq, aclName_inj, Location.mk.injEq, and_assoc]

/-- The name of a list encodes its interface and its direction faithfully. Whatever characters the
interface is made of, its name is read as that interface and that direction; what is read from a name
makes this name again; and a name is refused only if it ends in neither direction. So two lists have the
same place only if they are for the same interface of the same node in the same direction. -/
theorem list_names_faithful :
    (∀ interface d, parseAclName (aclName interface d) = some (interface, d)) ∧
    (∀ name interface d, parseAclName name = some (interface, d) ↔ aclName interface d = name) ∧
    (∀ name, parseAclName name = none ↔ ∀ d : AclDirection, ¬d.chars <:+ name.toList) ∧
    ∀ l l' d d', AclTarget.ofLocation l d = AclTarget.ofLocation l' d' ↔ l = l' ∧ d = d' := by
  refine ⟨parseAclName_aclName, fun name interface d => ?_, fun name => ?_, fun l l' d d' => ?_⟩
  · exact parseAclName_eq_some_iff
  · exact parseAclName_eq_none_iff
  · exact AclTarget.ofLocation_inj

/-- An interface may be called as a direction, or have no name at all; without any direction there is nothing
to read. -/
example : parseAclName "tap0INGRESSEGRESS" = some ("tap0INGRESS", .egress) ∧
    parseAclName "EGRESS" = some ("", .egress) ∧ parseAclName "tap0" = none := by
  decide

end GroupPolicy

import GroupPolicy.Proofs.Render.Colocation

namespace GroupPolicy

namespace Context

/-- The endpoints that are attached to a location, by key. -/
def endpointsOn (c : Context) (l : Location) : List Endpoint :=
  c.endpoints.values.filter fun e => e.location? = some l

variable {c : Context} {e e' : Endpoint} {j k : EndpointKey} {l : Location} {d : AclDirection}

theorem mem_endpointsOn :
    e ∈ c.endpointsOn l ↔ c.endpoint? e.key = some e ∧ e.location? = some l := by
  rw [endpointsOn, List.mem_filter, Registry.mem_values_iff, decide_eq_true_eq, endpoint?]

theorem locationOf?_of_endpoint? (he : c.endpoint? k = some e) : c.locationOf? k = e.location? := by
  rw [locationOf?, he, Option.bind_some]

theorem mem_keys_endpointsOn :
    k ∈ (c.endpointsOn l).map Endpoint.key ↔ c.locationOf? k = some l := by
  rw [List.mem_map]
  constructor
  · rintro ⟨e, he, rfl⟩
    obtain ⟨hknown, hlocation⟩ := mem_endpointsOn.mp he
    rw [locationOf?_of_endpoint? hknown, hlocation]
  · intro h
    obtain ⟨e, he, hlocation⟩ := Option.bind_eq_some_iff.mp h
    have hkey := key_of_endpoint? he
    exact ⟨e, mem_endpointsOn.mpr ⟨by rw [hkey, he], hlocation⟩, hkey⟩

/-- The endpoints of a location come by key, each of them once. -/
theorem ascending_endpointsOn (c : Context) (l : Location) :
    ((c.endpointsOn l).map Endpoint.key).Pairwise fun a b => compare a b = .lt := by
  have hkeys : c.endpoints.values.map Endpoint.key = c.endpoints.toMap.keys := by
    rw [Registry.values, SortedMap.values, List.map_map, SortedMap.keys]
    refine List.map_congr_left fun entry hentry => ?_
    exact c.endpoints.key_eq (SortedMap.get?_eq_some_iff.mpr hentry)
  refine List.Pairwise.sublist ?_ c.endpoints.toMap.ascending_keys
  rw [← hkeys]
  exact List.filter_sublist.map _

/-- An interface carries the policies of all endpoints that are attached to it. -/
theorem interfaceKeys_perm (hk : c.locationOf? k = some l) :
    (c.interfaceKeys k).Perm ((c.endpointsOn l).map Endpoint.key) := by
  refine (List.perm_ext_iff_of_nodup (c.nodup_interfaceKeys k)
    (nodup_of_ascending (c.ascending_endpointsOn l))).mpr fun j => ?_
  rw [mem_interfaceKeys, mem_keys_endpointsOn, hk]
  simp only [Option.some.injEq, exists_eq_left']
  constructor
  · rintro (rfl | hj)
    · exact hk
    · exact hj
  · exact .inr

theorem interfaceEntries_perm_endpointsOn (he : c.endpoint? k = some e) (hl : e.location? = some l)
    (d : AclDirection) : (c.interfaceEntries (.ofContext c) e d).value.Perm
      ((c.endpointsOn l).flatMap fun owner => (c.pairwiseEntries owner d).value) := by
  have hk : c.locationOf? k = some l := (locationOf?_of_endpoint? he).trans hl
  have hshared : ((c.endpointsOn l).map Endpoint.key).flatMap (fun j => (c.sharedEntries d j).value) =
      (c.endpointsOn l).flatMap fun owner => (c.pairwiseEntries owner d).value := by
    rw [List.flatMap_map]
    refine List.flatMap_congr fun owner howner => ?_
    rw [sharedEntries, (mem_endpointsOn.mp howner).1]
  rw [value_interfaceEntries he, ← hshared]
  exact (interfaceKeys_perm hk).flatMap_right _

/-- Endpoints on one interface have the same pairwise entries, up to their order. -/
theorem interfaceEntries_perm (he : c.endpoint? j = some e) (he' : c.endpoint? k = some e')
    (hl : e.location? = some l) (hl' : e'.location? = some l) (d : AclDirection) :
    (c.interfaceEntries (.ofContext c) e d).value.Perm
      (c.interfaceEntries (.ofContext c) e' d).value :=
  (interfaceEntries_perm_endpointsOn he hl d).trans (interfaceEntries_perm_endpointsOn he' hl' d).symm

end Context

end GroupPolicy

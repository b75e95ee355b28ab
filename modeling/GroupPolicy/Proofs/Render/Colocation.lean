import GroupPolicy.Proofs.Ordered.Map
import GroupPolicy.Proofs.Policy.Reachable
import GroupPolicy.Proofs.Render.Pairwise

namespace GroupPolicy

theorem groupByLocation_concat (es : List Endpoint) (e : Endpoint) :
    groupByLocation (es ++ [e]) =
      match e.location? with
      | some l => (groupByLocation es).insert l (((groupByLocation es).getD l ∅).add e.key)
      | none => groupByLocation es := by
  rw [groupByLocation, List.foldl_append]
  rfl

/-- The group of a location holds the endpoints that are attached there. -/
theorem mem_groupByLocation {es : List Endpoint} {l : Location} {k : EndpointKey} :
    k ∈ ((groupByLocation es).getD l ∅).members ↔ ∃ e ∈ es, e.location? = some l ∧ e.key = k := by
  induction es using List.reverseRecOn with
  | nil =>
    constructor
    · intro h
      exact absurd h (SortedSet.not_mem_members_empty k)
    · rintro ⟨e, he, -⟩
      cases he
  | append_singleton r e ih =>
    have hsplit : (∃ x ∈ r ++ [e], x.location? = some l ∧ x.key = k) ↔
        (e.location? = some l ∧ e.key = k) ∨ ∃ x ∈ r, x.location? = some l ∧ x.key = k := by
      simp [or_and_right, exists_or, or_comm]
    rw [hsplit, ← ih, groupByLocation_concat]
    cases hlocation : e.location? with
    | none => simp
    | some m =>
      dsimp only
      by_cases hm : l = m
      · subst hm
        rw [SortedMap.getD_insert_self, SortedSet.mem_members_add]
        simp [eq_comm]
      · rw [SortedMap.getD_insert_of_ne _ _ _ hm]
        have hne : ¬(some m = some l) := fun h => hm (Option.some.inj h).symm
        simp [hne]

/-- Where the endpoint of a key is attached, if it is known and attached somewhere. -/
def Context.locationOf? (c : Context) (k : EndpointKey) : Option Location :=
  (c.endpoint? k).bind Endpoint.location?

namespace Grouping

variable {c : Context} {j k : EndpointKey} {l : Location}

/-- A grouping holds an endpoint at exactly the location that it is attached to. -/
theorem mem_groups_ofContext :
    k ∈ ((ofContext c).groups.getD l ∅).members ↔ c.locationOf? k = some l := by
  have hgroups : (ofContext c).groups = groupByLocation c.endpoints.values := rfl
  rw [hgroups, mem_groupByLocation, Context.locationOf?, Option.bind_eq_some_iff]
  constructor
  · rintro ⟨e, he, hlocation, rfl⟩
    exact ⟨e, Registry.mem_values_iff.mp he, hlocation⟩
  · rintro ⟨e, he, hlocation⟩
    have hkey : e.key = k := Context.key_of_endpoint? he
    refine ⟨e, Registry.mem_values_iff.mpr ?_, hlocation, hkey⟩
    rw [hkey]
    exact he

theorem get?_locations_ofContext (c : Context) (k : EndpointKey) :
    (ofContext c).locations.get? k = c.locationOf? k := by
  have hlist (k : EndpointKey) (l : Location) :
      (k, l) ∈ ((ofContext c).groups.toList.flatMap fun group =>
        group.2.members.map fun k => (k, group.1)) ↔ c.locationOf? k = some l := by
    rw [← mem_groups_ofContext, SortedSet.mem_getD_iff, List.mem_flatMap]
    constructor
    · rintro ⟨⟨m, keys⟩, hmem, hk⟩
      obtain ⟨k', hk', heq⟩ := List.mem_map.mp hk
      obtain ⟨rfl, rfl⟩ := Prod.mk.inj heq
      exact ⟨keys, SortedMap.get?_eq_some_iff.mpr hmem, hk'⟩
    · rintro ⟨keys, hget, hk⟩
      exact ⟨(l, keys), SortedMap.get?_eq_some_iff.mp hget, List.mem_map.mpr ⟨k, hk, rfl⟩⟩
  refine Option.ext fun l => ?_
  rw [← hlist]
  refine SortedMap.get?_ofList_eq_some_iff fun k v w hv hw => ?_
  exact Option.some.inj (((hlist k v).mp hv).symm.trans ((hlist k w).mp hw))

theorem interfacesOf_ofContext (c : Context) (k : EndpointKey) :
    (ofContext c).interfacesOf k = (c.locationOf? k).toList := by
  rw [interfacesOf, get?_locations_ofContext]

theorem nodup_sharers (g : Grouping) (k : EndpointKey) : (g.sharers k).Nodup := by
  unfold sharers
  split
  next group _ =>
    split
    · exact SortedSet.nodup_members group
    · exact List.nodup_nil
  · exact List.nodup_nil

/-- The others that share the interface of an endpoint are those at the same location. -/
theorem mem_sharers_ofContext (hne : j ≠ k) :
    j ∈ (ofContext c).sharers k ↔ ∃ l, c.locationOf? k = some l ∧ c.locationOf? j = some l := by
  unfold sharers
  rw [get?_locations_ofContext]
  cases hlocation : c.locationOf? k with
  | none => simp
  | some l =>
    have hk : k ∈ ((ofContext c).groups.getD l ∅).members := mem_groups_ofContext.mpr hlocation
    obtain ⟨group, hgroup, hk⟩ := SortedSet.mem_getD_iff.mp hk
    have hj : j ∈ group.members ↔ c.locationOf? j = some l := by
      rw [← mem_groups_ofContext, SortedMap.getD, hgroup, Option.getD_some]
    rw [Option.bind_some, endpointsOn?, hgroup]
    simp only [Option.some.injEq, exists_eq_left']
    rw [← hj]
    split
    · exact Iff.rfl
    next hcard =>
      constructor
      · intro h
        cases h
      · intro h
        exact absurd (SortedSet.one_lt_card h hk hne) hcard

/-- Contexts of one version with the same endpoints have one grouping. -/
theorem ofContext_congr {c c' : Context} (hversion : c'.version = c.version)
    (hendpoints : c'.endpoints = c.endpoints) : ofContext c' = ofContext c := by
  rw [ofContext, ofContext, hversion, hendpoints]

theorem current_refresh (g : Grouping) (c : Context) :
    (g.refresh c).current = if g.version = some c.version then g else ofContext c := by
  unfold refresh
  split
  · rfl
  · dsimp only
    split
    · split <;> rfl
    · rfl

theorem published_refresh (g : Grouping) (c : Context) :
    (g.refresh c).published = g ∨ (g.refresh c).published = ofContext c := by
  unfold refresh
  split
  · exact .inl rfl
  · dsimp only
    split
    · split
      · exact .inl rfl
      · exact .inr rfl
    · exact .inr rfl

/-- A context with the endpoints of the one that the grouping in use was made from gets its own
grouping, at whichever version it is. -/
theorem current_refresh_ofContext {c c' : Context} (hendpoints : c'.endpoints = c.endpoints) :
    ((ofContext c).refresh c').current = ofContext c' := by
  rw [current_refresh]
  split
  next hversion => exact (ofContext_congr (Option.some.inj hversion).symm hendpoints).symm
  · rfl

end Grouping

namespace Context

variable {c c' : Context} {j k : EndpointKey} {owner : Endpoint} {d : AclDirection} {e : AclEntry}

/-- The endpoints whose policies the interface of an endpoint carries, the endpoint itself first. -/
def interfaceKeys (c : Context) (k : EndpointKey) : List EndpointKey :=
  k :: ((Grouping.ofContext c).sharers k).filter fun j => j != k

theorem mem_interfaceKeys :
    j ∈ c.interfaceKeys k ↔ j = k ∨ ∃ l, c.locationOf? k = some l ∧ c.locationOf? j = some l := by
  rw [interfaceKeys, List.mem_cons, List.mem_filter]
  by_cases hne : j = k
  · simp [hne]
  · rw [Grouping.mem_sharers_ofContext hne]
    simp [hne]

theorem nodup_interfaceKeys (c : Context) (k : EndpointKey) : (c.interfaceKeys k).Nodup := by
  refine List.nodup_cons.mpr ⟨fun h => ?_, (Grouping.nodup_sharers _ k).filter _⟩
  simpa using (List.mem_filter.mp h).2

/-- The entries of an interface are those of its endpoints in turn. -/
theorem value_interfaceEntries (howner : c.endpoint? k = some owner) (d : AclDirection) :
    (c.interfaceEntries (.ofContext c) owner d).value =
      (c.interfaceKeys k).flatMap fun j => (c.sharedEntries d j).value := by
  have hself : (c.sharedEntries d k).value = (c.pairwiseEntries owner d).value := by
    rw [sharedEntries, howner]
  rw [interfaceKeys, List.flatMap_cons, hself, interfaceEntries, key_of_endpoint? howner]
  rw [Logged.append, Logged.value_gather]

theorem mem_sharedEntries :
    e ∈ (c.sharedEntries d j).value ↔ ∃ owner, c.endpoint? j = some owner ∧ ∃ p peer,
      (c.endpoint? p = some peer ∧ peer.location?.isSome = true) ∧
        ∃ policy ∈ c.table.policies j p, e ∈ policy.entries owner peer d := by
  unfold sharedEntries
  cases howner : c.endpoint? j with
  | none => simp
  | some owner =>
    dsimp only
    rw [pairwiseEntries, mem_selectedEntries, key_of_endpoint? howner]
    simp

theorem mem_listEntries (howner : c.endpoint? k = some owner) {settings : AclSettings} :
    e ∈ (c.listEntries (.ofContext c) settings owner d).value ↔
      (∃ j ∈ c.interfaceKeys k, e ∈ (c.sharedEntries d j).value) ∨
        e ∈ c.defaultEntries settings owner d := by
  rw [listEntries, List.mem_append, value_interfaceEntries howner, List.mem_flatMap]

/-- Contexts with the same endpoints find the same peers and the same neighbours. -/
theorem lookups_congr (hendpoints : c'.endpoints = c.endpoints) :
    c'.endpoint? = c.endpoint? ∧ c'.locatedPeer = c.locatedPeer ∧ c'.locationOf? = c.locationOf? ∧
      (∀ k, c'.interfaceKeys k = c.interfaceKeys k) := by
  have hendpoint : c'.endpoint? = c.endpoint? := by
    funext k
    rw [endpoint?, hendpoints, endpoint?]
  refine ⟨hendpoint, ?_, ?_, ?_⟩
  · funext k
    rw [locatedPeer, hendpoint, locatedPeer]
  · funext k
    rw [locationOf?, hendpoint, locationOf?]
  · intro k
    have hsharers : (Grouping.ofContext c').sharers k = (Grouping.ofContext c).sharers k := by
      unfold Grouping.sharers Grouping.endpointsOn? Grouping.ofContext
      rw [hendpoints]
    rw [interfaceKeys, hsharers, interfaceKeys]

theorem defaultEntries_congr (hendpoints : c'.endpoints = c.endpoints) (hsubnets : c'.subnets = c.subnets)
    (settings : AclSettings) (owner : Endpoint) (d : AclDirection) :
    c'.defaultEntries settings owner d = c.defaultEntries settings owner d := by
  obtain ⟨hendpoint, -, -, -⟩ := lookups_congr hendpoints
  unfold defaultEntries denyEntries externalEntry? externalCidr? isLocated
  rw [hsubnets, hendpoint]

end Context

end GroupPolicy

import GroupPolicy.Proofs.Policy.Sample
import GroupPolicy.Proofs.Render.Colocation

namespace GroupPolicy

theorem Endpoint.toOption_resolveLocation (e : Endpoint) : e.resolveLocation.toOption = e.location? := by
  unfold resolveLocation
  cases e.location? <;> rfl

section Groups

variable {es es' : List Endpoint} {l : Location} {s : SortedSet EndpointKey}

theorem omits_groupByLocation (es : List Endpoint) : (groupByLocation es).Omits ∅ := by
  induction es using List.reverseRecOn with
  | nil => exact SortedMap.omits_empty _
  | append_singleton r e ih =>
    rw [groupByLocation_concat]
    cases e.location? with
    | none => exact ih
    | some l => exact ih.insert l (SortedSet.add_ne_empty _ e.key)

/-- The groups are those of the locations at which something is attached, and each of them holds exactly
what is attached there. -/
theorem get?_groupByLocation_eq_some_iff :
    (groupByLocation es).get? l = some s ↔ (∃ e ∈ es, e.location? = some l) ∧
      ∀ k, k ∈ s.members ↔ ∃ e ∈ es, e.location? = some l ∧ e.key = k := by
  rw [(omits_groupByLocation es).get?_eq_some_iff]
  constructor
  · rintro ⟨rfl, hne⟩
    obtain ⟨k, hk⟩ := SortedSet.exists_mem_of_ne_empty hne
    obtain ⟨e, he, hlocation, -⟩ := mem_groupByLocation.mp hk
    exact ⟨⟨e, he, hlocation⟩, fun _ => mem_groupByLocation⟩
  · rintro ⟨⟨e, he, hlocation⟩, hmembers⟩
    constructor
    · apply SortedSet.ext_members
      intro k
      rw [mem_groupByLocation, hmembers]
    · rintro rfl
      exact SortedSet.not_mem_members_empty e.key ((hmembers e.key).mpr ⟨e, he, hlocation, rfl⟩)

theorem contains_groupByLocation :
    (groupByLocation es).contains l = true ↔ ∃ e ∈ es, e.location? = some l := by
  rw [SortedMap.contains, Option.isSome_iff_exists]
  constructor
  · rintro ⟨s, hs⟩
    exact (get?_groupByLocation_eq_some_iff.mp hs).1
  · intro h
    exact ⟨_, get?_groupByLocation_eq_some_iff.mpr ⟨h, fun _ => mem_groupByLocation⟩⟩

/-- Neither the order of the endpoints nor how often one is listed makes a difference. -/
theorem groupByLocation_congr (h : ∀ e, e ∈ es' ↔ e ∈ es) : groupByLocation es' = groupByLocation es := by
  apply SortedMap.ext_getD (omits_groupByLocation es') (omits_groupByLocation es)
  intro l
  apply SortedSet.ext_members
  intro k
  simp only [mem_groupByLocation, h]

end Groups

/-- Endpoints that are still to be grouped, and the groups that have been made so far. -/
structure Worklist where
  /-- The keys that are left, each with its location if it has one. -/
  remaining : List (EndpointKey × Option Location)
  /-- The groups so far. -/
  groups : SortedMap Location (SortedSet EndpointKey) := ∅

namespace Worklist

variable {es : List Endpoint} {w w' : Worklist} {l : Location}
  {groups : SortedMap Location (SortedSet EndpointKey)}

/-- All endpoints are left. -/
def ofEndpoints (es : List Endpoint) : Worklist where
  remaining := es.map fun e => (e.key, e.resolveLocation.toOption)

/-- The group of a location leaves the list. -/
def takeOut (w : Worklist) (l : Location) : Worklist where
  remaining := w.remaining.filter fun x => x.2 ≠ some l
  groups := w.groups.insert l (.ofMembers ((w.remaining.filter fun x => x.2 = some l).map (·.1)))

/-- One round, for the first location that is left. There is none once no location is left; keys without
a location stay on the list. -/
def next? (w : Worklist) : Option Worklist := (w.remaining.findSome? (·.2)).map w.takeOut

/-- Rounds up to the last one lead to these groups. -/
inductive Yields : Worklist → SortedMap Location (SortedSet EndpointKey) → Prop where
  | done {w : Worklist} (h : w.next? = none) : w.Yields w.groups
  | round {w w' : Worklist} {groups : SortedMap Location (SortedSet EndpointKey)}
      (h : w.next? = some w') (rest : w'.Yields groups) : w.Yields groups

theorem next?_eq_none_iff : w.next? = none ↔ ∀ x ∈ w.remaining, x.2 = none := by
  rw [next?, Option.map_eq_none_iff, List.findSome?_eq_none_iff]

/-- A round takes out the location of something that is left. -/
theorem exists_of_next?_eq_some (h : w.next? = some w') :
    ∃ k l, (k, some l) ∈ w.remaining ∧ w' = w.takeOut l := by
  obtain ⟨l, hl, rfl⟩ := Option.map_eq_some_iff.mp h
  obtain ⟨⟨k, o⟩, hmem, rfl⟩ := List.exists_of_findSome?_eq_some hl
  exact ⟨k, l, hmem, rfl⟩

theorem mem_members_takeOut {k : EndpointKey} :
    k ∈ ((w.takeOut l).groups.getD l ∅).members ↔ (k, some l) ∈ w.remaining := by
  rw [takeOut, SortedMap.getD_insert_self, SortedSet.mem_members_ofMembers]
  simp

/-- Every round shortens the list. -/
theorem length_remaining_lt (h : w.next? = some w') :
    w'.remaining.length < w.remaining.length := by
  obtain ⟨k, l, hmem, rfl⟩ := exists_of_next?_eq_some h
  apply List.length_filter_lt_length_iff_exists.mpr
  exact ⟨(k, some l), hmem, by simp⟩

/-- The rounds come to an end. -/
theorem exists_yields (w : Worklist) : ∃ groups, w.Yields groups := by
  induction hn : w.remaining.length using Nat.strongRecOn generalizing w with
  | ind n ih =>
    cases hnext : w.next? with
    | none => exact ⟨w.groups, .done hnext⟩
    | some w' =>
      obtain ⟨groups, hrest⟩ := ih _ (hn ▸ length_remaining_lt hnext) w' rfl
      exact ⟨groups, .round hnext hrest⟩

/-- A list that some rounds have left of the endpoints. -/
structure IsLeftOf (es : List Endpoint) (w : Worklist) : Prop where
  /-- The groups so far are groups of the endpoints. -/
  get?_eq : ∀ l s, w.groups.get? l = some s → (groupByLocation es).get? l = some s
  /-- What is left is what has no group so far. -/
  mem_remaining : ∀ k o, (k, o) ∈ w.remaining ↔
    (∃ e ∈ es, e.location? = o ∧ e.key = k) ∧ ∀ l, o = some l → w.groups.get? l = none

namespace IsLeftOf

theorem ofEndpoints (es : List Endpoint) : (Worklist.ofEndpoints es).IsLeftOf es where
  get?_eq _ _ h := nomatch h
  mem_remaining k o := by
    have hnone : ∀ l, o = some l → (Worklist.ofEndpoints es).groups.get? l = none := fun _ _ => rfl
    rw [and_iff_left hnone, Worklist.ofEndpoints, List.mem_map]
    simp only [Endpoint.toOption_resolveLocation, Prod.mk.injEq, and_comm]

theorem next? (h : w.IsLeftOf es) (hnext : w.next? = some w') : w'.IsLeftOf es := by
  obtain ⟨k, l, hmem, rfl⟩ := exists_of_next?_eq_some hnext
  obtain ⟨⟨e, he, hlocation, -⟩, hnew⟩ := (h.mem_remaining k (some l)).mp hmem
  refine ⟨fun m s hs => ?_, fun j o => ?_⟩
  · by_cases hm : m = l
    · -- Nothing at the location has left the list before, so all of it makes up the new group.
      subst hm
      refine get?_groupByLocation_eq_some_iff.mpr ⟨⟨e, he, hlocation⟩, fun j => ?_⟩
      have hgroup : s = (w.takeOut m).groups.getD m ∅ := by rw [SortedMap.getD, hs, Option.getD_some]
      rw [hgroup, mem_members_takeOut, h.mem_remaining]
      exact and_iff_left hnew
    · apply h.get?_eq m s
      rwa [takeOut, SortedMap.get?_insert_of_ne _ _ hm] at hs
  · rw [takeOut, List.mem_filter, h.mem_remaining, and_assoc]
    refine and_congr_right fun _ => ?_
    dsimp only
    cases o with
    | none => simp
    | some m => by_cases hm : m = l <;> simp [hm, SortedMap.get?_insert]

theorem groups_eq (h : w.IsLeftOf es) (hend : w.next? = none) : w.groups = groupByLocation es := by
  apply SortedMap.ext_get?
  intro l
  cases hget : w.groups.get? l with
  | some s => exact (h.get?_eq l s hget).symm
  | none =>
    symm
    apply Option.eq_none_iff_forall_ne_some.mpr
    intro s hs
    obtain ⟨⟨e, he, hlocation⟩, -⟩ := get?_groupByLocation_eq_some_iff.mp hs
    have hleft : (e.key, some l) ∈ w.remaining := by
      apply (h.mem_remaining e.key (some l)).mpr
      refine ⟨⟨e, he, hlocation, rfl⟩, fun m hm => ?_⟩
      rwa [← Option.some.inj hm]
    cases next?_eq_none_iff.mp hend _ hleft

theorem eq_of_yields (h : w.IsLeftOf es) (hyields : w.Yields groups) : groups = groupByLocation es := by
  induction hyields with
  | done hend => exact h.groups_eq hend
  | round hnext _ ih => exact ih (h.next? hnext)

end IsLeftOf

/-- The rounds come to an end, and to the groups that one walk over the endpoints makes. -/
theorem yields_iff : (ofEndpoints es).Yields groups ↔ groups = groupByLocation es := by
  constructor
  · exact (IsLeftOf.ofEndpoints es).eq_of_yields
  · rintro rfl
    obtain ⟨groups, hyields⟩ := exists_yields (ofEndpoints es)
    rwa [(IsLeftOf.ofEndpoints es).eq_of_yields hyields] at hyields

end Worklist

namespace Grouping

variable {c : Context} {j k : EndpointKey} {l : Location} {s : SortedSet EndpointKey}

theorem mem_group_ofContext (hs : (ofContext c).groups.get? l = some s) :
    k ∈ s.members ↔ c.locationOf? k = some l := by
  rw [← mem_groups_ofContext, SortedMap.getD, hs, Option.getD_some]

theorem sharers_of_mem (hs : (ofContext c).groups.get? l = some s) (hk : k ∈ s.members) :
    (ofContext c).sharers k = if 2 ≤ s.members.length then s.members else [] := by
  have hcard : s.card = s.members.length := (List.length_map _).symm
  rw [sharers, get?_locations_ofContext, (mem_group_ofContext hs).mp hk, Option.bind_some, endpointsOn?, hs]
  simp only [hcard]
  rfl

theorem sharers_of_unlocated (hk : c.locationOf? k = none) : (ofContext c).sharers k = [] := by
  rw [sharers, get?_locations_ofContext, hk, Option.bind_none]

/-- Those who share an interface all see the same others, themselves among them. -/
theorem sharers_eq_of_mem (h : j ∈ (ofContext c).sharers k) :
    (ofContext c).sharers j = (ofContext c).sharers k ∧ k ∈ (ofContext c).sharers k := by
  cases hlocation : c.locationOf? k with
  | none =>
    rw [sharers_of_unlocated hlocation] at h
    cases h
  | some l =>
    obtain ⟨s, hs, hk⟩ := SortedSet.mem_getD_iff.mp (mem_groups_ofContext.mpr hlocation)
    rw [sharers_of_mem hs hk] at h ⊢
    split at h
    next htwo =>
      rw [sharers_of_mem hs h, if_pos htwo]
      exact ⟨rfl, hk⟩
    · cases h

/-- A grouping that divides the endpoints of a context by their locations. -/
structure Partitions (c : Context) (g : Grouping) : Prop where
  /-- The location of a key is the one whose group holds it. -/
  location_iff : ∀ k l, g.locations.get? k = some l ↔ ∃ s, g.groups.get? l = some s ∧ k ∈ s.members
  /-- No key is in two groups. -/
  disjoint : ∀ l l' s s', g.groups.get? l = some s → g.groups.get? l' = some s' → l ≠ l' →
    s.members.Disjoint s'.members
  /-- A group is listed in the order of its keys. -/
  ascending : ∀ l s, g.groups.get? l = some s → s.members.Pairwise fun j k => compare j k = .lt
  /-- What is attached nowhere is in no group and shares no interface. -/
  unlocated : ∀ k, c.locationOf? k = none →
    g.sharers k = [] ∧ ∀ l s, g.groups.get? l = some s → k ∉ s.members
  interfacesOf_eq : ∀ k, g.interfacesOf k = (c.locationOf? k).toList
  /-- An interface is shared by its whole group, if this has two members at least. -/
  sharers_eq : ∀ l s, g.groups.get? l = some s → ∀ k ∈ s.members,
    g.sharers k = if 2 ≤ s.members.length then s.members else []
  sharers_symm : ∀ j k, j ∈ g.sharers k → k ∈ g.sharers j
  sharers_trans : ∀ i j k, i ∈ g.sharers j → j ∈ g.sharers k → i ∈ g.sharers k

theorem partitions_ofContext (c : Context) : (ofContext c).Partitions c where
  location_iff k l := by
    rw [get?_locations_ofContext, ← mem_groups_ofContext]
    exact SortedSet.mem_getD_iff
  disjoint l l' s s' hs hs' hne := by
    intro k hk hk'
    rw [mem_group_ofContext hs] at hk
    rw [mem_group_ofContext hs', hk] at hk'
    exact hne (Option.some.inj hk')
  ascending _ s _ := s.ascending_keys
  unlocated k hk := by
    refine ⟨sharers_of_unlocated hk, fun l s hs hmem => ?_⟩
    rw [mem_group_ofContext hs, hk] at hmem
    cases hmem
  interfacesOf_eq := interfacesOf_ofContext c
  sharers_eq _ _ hs _ hk := sharers_of_mem hs hk
  sharers_symm j k h := by
    obtain ⟨hsame, hk⟩ := sharers_eq_of_mem h
    rwa [hsame]
  sharers_trans i j k hi hj := by
    obtain ⟨hsame, -⟩ := sharers_eq_of_mem hj
    rwa [← hsame]

end Grouping

/-- Rounds on the list of any endpoints come to an end, and they lead to one group for each location at
which one of these is attached, which holds exactly the keys of those attached there; the order of the list
does not matter. The grouping of a context consists of such groups, and divides its endpoints. -/
theorem grouping_partitions :
    (∀ es : List Endpoint,
      (∀ groups, (Worklist.ofEndpoints es).Yields groups ↔ groups = groupByLocation es) ∧
      (∀ l, (groupByLocation es).contains l = true ↔ ∃ e ∈ es, e.location? = some l) ∧
      (∀ l s, (groupByLocation es).get? l = some s →
        s.members ≠ [] ∧ ∀ k, k ∈ s.members ↔ ∃ e ∈ es, e.location? = some l ∧ e.key = k) ∧
      ∀ es', (∀ e, e ∈ es' ↔ e ∈ es) → (Worklist.ofEndpoints es').Yields (groupByLocation es)) ∧
    ∀ c : Context, (Worklist.ofEndpoints c.endpoints.values).Yields (Grouping.ofContext c).groups ∧
      (Grouping.ofContext c).Partitions c := by
  constructor
  · intro es
    refine ⟨fun _ => Worklist.yields_iff, fun _ => contains_groupByLocation, fun l s hs => ?_, fun es' h => ?_⟩
    · obtain ⟨⟨e, he, hlocation⟩, hmembers⟩ := get?_groupByLocation_eq_some_iff.mp hs
      exact ⟨List.ne_nil_of_mem ((hmembers e.key).mpr ⟨e, he, hlocation, rfl⟩), hmembers⟩
    · rw [← groupByLocation_congr h]
      exact Worklist.yields_iff.mpr rfl
  · intro c
    exact ⟨Worklist.yields_iff.mpr rfl, Grouping.partitions_ofContext c⟩

/-- Two endpoints that share an interface, one that has an interface for itself, and one that is attached
nowhere. -/
theorem grouping_partitions_shared :
    let key := Sample.key
    let loose : Endpoint := { Sample.server with key := key "10.0.0.5", location := none }
    let es := [Sample.endpoint "10.0.0.9" "tap1", Sample.server, loose, Sample.endpoint "10.0.0.2" "tap0"]
    let shared := SortedSet.ofMembers [key "10.0.0.1", key "10.0.0.2"]
    let groups := SortedMap.ofList [(Sample.serverLocation, shared), (⟨"node", "tap1"⟩, .ofMembers [key "10.0.0.9"])]
    let g := Grouping.ofContext (es.foldl Context.addEndpoint { version := 1 })
    (Worklist.ofEndpoints es).Yields groups ∧ (Worklist.ofEndpoints es.reverse).Yields groups ∧
      (∀ k, k ∈ shared.members ↔ ∃ e ∈ es, e.location? = some Sample.serverLocation ∧ e.key = k) ∧
      key "10.0.0.1" ∈ g.sharers (key "10.0.0.2") ∧ g.sharers (key "10.0.0.1") = shared.members ∧
      g.sharers (key "10.0.0.9") = [] ∧ g.sharers (key "10.0.0.5") = [] := by
  intro key loose es shared groups g
  obtain ⟨hyields, -, hmembers, hreverse⟩ := grouping_partitions.1 es
  obtain ⟨-, hdivides⟩ := grouping_partitions.2 (es.foldl Context.addEndpoint { version := 1 })
  have hgroups : groups = groupByLocation es := by decide +kernel
  have hshared : g.groups.get? Sample.serverLocation = some shared := by decide +kernel
  have hsingle : g.groups.get? ⟨"node", "tap1"⟩ = some (.ofMembers [key "10.0.0.9"]) := by decide +kernel
  have hfirst : g.sharers (key "10.0.0.1") = shared.members :=
    (hdivides.sharers_eq _ _ hshared _ (SortedSet.mem_members_ofMembers.mpr List.mem_cons_self)).trans
      (if_pos (by decide +kernel))
  refine ⟨(hyields _).mpr hgroups, ?_, ?_, ?_, hfirst, ?_, ?_⟩
  · rw [hgroups]
    exact hreverse _ fun e => List.mem_reverse
  · exact (hmembers Sample.serverLocation shared (by decide +kernel)).2
  · apply hdivides.sharers_symm
    rw [hfirst, SortedSet.mem_members_ofMembers]
    exact List.mem_cons_of_mem _ List.mem_cons_self
  · exact hdivides.sharers_eq _ _ hsingle (key "10.0.0.9")
      (SortedSet.mem_members_ofMembers.mpr List.mem_cons_self)
  · exact (hdivides.unlocated (key "10.0.0.5") (by decide +kernel)).1

end GroupPolicy

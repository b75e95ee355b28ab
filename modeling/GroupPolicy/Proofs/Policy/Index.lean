import GroupPolicy.Proofs.Policy.Edits

namespace GroupPolicy

theorem AppliedPolicy.place_ne_nil (p : AppliedPolicy) (l : List AppliedPolicy) : p.place l ≠ [] :=
  List.ne_nil_of_mem (mem_place.mpr (.inl rfl))

namespace PolicyTable

/-- Whether every endpoint of a table has a peer, and every cell a policy. -/
structure IsTight (t : PolicyTable) : Prop where
  rows : t.rows.Omits ∅
  cells : ∀ owner, (t.row owner).Omits []

variable {t t' : PolicyTable} {owner peer : EndpointKey} {policy : AppliedPolicy}

theorem isTight_empty : (∅ : PolicyTable).IsTight where
  rows := SortedMap.omits_empty _
  cells _ := SortedMap.omits_empty _

theorem IsTight.insert (h : t.IsTight) (owner peer : EndpointKey) (policy : AppliedPolicy) :
    (t.insert owner peer policy).IsTight := by
  by_cases hmem : policy ∈ t.policies owner peer
  · rwa [PolicyTable.insert, if_pos hmem]
  · have hplaced := policy.place_ne_nil (t.policies owner peer)
    constructor
    · rw [PolicyTable.insert, if_neg hmem]
      refine h.rows.insert owner fun hempty => ?_
      have hcell := SortedMap.get?_insert_self (t.row owner) peer (policy.place (t.policies owner peer))
      rw [hempty] at hcell
      cases hcell
    · intro o
      by_cases ho : o = owner
      · subst ho
        rw [row_insert_self hmem]
        exact (h.cells o).insert peer hplaced
      · rw [row_insert_of_ne t peer policy ho]
        exact h.cells o

/-- Tables without empty rows and cells are the same if their cells are. -/
theorem IsTight.ext (h : t.IsTight) (h' : t'.IsTight)
    (hcells : ∀ owner peer, t.policies owner peer = t'.policies owner peer) : t = t' := by
  have hrows : t.rows = t'.rows := SortedMap.ext_getD h.rows h'.rows fun owner =>
    SortedMap.ext_getD (h.cells owner) (h'.cells owner) (hcells owner)
  cases t
  cases t'
  exact congrArg PolicyTable.mk hrows

theorem IsTight.ne_nil_of_mem_peers (h : t.IsTight) {cell : List AppliedPolicy}
    (hcell : (peer, cell) ∈ t.peers owner) : cell ≠ [] := by
  rintro rfl
  exact h.cells owner peer (SortedMap.get?_eq_some_iff.mpr hcell)

theorem IsTight.mem_owners_iff (h : t.IsTight) :
    owner ∈ t.owners ↔ ∃ peer policy, policy ∈ t.policies owner peer := by
  constructor
  -- The row of the endpoint has a cell, and the cell a policy, since neither is empty.
  · intro howner
    obtain ⟨cells, hcells⟩ := SortedMap.mem_keys_iff.mp howner
    have hrow : t.row owner = cells := by rw [row, SortedMap.getD, hcells, Option.getD_some]
    cases hentries : cells.toList with
    | nil =>
      have hempty : cells = ∅ := SortedMap.ext_toList hentries
      exact absurd (hempty ▸ hcells) (h.rows owner)
    | cons entry rest =>
      obtain ⟨peer, cell⟩ := entry
      have hpeer : (peer, cell) ∈ t.peers owner := by
        rw [peers, hrow, hentries]
        exact List.mem_cons_self
      obtain ⟨policy, hpolicy⟩ := List.exists_mem_of_ne_nil cell (h.ne_nil_of_mem_peers hpeer)
      exact ⟨peer, policy, policies_of_mem_peers hpeer ▸ hpolicy⟩
  · rintro ⟨peer, policy, hpolicy⟩
    exact mem_owners_of_mem_policies hpolicy

end PolicyTable

namespace Context

variable {c c' : Context} {owner : EndpointKey} {g : RuleGroupKey}

theorem mem_ruleGroupsOf_iff : g ∈ (c.ruleGroupsOf owner).members ↔
    ∃ peer, ∃ policy ∈ c.table.policies owner peer, policy.group.key = g := by
  rw [ruleGroupsOf, SortedSet.mem_members_ofMembers, List.mem_flatMap]
  constructor
  · rintro ⟨⟨peer, cell⟩, hcell, hg⟩
    obtain ⟨policy, hpolicy, hkey⟩ := List.mem_map.mp hg
    exact ⟨peer, policy, PolicyTable.policies_of_mem_peers hcell ▸ hpolicy, hkey⟩
  · rintro ⟨peer, policy, hpolicy, hkey⟩
    exact ⟨_, PolicyTable.mem_peers_of_mem_policies hpolicy, List.mem_map.mpr ⟨policy, hpolicy, hkey⟩⟩

namespace Reachable

theorem isTight_table (h : c.Reachable) : c.table.IsTight :=
  h.table_of_insert PolicyTable.isTight_empty fun _ owner peer policy ht => ht.insert owner peer policy

theorem omits_members (h : c.Reachable) : c.members.Omits ∅ := by
  induction h with
  | blank version => exact SortedMap.omits_empty _
  | withVersion _ version ih => exact ih
  | addEndpoint _ e ih => exact ih
  | addSubnet _ s ih => exact ih
  | addRuleGroup _ g ih => exact ih
  | @addPolicy c c' row _ hrow ih =>
    obtain ⟨group, -, rfl⟩ := addPolicy?_eq_some_iff.mp hrow
    exact ih.insert row.ruleGroup (SortedSet.add_ne_empty _ row.owner)

/-- The members of a rule group are the endpoints that have a policy of the group. -/
theorem mem_membersOf_iff (h : c.Reachable) : owner ∈ c.membersOf g ↔
    ∃ peer, ∃ policy ∈ c.table.policies owner peer, policy.group.key = g := by
  constructor
  · intro howner
    induction h with
    | blank version => exact absurd howner (SortedSet.not_mem_members_empty owner)
    | withVersion _ version ih => exact ih howner
    | addEndpoint _ e ih => exact ih howner
    | addSubnet _ s ih => exact ih howner
    | addRuleGroup _ g ih => exact ih howner
    | @addPolicy c c' row _ hrow ih =>
      rcases (mem_membersOf_addPolicy hrow).mp howner with hold | ⟨rfl, rfl⟩
      · obtain ⟨peer, policy, hpolicy, hkey⟩ := ih hold
        obtain ⟨group, -, rfl⟩ := addPolicy?_eq_some_iff.mp hrow
        exact ⟨peer, policy, PolicyTable.mem_policies_insert.mpr (.inl hpolicy), hkey⟩
      · -- The row has put its own policy into the table, or found it there.
        obtain ⟨group, hgroup, rfl⟩ := addPolicy?_eq_some_iff.mp hrow
        exact ⟨row.peer, ⟨row.participation, group⟩,
          PolicyTable.mem_policies_insert.mpr (.inr ⟨rfl, rfl, rfl⟩), key_of_ruleGroup? hgroup⟩
  · rintro ⟨peer, policy, hpolicy, rfl⟩
    exact h.mem_membersOf hpolicy

/-- Contexts that can come about are the same if they know the same and have the same cells. -/
theorem ext (h : c.Reachable) (h' : c'.Reachable) (hversion : c.version = c'.version)
    (hendpoints : c.endpoints = c'.endpoints) (hsubnets : c.subnets = c'.subnets)
    (hgroups : c.ruleGroups = c'.ruleGroups)
    (hcells : ∀ owner peer, c.table.policies owner peer = c'.table.policies owner peer) : c = c' := by
  have htable : c.table = c'.table := h.isTight_table.ext h'.isTight_table hcells
  have hmembers : c.members = c'.members := by
    refine SortedMap.ext_getD h.omits_members h'.omits_members fun g => SortedSet.ext_members fun k => ?_
    have hmem : k ∈ c.membersOf g ↔ k ∈ c'.membersOf g := by
      rw [h.mem_membersOf_iff, h'.mem_membersOf_iff, htable]
    exact hmem
  cases c
  cases c'
  simp only [mk.injEq]
  exact ⟨hversion, htable, hgroups, hendpoints, hsubnets, hmembers⟩

end Reachable

end Context

/-- After any sequence of edits, an endpoint is a member of a rule group, has the group among its rule
groups, and has a policy of the group in some cell, all or none of it; the endpoints to render are those
that are members of some group; a row is not taken exactly if its rule group is not known, and then it
changes nothing and is all that is skipped; and every cell stands by precedence and holds no policy
twice. -/
theorem index_agrees (version : UInt64) (edits : List Context.Edit) :
    let c := Context.run { version } edits
    (∀ owner g, (owner ∈ c.membersOf g ↔ g ∈ (c.ruleGroupsOf owner).members) ∧
      (g ∈ (c.ruleGroupsOf owner).members ↔
        ∃ peer, ∃ policy ∈ c.table.policies owner peer, policy.group.key = g)) ∧
    (∀ owner, owner ∈ c.rendererEndpoints ↔ ∃ g, owner ∈ c.membersOf g) ∧
    (∀ row, ((c.addPolicy row).2 = false ↔ c.ruleGroup? row.ruleGroup = none) ∧
      ((c.addPolicy row).2 = false → (c.addPolicy row).1 = c ∧ c.addPolicies [row] = (c, [row]))) ∧
    ∀ owner peer, AppliedPolicy.IsSorted (c.table.policies owner peer) ∧
      (c.table.policies owner peer).Nodup := by
  intro c
  have hc : c.Reachable := (Context.Reachable.blank version).run edits
  refine ⟨fun owner g => ⟨?_, Context.mem_ruleGroupsOf_iff⟩, fun owner => ?_,
    fun row => ⟨Context.addPolicy_snd_eq_false_iff, fun hrow => ?_⟩,
    fun owner peer => ⟨hc.isSorted_policies owner peer, hc.nodup_policies owner peer⟩⟩
  · rw [hc.mem_membersOf_iff, Context.mem_ruleGroupsOf_iff]
  · rw [Context.rendererEndpoints, hc.isTight_table.mem_owners_iff]
    constructor
    · rintro ⟨peer, policy, hpolicy⟩
      exact ⟨policy.group.key, hc.mem_membersOf hpolicy⟩
    · rintro ⟨g, howner⟩
      obtain ⟨peer, policy, hpolicy, -⟩ := hc.mem_membersOf_iff.mp howner
      exact ⟨peer, policy, hpolicy⟩
  · have hnone := Context.addPolicy?_eq_none_iff.mpr (Context.addPolicy_snd_eq_false_iff.mp hrow)
    exact ⟨congrArg Prod.fst (Context.addPolicy_of_none hnone), Context.addPolicies_cons_of_none hnone []⟩

/-- Where a rule group is registered anew between two rows that are alike, the cell holds the group as it was
and as it is, and the endpoint is one member of it; a row of another group is skipped. -/
theorem index_agrees_registered_anew :
    let row := Sample.admission
    let unknown := Sample.row "10.0.0.2" "10.0.0.9" "ssh" .provider
    let c := Context.run { version := 1 } Sample.registeredAnew
    c.table.policies row.owner row.peer =
        [⟨.provider, Sample.group "http" 80⟩, ⟨.provider, Sample.group "http" 8080⟩] ∧
      c.membersOf row.ruleGroup = [row.owner] ∧ row.ruleGroup ∈ (c.ruleGroupsOf row.owner).members ∧
      c.addPolicy unknown = (c, false) ∧ c.addPolicies [unknown] = (c, [unknown]) := by
  intro row unknown c
  have hmembers : c.membersOf row.ruleGroup = [row.owner] := by decide +kernel
  obtain ⟨hindex, -, hskipped, -⟩ := index_agrees 1 Sample.registeredAnew
  obtain ⟨hunknown, hsame⟩ := hskipped unknown
  have hrefused : (c.addPolicy unknown).2 = false := hunknown.mpr (by decide +kernel)
  refine ⟨by decide +kernel, hmembers, (hindex row.owner row.ruleGroup).1.mp ?_,
    Prod.ext (hsame hrefused).1 hrefused, (hsame hrefused).2⟩
  exact hmembers ▸ List.mem_cons_self

end GroupPolicy

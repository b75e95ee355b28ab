import GroupPolicy.Proofs.Policy.Sample
import GroupPolicy.Proofs.Render.Attached
import GroupPolicy.Proofs.Render.Plans
import GroupPolicy.Proofs.Render.Sites

namespace GroupPolicy

namespace Context

/-- The peers of an endpoint that are known and attached somewhere, by key. -/
def locatedPeers (c : Context) (owner : Endpoint) : List Endpoint :=
  (c.table.peers owner.key).filterMap fun cell =>
    (c.endpoint? cell.1).filter fun peer => peer.location?.isSome

theorem value_locatedPeer (c : Context) (k : EndpointKey) :
    (c.locatedPeer k).value = (c.endpoint? k).filter fun peer => peer.location?.isSome := by
  refine Option.ext fun peer => ?_
  rw [locatedPeer_eq_some_iff, Option.filter_eq_some_iff]

theorem value_selectedEntries_eq_flatMap (c : Context) (selected : AppliedPolicy → Bool)
    (owner : Endpoint) (d : AclDirection) :
    (c.selectedEntries selected owner d).value = (c.locatedPeers owner).flatMap fun peer =>
      ((c.table.policies owner.key peer.key).filter selected).flatMap fun policy =>
        policy.entries owner peer d := by
  rw [value_selectedEntries, locatedPeers, List.filterMap_eq_flatMap_toList, List.flatMap_assoc]
  refine List.flatMap_congr fun ⟨k, policies⟩ hcell => ?_
  rw [cellEntries, value_locatedPeer]
  cases hpeer : (c.endpoint? k).filter fun peer => peer.location?.isSome with
  | none => rfl
  | some peer =>
    have hkey : peer.key = k := key_of_endpoint? (Option.filter_eq_some_iff.mp hpeer).1
    rw [Option.toList_some, List.flatMap_singleton, hkey, PolicyTable.policies_of_mem_peers hcell]

end Context

namespace Change

variable {ch : Change} {c : Context} {settings : Settings} {k p : EndpointKey} {l : Location}
  {policy : AppliedPolicy}

/-- Whether a change covers a policy of an endpoint: all policies of an endpoint that has changed,
and those of the rule groups that have. -/
def covers (ch : Change) (owner : EndpointKey) (policy : AppliedPolicy) : Bool :=
  ch.endpoints.mem owner || ch.ruleGroups.mem policy.group.key

/-- The index lists the owner of every policy, so looking it up excludes no policy of the table. -/
theorem concerns_eq_covers (hc : c.Reachable) (hpolicy : policy ∈ c.table.policies k p) :
    ch.concerns c k policy.group.key = ch.covers k policy := by
  have hmember : (c.membersOf policy.group.key).contains k = true :=
    List.contains_iff_mem.mpr (hc.mem_membersOf hpolicy)
  have happlied : (c.ruleGroupsOf k).mem policy.group.key = true := by
    rw [← SortedSet.mem_members_iff, Context.ruleGroupsOf, SortedSet.mem_members_ofMembers,
      List.mem_flatMap]
    exact ⟨_, PolicyTable.mem_peers_of_mem_policies hpolicy, List.mem_map.mpr ⟨policy, hpolicy, rfl⟩⟩
  rw [concerns, covers, hmember, happlied, Bool.and_true, Bool.and_true, Bool.or_comm]

theorem value_selectedEntries_concerns (hc : c.Reachable) (owner : Endpoint) (d : AclDirection) :
    (c.selectedEntries (fun policy => ch.concerns c owner.key policy.group.key) owner d).value =
      (c.selectedEntries (ch.covers owner.key) owner d).value := by
  rw [Context.value_selectedEntries_eq_flatMap, Context.value_selectedEntries_eq_flatMap]
  refine List.flatMap_congr fun peer _ => ?_
  rw [List.filter_congr fun policy hpolicy => concerns_eq_covers hc hpolicy]

/-- An endpoint that the change has policies to render for is among the affected ones. -/
theorem mem_affected_of_concerns {group : RuleGroupKey} (h : ch.concerns c k group = true) :
    k ∈ (ch.affected c).members := by
  rw [concerns, Bool.or_eq_true, Bool.and_eq_true, Bool.and_eq_true, List.contains_iff_mem] at h
  rw [mem_affected]
  rcases h with ⟨hgroup, hmember⟩ | ⟨hendpoint, -⟩
  · exact .inr ⟨group, SortedSet.mem_members_iff.mpr hgroup, hmember⟩
  · exact .inl (SortedSet.mem_members_iff.mpr hendpoint)

/-- One endpoint adds to the list of an interface if it is attached there. -/
theorem plannedAt_piecesOf (hexcluded : settings.excludes l = false) (d : AclDirection) :
    plannedAt (ch.piecesOf c (.ofContext c) settings k).value (.ofLocation l d) =
      (c.endpoint? k).toList.flatMap fun owner =>
        if owner.location? = some l then
          (c.selectedEntries (fun policy => ch.concerns c k policy.group.key) owner d).value
        else [] := by
  unfold piecesOf
  cases howner : c.endpoint? k with
  | none => rfl
  | some owner =>
    dsimp only
    rw [Grouping.interfacesOf_ofContext, Context.locationOf?_of_endpoint? howner, Option.toList_some,
      List.flatMap_singleton]
    cases hm : owner.location? with
    | none => rfl
    | some m =>
      rw [Option.toList_some, Logged.value_gather, plannedAt_flatMap]
      by_cases heq : m = l
      · subst heq
        cases d <;> simp [AclDirection.all, hexcluded, plannedAt_singleton, AclTarget.ofLocation_inj]
      · have hne : some m ≠ some l := fun h => heq (Option.some.inj h)
        rw [if_neg hne, List.flatMap_eq_nil_iff]
        refine fun d' _ => plannedAt_eq_nil fun piece hpiece => ?_
        obtain ⟨m', hm', rfl⟩ := List.mem_map.mp hpiece
        obtain rfl := List.mem_singleton.mp (List.mem_filter.mp hm').1
        exact fun htarget => heq (AclTarget.ofLocation_inj.mp htarget).1

/-- What is planned for an interface is what the change covers of all endpoints attached there. -/
theorem getD_plan (hc : c.Reachable) (hexcluded : settings.excludes l = false) (d : AclDirection) :
    (ch.plan c (.ofContext c) settings).value.getD (.ofLocation l d) [] =
      (c.endpointsOn l).flatMap fun owner =>
        (c.selectedEntries (ch.covers owner.key) owner d).value := by
  let planned (k : EndpointKey) : List AclEntry :=
    plannedAt (ch.piecesOf c (.ofContext c) settings k).value (.ofLocation l d)
  have hplanned : ∀ owner ∈ c.endpointsOn l,
      planned owner.key = (c.selectedEntries (ch.covers owner.key) owner d).value := by
    intro owner howner
    obtain ⟨hknown, hlocation⟩ := Context.mem_endpointsOn.mp howner
    change plannedAt _ _ = _
    rw [plannedAt_piecesOf hexcluded, hknown, Option.toList_some, List.flatMap_singleton,
      if_pos hlocation, value_selectedEntries_concerns hc]
  -- An endpoint with anything planned is both affected and attached to the interface.
  have hsupport (k : EndpointKey) (hk : planned k ≠ []) :
      k ∈ (ch.affected c).members ↔ k ∈ (c.endpointsOn l).map Endpoint.key := by
    obtain ⟨e, he⟩ := List.exists_mem_of_ne_nil _ hk
    change e ∈ plannedAt _ _ at he
    rw [plannedAt_piecesOf hexcluded] at he
    obtain ⟨owner, howner, he⟩ := List.mem_flatMap.mp he
    have hknown := Option.mem_toList.mp howner
    split at he
    next hlocation =>
      obtain ⟨-, -, -, policy, -, hconcerns, -⟩ := Context.mem_selectedEntries.mp he
      refine iff_of_true (mem_affected_of_concerns hconcerns) (Context.mem_keys_endpointsOn.mpr ?_)
      rw [Context.locationOf?_of_endpoint? hknown, hlocation]
    next => cases he
  rw [value_plan, Plan.getD_ofPieces, plannedAt_flatMap]
  calc (ch.affected c).members.flatMap planned
      = ((c.endpointsOn l).map Endpoint.key).flatMap planned :=
        flatMap_eq_of_ascending (SortedMap.ascending_keys _) (c.ascending_endpointsOn l) hsupport
    _ = (c.endpointsOn l).flatMap fun owner =>
          (c.selectedEntries (ch.covers owner.key) owner d).value := by
        rw [List.flatMap_map]
        exact List.flatMap_congr hplanned

/-- What is planned for an interface are the entries of those of its sites that the change covers. -/
theorem getD_plan_perm (ch : Change) (hc : c.Reachable) (hk : c.locationOf? k = some l)
    (hexcluded : settings.excludes l = false) (d : AclDirection) :
    ((ch.plan c (.ofContext c) settings).value.getD (.ofLocation l d) []).Perm
      (((c.sites k d).filter fun site => ch.covers site.1.owner site.1.policy).map (·.2)) := by
  have hparts : ∀ owner ∈ c.endpointsOn l, (c.selectedEntries (ch.covers owner.key) owner d).value =
      ((c.endpointSites d owner.key).filter
        fun site => ch.covers site.1.owner site.1.policy).map (·.2) := by
    intro owner howner
    rw [← Context.map_snd_filter_endpointSites (Context.mem_endpointsOn.mp howner).1]
    refine congrArg _ (List.filter_congr fun ⟨site, e⟩ hsite => ?_)
    rw [(Context.mem_endpointSites.mp hsite).1]
  have hwalk := (Context.interfaceKeys_perm hk).flatMap_right fun j =>
    ((c.endpointSites d j).filter fun site => ch.covers site.1.owner site.1.policy).map (·.2)
  rw [List.flatMap_map] at hwalk
  rw [getD_plan hc hexcluded, List.flatMap_congr hparts, Context.sites, List.filter_flatMap,
    List.map_flatMap]
  exact hwalk.symm

end Change

/-- The plan of a renderer that has not done anything yet: for each direction of an interface in use
it holds, by endpoint attached there, by located peer and by policy that the change covers, exactly
the entries of these policies, and it names no list of an interface that is left alone. If all
endpoints of an interface have changed, that is everything the interface carries. -/
theorem plan_exact {c : Context} (hc : c.Reachable) (settings : Settings) (ch : Change) :
    let planned := (({ settings := settings } : Renderer).plan c ch).outcome.value
    (∀ l, settings.excludes l = false → ∀ d, planned.getD (.ofLocation l d) [] =
        (c.endpointsOn l).flatMap fun owner => (c.locatedPeers owner).flatMap fun peer =>
          ((c.table.policies owner.key peer.key).filter fun policy =>
              ch.endpoints.mem owner.key || ch.ruleGroups.mem policy.group.key).flatMap fun policy =>
            policy.entries owner peer d) ∧
      (∀ t ∈ planned.keys, ∃ l d, t = .ofLocation l d ∧ settings.excludes l = false) ∧
      (∀ l, settings.excludes l = true → ∀ d, .ofLocation l d ∉ planned.keys) ∧
      ∀ l, settings.excludes l = false →
        (∀ k, c.locationOf? k = some l → ch.endpoints.mem k = true) →
        ∀ k e, c.endpoint? k = some e → e.location? = some l → ∀ d,
          (planned.getD (.ofLocation l d) []).Perm (c.interfaceEntries (.ofContext c) e d).value := by
  intro planned
  have hplanned : planned = (ch.plan c (.ofContext c) settings).value := rfl
  refine ⟨fun l hexcluded d => ?_, fun t ht => ?_, fun l hexcluded d ht => ?_,
    fun l hexcluded hall k e he hl d => ?_⟩
  · rw [hplanned, Change.getD_plan hc hexcluded]
    exact List.flatMap_congr fun owner _ => c.value_selectedEntries_eq_flatMap _ owner d
  · exact Change.not_excluded_of_mem_keys_plan ht
  · obtain ⟨l', d', htarget, hin⟩ := Change.not_excluded_of_mem_keys_plan ht
    obtain ⟨rfl, -⟩ := AclTarget.ofLocation_inj.mp htarget
    rw [hexcluded] at hin
    cases hin
  · have hcovered : ∀ owner ∈ c.endpointsOn l,
        (c.selectedEntries (ch.covers owner.key) owner d).value = (c.pairwiseEntries owner d).value := by
      intro owner howner
      have hchanged : ch.endpoints.mem owner.key = true :=
        hall _ (Context.mem_keys_endpointsOn.mp (List.mem_map_of_mem howner))
      have hcovers : ch.covers owner.key = fun _ => true := by
        funext policy
        rw [Change.covers, hchanged, Bool.true_or]
      rw [hcovers, Context.pairwiseEntries]
    rw [hplanned, Change.getD_plan hc hexcluded, List.flatMap_congr hcovered]
    exact (Context.interfaceEntries_perm_endpointsOn he hl d).symm

/-- Two servers on one interface, of which the second has changed and the first has policies of a
changed rule group; the client's interface is left alone. If both servers have changed, the plan is
what the interface carries. -/
theorem plan_exact_shared :
    let c := (Sample.snapshot [] [Sample.row "10.0.0.1" "10.0.0.9" "http" .provider,
      Sample.row "10.0.0.1" "10.0.0.9" "ssh" .provider, Sample.row "10.0.0.2" "10.0.0.9" "ssh" .provider,
      Sample.row "10.0.0.9" "10.0.0.1" "http" .consumer]).context
    let settings : Settings := { excluded := [⟨"node", "tap1"⟩] }
    let planned (ch : Change) := (({ settings := settings } : Renderer).plan c ch).outcome.value
    let some : Change :=
      { endpoints := .ofMembers [Sample.key "10.0.0.2"], ruleGroups := .ofMembers [Sample.groupKey "http"] }
    let all : Change :=
      { endpoints := .ofMembers [Sample.key "10.0.0.1", Sample.key "10.0.0.2"] }
    ((planned some).getD (.ofLocation Sample.serverLocation .ingress) []).map AclEntry.name =
        ["http_10.0.0.1_10.0.0.9", "ssh_10.0.0.2_10.0.0.9"] ∧
      (∀ d, .ofLocation ⟨"node", "tap1"⟩ d ∉ (planned some).keys) ∧
      ((planned all).getD (.ofLocation Sample.serverLocation .ingress) []).Perm
        (c.interfaceEntries (.ofContext c) Sample.server .ingress).value := by
  intro c settings planned some all
  have hc : c.Reachable := Snapshot.reachable_context _
  have hexcluded : settings.excludes Sample.serverLocation = false := by decide +kernel
  obtain ⟨hsome, -, houtside, -⟩ := plan_exact hc settings some
  obtain ⟨-, -, -, hall⟩ := plan_exact hc settings all
  have hkeys : (c.endpointsOn Sample.serverLocation).map Endpoint.key =
      [Sample.key "10.0.0.1", Sample.key "10.0.0.2"] := by decide +kernel
  refine ⟨?_, houtside ⟨"node", "tap1"⟩ (by decide +kernel), ?_⟩
  · rw [hsome _ hexcluded]
    decide +kernel
  · refine hall _ hexcluded (fun k hk => ?_) Sample.server.key Sample.server (by decide +kernel)
      (by decide +kernel) .ingress
    rw [← Context.mem_keys_endpointsOn, hkeys] at hk
    rcases List.mem_cons.mp hk with rfl | hk
    · decide +kernel
    · obtain rfl := List.mem_singleton.mp hk
      decide +kernel

end GroupPolicy

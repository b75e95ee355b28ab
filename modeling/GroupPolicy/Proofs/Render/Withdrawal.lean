import GroupPolicy.Proofs.Policy.Restriction
import GroupPolicy.Proofs.Policy.Sample
import GroupPolicy.Proofs.Render.PlanContents

namespace GroupPolicy

namespace Context

variable {c c' : Context} {owner : Endpoint} {k : EndpointKey} {groups : SortedSet RuleGroupKey}

namespace Without

/-- The sites that are left are those of the other policies. -/
theorem endpointSites_eq (h : Without groups c c') (d : AclDirection) (j : EndpointKey) :
    c'.endpointSites d j =
      (c.endpointSites d j).filter fun site => !groups.mem site.1.policy.group.key := by
  obtain ⟨hendpoint, hpeer, -, -⟩ := lookups_congr h.endpoints_eq
  have hcell (owner : Endpoint) : c'.cellSites owner d = c.cellSites owner d := by
    funext cell
    rw [cellSites, hpeer, cellSites]
  unfold endpointSites
  rw [hendpoint, List.filter_flatMap]
  refine List.flatMap_congr fun owner _ => ?_
  rw [List.filter_flatMap, PolicyTable.flatMap_peers, PolicyTable.flatMap_peers, hcell]
  simp only [filter_cellSites _ _ _ _ _ fun policy => !groups.mem policy.group.key, h.policies_eq]
  -- A peer with a site in either walk has policies in both tables.
  refine flatMap_eq_of_ascending (SortedMap.ascending_keys _) (SortedMap.ascending_keys _)
    fun p hp => ?_
  obtain ⟨⟨site, e⟩, hsite⟩ := List.exists_mem_of_ne_nil _ hp
  obtain ⟨-, -, hpolicy, -⟩ := mem_cellSites.mp hsite
  refine iff_of_true ?_ ?_
  · rw [← h.policies_eq] at hpolicy
    exact List.mem_map_of_mem (PolicyTable.mem_peers_of_mem_policies hpolicy)
  · exact List.mem_map_of_mem (PolicyTable.mem_peers_of_mem_policies (List.mem_filter.mp hpolicy).1)

theorem sites_eq (h : Without groups c c') (k : EndpointKey) (d : AclDirection) :
    c'.sites k d = (c.sites k d).filter fun site => !groups.mem site.1.policy.group.key := by
  obtain ⟨-, -, -, hkeys⟩ := lookups_congr h.endpoints_eq
  rw [sites, sites, hkeys, List.filter_flatMap]
  exact List.flatMap_congr fun j _ => h.endpointSites_eq d j

/-- The list that is left is the full one without the entries of the withdrawn policies. -/
theorem value_entries (h : Without groups c c') (he : c.endpoint? k = some owner)
    (settings : AclSettings) (d : AclDirection) :
    (c'.entries (.ofContext c') settings k d).value =
      .ok (((c.sites k d).filter fun site => !groups.mem site.1.policy.group.key).map (·.2) ++
        c.defaultEntries settings owner d) := by
  have he' : c'.endpoint? k = some owner := by rw [(lookups_congr h.endpoints_eq).1, he]
  rw [entries, he', ← h.sites_eq, map_snd_sites he', ← defaultEntries_congr h.endpoints_eq h.subnets_eq]
  rfl

end Without

end Context

/-- Taking the entries of some sites out of a list whose names tell its entries apart leaves those of
the other sites, and the defaults. -/
theorem SyncMode.remove_edit_sites {sites : List (Site × AclEntry)} {defaults planned : List AclEntry}
    {dropped : Site × AclEntry → Bool} (hplanned : planned.Perm ((sites.filter dropped).map (·.2)))
    (hnames : ((sites.map (·.2) ++ defaults).map AclEntry.name).Nodup) :
    SyncMode.remove.edit planned (sites.map (·.2) ++ defaults) =
      (sites.filter fun site => !dropped site).map (·.2) ++ defaults := by
  obtain ⟨hsites, -, hdisjoint⟩ := List.nodup_append'.mp (List.Nodup.of_map _ hnames)
  have hmem (site : Site × AclEntry) (hsite : site ∈ sites) : site.2 ∈ planned ↔ dropped site = true := by
    rw [hplanned.mem_iff, List.mem_map]
    constructor
    · rintro ⟨site', hsite', heq⟩
      obtain ⟨hmem', hdropped⟩ := List.mem_filter.mp hsite'
      rwa [← List.inj_on_of_nodup_map hsites hmem' hsite heq]
    · exact fun hdropped => ⟨site, List.mem_filter.mpr ⟨hsite, hdropped⟩, rfl⟩
  have hwithin (e : AclEntry) (he : e ∈ planned) : e ∈ sites.map (·.2) := by
    obtain ⟨site, hsite, rfl⟩ := List.mem_map.mp (hplanned.mem_iff.mp he)
    exact List.mem_map_of_mem (List.mem_filter.mp hsite).1
  rw [remove_edit_eq_filter hnames fun e he => List.mem_append_left _ (hwithin e he),
    List.filter_append, List.filter_map]
  -- The defaults have names of their own, so nothing that is planned concerns them.
  congr 1
  · refine congrArg _ (List.filter_congr fun site hsite => ?_)
    simp [hmem site hsite]
  · refine List.filter_eq_self.mpr fun e he => ?_
    simpa using fun hmem => hdisjoint (hwithin e hmem) he

namespace Renderer

variable {c c' : Context} {k : EndpointKey} {e : Endpoint} {l : Location} {settings : Settings}

/-- A renderer that has rendered an endpoint plans by the grouping of the context that it is asked for,
if that has the same endpoints. -/
theorem value_plan_update (hendpoints : c'.endpoints = c.endpoints) (he : c.endpoint? k = some e)
    (hl : e.location? = some l) (hexcluded : settings.excludes l = false) (ch : Change) :
    ((({ settings := settings } : Renderer).update c k).renderer.plan c' ch).outcome.value =
      (ch.plan c' (.ofContext c') settings).value := by
  let fresh : Renderer := { settings := settings }
  have hupdated : (fresh.update c k).renderer =
      { (fresh.regroup c).1 with device := (fresh.device.installAll l (fresh.rendered c e l)).1 } :=
    (update_of_located he hl hexcluded).1
  have hcurrent : ((fresh.update c k).renderer.regroup c').2 = .ofContext c' := by
    rw [hupdated]
    exact Grouping.current_refresh_ofContext hendpoints
  have hsettings : (fresh.update c k).renderer.settings = settings := by
    rw [hupdated]
    rfl
  change (ch.plan c' ((fresh.update c k).renderer.regroup c').2
    (fresh.update c k).renderer.settings).value = _
  rw [hcurrent, hsettings]

/-- A new renderer that renders an endpoint, plans for a change in a context with the same endpoints
and carries out the plan has edited the list of the endpoint by what is planned for it. -/
theorem acl_update_sync (hendpoints : c'.endpoints = c.endpoints) (he : c.endpoint? k = some e)
    (hl : e.location? = some l) (hexcluded : settings.excludes l = false) (mode : SyncMode)
    (ch : Change) (d : AclDirection) :
    let updated := ({ settings := settings } : Renderer).update c k
    let planned := updated.renderer.plan c' ch
    let synced := planned.renderer.sync mode planned.outcome.value
    updated.outcome.value = .ok () ∧ synced.outcome.value = .ok () ∧
      ∃ acl, synced.renderer.device.acl? l.node (aclName l.interface d) = some acl ∧
        acl.entries = mode.edit ((ch.plan c' (.ofContext c') settings).value.getD (.ofLocation l d) [])
          (c.listEntries (.ofContext c) settings.acl e d).value := by
  intro updated planned synced
  let fresh : Renderer := { settings := settings }
  let t := AclTarget.ofLocation l d
  obtain ⟨hok, hlist⟩ := update_of_reachable (r := fresh) he hl hexcluded rfl
  obtain ⟨hthere, hbefore⟩ := hlist d
  have hplan : planned.outcome.value = (ch.plan c' (.ofContext c') settings).value :=
    value_plan_update hendpoints he hl hexcluded ch
  obtain ⟨hsynced, hsyncedOk⟩ := planned.renderer.edited_sync mode (p := planned.outcome.value)
    (hplan ▸ Change.isAddressed_plan _ _ _ _)
  -- No operation makes a node unreachable, and planning leaves the devices alone.
  have hreach (node : String) : planned.renderer.device.unreachable.mem node = false := by
    have hsame : planned.renderer.device.unreachable = fresh.device.unreachable :=
      (fresh.edited_update c k).unreachable_eq
    rw [hsame]
    rfl
  obtain ⟨acl, hacl⟩ := Option.isSome_iff_exists.mp (hsynced.kept t hthere)
  have hentries : acl.entries = synced.renderer.device.entriesAt t := by
    rw [Device.entriesAt, hacl]
    rfl
  refine ⟨hok, hsyncedOk fun t _ => hreach t.node, acl, hacl, ?_⟩
  rw [hentries, hsynced.entries, hreach, ← hplan]
  exact congrArg (mode.edit (planned.outcome.value.getD t [])) hbefore

end Renderer

/-- Rendering the lists of an endpoint, and then taking out what a plan holds for some rule groups,
succeeds and leaves the very list that would be rendered without the rows of these groups, whenever
the names of the full list are all different. -/
theorem incremental_remove_agrees (s : Snapshot) (groups : SortedSet RuleGroupKey) {k : EndpointKey}
    {e : Endpoint} {l : Location} (he : s.context.endpoint? k = some e) (hl : e.location? = some l)
    {settings : Settings} (hexcluded : settings.excludes l = false) {d : AclDirection}
    {es : List AclEntry}
    (hes : (s.context.entries (.ofContext s.context) settings.acl k d).value = .ok es)
    (hnames : (es.map AclEntry.name).Nodup) :
    let c := s.context
    let reduced := (s.without groups).context
    let updated := ({ settings := settings } : Renderer).update c k
    let planned := updated.renderer.plan c { ruleGroups := groups }
    let synced := planned.renderer.sync .remove planned.outcome.value
    updated.outcome.value = .ok () ∧ synced.outcome.value = .ok () ∧
      ∃ acl, synced.renderer.device.acl? l.node (aclName l.interface d) = some acl ∧
        (reduced.entries (.ofContext reduced) settings.acl k d).value = .ok acl.entries := by
  intro c reduced
  obtain ⟨hok, hsyncedOk, acl, hacl, hentries⟩ :=
    Renderer.acl_update_sync (c := c) rfl he hl hexcluded .remove { ruleGroups := groups } d
  refine ⟨hok, hsyncedOk, acl, hacl, ?_⟩
  have hk : c.locationOf? k = some l := (Context.locationOf?_of_endpoint? he).trans hl
  have hplanned := Change.getD_plan_perm { ruleGroups := groups } s.reachable_context hk
    hexcluded d
  have hfull : (c.listEntries (.ofContext c) settings.acl e d).value =
      (c.sites k d).map (·.2) ++ c.defaultEntries settings.acl e d := by
    rw [Context.map_snd_sites he]
    rfl
  have hes' : es = (c.sites k d).map (·.2) ++ c.defaultEntries settings.acl e d := by
    rw [Context.entries, he] at hes
    exact (Except.ok.inj hes).symm.trans hfull
  rw [hes'] at hnames
  rw [hentries, hfull, SyncMode.remove_edit_sites hplanned hnames,
    (s.context_without groups).value_entries he]
  rfl

/-- Two servers on one interface, of which one has two rule groups: without the group that both of
them have, the entry of the other group and the default are left. -/
theorem incremental_remove_agrees_ssh :
    let s := Sample.snapshot [Sample.subnet] [Sample.row "10.0.0.1" "10.0.0.9" "ssh" .provider,
      Sample.row "10.0.0.1" "10.0.0.9" "http" .provider, Sample.row "10.0.0.2" "10.0.0.9" "ssh" .provider]
    let full := (s.context.listEntries (.ofContext s.context) {} Sample.server .ingress).value
    let updated := ({ settings := {} } : Renderer).update s.context Sample.server.key
    let planned := updated.renderer.plan s.context { ruleGroups := Sample.changed }
    let synced := planned.renderer.sync .remove planned.outcome.value
    full.map AclEntry.name = ["http_10.0.0.1_10.0.0.9", "ssh_10.0.0.1_10.0.0.9",
        "ssh_10.0.0.2_10.0.0.9", "deny_ingress_ipv4_10.0.0.0/24"] ∧
      ∃ acl, synced.renderer.device.acl? Sample.serverLocation.node
          (aclName Sample.serverLocation.interface .ingress) = some acl ∧
        acl.entries.map AclEntry.name = ["http_10.0.0.1_10.0.0.9", "deny_ingress_ipv4_10.0.0.0/24"] := by
  intro s full
  have hserver : s.context.endpoint? Sample.server.key = some Sample.server := by decide +kernel
  have hfull : (s.context.entries (.ofContext s.context) {} Sample.server.key .ingress).value =
      .ok full := by
    rw [Context.entries, hserver]
  have hnames : full.map AclEntry.name = ["http_10.0.0.1_10.0.0.9", "ssh_10.0.0.1_10.0.0.9",
      "ssh_10.0.0.2_10.0.0.9", "deny_ingress_ipv4_10.0.0.0/24"] := by decide +kernel
  have hnodup : (full.map AclEntry.name).Nodup := by
    rw [hnames]
    decide
  have hexcluded : ({} : Settings).excludes Sample.serverLocation = false := rfl
  obtain ⟨-, -, acl, hacl, hleft⟩ := incremental_remove_agrees s Sample.changed hserver
    (l := Sample.serverLocation) (by decide +kernel) hexcluded hfull hnodup
  have hreduced : (((s.without Sample.changed).context.entries (.ofContext (s.without Sample.changed).context)
      {} Sample.server.key .ingress).value.toOption.getD []).map AclEntry.name =
        ["http_10.0.0.1_10.0.0.9", "deny_ingress_ipv4_10.0.0.0/24"] := by decide +kernel
  rw [hleft] at hreduced
  exact ⟨hnames, acl, hacl, hreduced⟩

end GroupPolicy

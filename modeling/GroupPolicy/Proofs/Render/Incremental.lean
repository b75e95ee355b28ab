import GroupPolicy.Proofs.Policy.Reachable
import GroupPolicy.Proofs.Policy.Sample
import GroupPolicy.Proofs.Render.Colocation
import GroupPolicy.Proofs.Render.Plans
import GroupPolicy.Proofs.Render.Upsert

namespace GroupPolicy

namespace Acl

variable {l : List AclEntry} {e : AclEntry}

/-- An entry that stands in a list under a name of its own stays where it is. -/
theorem putEntry_of_mem (hname : ∀ x ∈ l, x.name = e.name → x = e) (he : e ∈ l) :
    putEntry e l = l := by
  induction l with
  | nil => cases he
  | cons x r ih =>
    unfold putEntry
    by_cases heq : x.name = e.name
    · rw [if_pos heq, hname x List.mem_cons_self heq]
    · have hr : e ∈ r := by
        rcases List.mem_cons.mp he with rfl | hr
        · exact absurd rfl heq
        · exact hr
      rw [if_neg heq, ih (fun y hy => hname y (List.mem_cons_of_mem x hy)) hr]

end Acl

/-- Entries that make a list up to another one, whose names are all different, make it a permutation
of that. -/
theorem SyncMode.write_perm {before planned after : List AclEntry}
    (hnames : (after.map AclEntry.name).Nodup) (hnodup : before.Nodup)
    (hbefore : ∀ e ∈ before, e ∈ after) (hplanned : ∀ e ∈ planned, e ∈ after)
    (hafter : ∀ e ∈ after, e ∈ before ∨ e ∈ planned) :
    (SyncMode.write.edit planned before).Perm after := by
  have hsame : ∀ x ∈ after, ∀ y ∈ after, x.name = y.name → x = y := fun x hx y hy hxy =>
    List.inj_on_of_nodup_map hnames hx hy hxy
  induction planned generalizing before with
  | nil =>
    refine (List.perm_ext_iff_of_nodup hnodup (List.Nodup.of_map _ hnames)).mpr fun e => ?_
    constructor
    · exact hbefore e
    · intro he
      rcases hafter e he with h | h
      · exact h
      · cases h
  | cons q rest ih =>
    have hq : q ∈ after := hplanned q List.mem_cons_self
    have hrest : ∀ e ∈ rest, e ∈ after := fun e he => hplanned e (List.mem_cons_of_mem q he)
    change (SyncMode.write.edit rest (Acl.putEntry q before)).Perm after
    -- Names tell the entries of the later list apart, so a planned entry is there already or new.
    by_cases hmem : q ∈ before
    · rw [Acl.putEntry_of_mem (fun x hx => hsame x (hbefore x hx) q hq) hmem]
      refine ih hnodup hbefore hrest fun e he => ?_
      rcases hafter e he with h | h
      · exact .inl h
      · rcases List.mem_cons.mp h with rfl | h
        · exact .inl hmem
        · exact .inr h
    · rw [Acl.putEntry_of_not_mem fun x hx hname => hmem (hsame x (hbefore x hx) q hq hname ▸ hx)]
      refine ih ?_ ?_ hrest fun e he => ?_
      · rw [← List.concat_eq_append]
        exact hnodup.concat hmem
      · intro e he
        rcases List.mem_append.mp he with h | h
        · exact hbefore e h
        · exact List.mem_singleton.mp h ▸ hq
      · rw [List.mem_append, List.mem_singleton, or_assoc, ← List.mem_cons]
        exact hafter e he

namespace Context

variable {groups : SortedSet RuleGroupKey} {c c' : Context} {j k : EndpointKey} {owner : Endpoint}
  {d : AclDirection}

namespace GrownBy

/-- Everything that an endpoint had entries for stays, in the same order. -/
theorem sublist_sharedEntries (h : GrownBy groups c c') (d : AclDirection) (k : EndpointKey) :
    (c.sharedEntries d k).value.Sublist (c'.sharedEntries d k).value := by
  obtain ⟨hendpoint, hpeer, -, -⟩ := lookups_congr h.endpoints_eq
  unfold sharedEntries
  rw [hendpoint]
  cases c.endpoint? k with
  | none => exact List.Sublist.refl _
  | some owner =>
    dsimp only
    rw [pairwiseEntries, value_selectedEntries, pairwiseEntries, value_selectedEntries]
    have hcell : c'.cellEntries (fun _ => true) owner d = c.cellEntries (fun _ => true) owner d := by
      funext cell
      rw [cellEntries, hpeer, cellEntries]
    rw [hcell]
    refine h.flatMap_peers_sublist (fun p cell cell' hsub => ?_) owner.key
    unfold cellEntries
    dsimp only
    cases (c.locatedPeer p).value with
    | none => exact List.Sublist.refl _
    | some peer => exact (hsub.filter _).flatMap _

theorem defaultEntries_eq (h : GrownBy groups c c') (settings : AclSettings) (owner : Endpoint)
    (d : AclDirection) : c'.defaultEntries settings owner d = c.defaultEntries settings owner d :=
  defaultEntries_congr h.endpoints_eq h.subnets_eq settings owner d

theorem sublist_listEntries (h : GrownBy groups c c') (he : c.endpoint? k = some owner)
    (settings : AclSettings) (d : AclDirection) :
    (c.listEntries (.ofContext c) settings owner d).value.Sublist
      (c'.listEntries (.ofContext c') settings owner d).value := by
  obtain ⟨hendpoint, -, -, hkeys⟩ := lookups_congr h.endpoints_eq
  have he' : c'.endpoint? k = some owner := by rw [hendpoint, he]
  rw [listEntries, listEntries, h.defaultEntries_eq, value_interfaceEntries he,
    value_interfaceEntries he', hkeys]
  refine List.Sublist.append ?_ (List.Sublist.refl _)
  exact List.Sublist.flatMap_right _ fun j _ => h.sublist_sharedEntries d j

variable {l : Location} {settings : Settings} {e : AclEntry}

/-- What a list has entries for after the context has grown, it had entries for before, or the plan
for the rule groups holds them. -/
theorem mem_plan_of_mem_listEntries (h : GrownBy groups c c') (hc : c.Reachable)
    (he : c.endpoint? k = some owner) (hl : owner.location? = some l)
    (hexcluded : settings.excludes l = false)
    (hmem : e ∈ (c'.listEntries (.ofContext c') settings.acl owner d).value) :
    e ∈ (c.listEntries (.ofContext c) settings.acl owner d).value ∨
      e ∈ (({ ruleGroups := groups } : Change).plan c' (.ofContext c') settings).value.getD
        (.ofLocation l d) [] := by
  obtain ⟨hendpoint, -, hlocation, hkeys⟩ := lookups_congr h.endpoints_eq
  have hk : c.locationOf? k = some l := by rw [locationOf?, he, Option.bind_some, hl]
  have he' : c'.endpoint? k = some owner := by rw [hendpoint, he]
  rw [mem_listEntries he', hkeys, h.defaultEntries_eq] at hmem
  rw [mem_listEntries he]
  rcases hmem with ⟨j, hj, hshared⟩ | hdefault
  · obtain ⟨o, ho, p, peer, hpeer, policy, hpolicy, hentry⟩ := mem_sharedEntries.mp hshared
    rcases h.mem_policies hpolicy with hold | hgroup
    · rw [hendpoint] at ho hpeer
      exact .inl (.inl ⟨j, hj, mem_sharedEntries.mpr ⟨o, ho, p, peer, hpeer, policy, hold, hentry⟩⟩)
    · refine .inr (Change.mem_plan.mpr ?_)
      have hmember : j ∈ c'.membersOf policy.group.key := (h.reachable hc).mem_membersOf hpolicy
      have hjl : c'.locationOf? j = some l := by
        rw [hlocation]
        rcases mem_interfaceKeys.mp hj with rfl | ⟨m, hm, hjm⟩
        · exact hk
        · rw [hjm, ← hm, hk]
      refine ⟨j, Change.mem_affected.mpr (.inr ⟨_, SortedSet.mem_members_iff.mpr hgroup, hmember⟩), o,
        ho, l, ?_, hexcluded, d, rfl, ?_⟩
      · rw [Grouping.interfacesOf_ofContext, hjl]
        exact List.mem_singleton_self l
      · refine mem_selectedEntries.mpr ⟨p, peer, hpeer, policy, key_of_endpoint? ho ▸ hpolicy, ?_, hentry⟩
        simp [Change.concerns, hgroup, hmember]
  · exact .inl (.inr hdefault)

/-- What the plan for the rule groups holds for a list, the list has entries for. -/
theorem mem_listEntries_of_mem_plan (h : GrownBy groups c c') (he : c.endpoint? k = some owner)
    (hl : owner.location? = some l) {ch : Change}
    (hmem : e ∈ (ch.plan c' (.ofContext c') settings).value.getD (.ofLocation l d) []) :
    e ∈ (c'.listEntries (.ofContext c') settings.acl owner d).value := by
  obtain ⟨hendpoint, -, -, -⟩ := lookups_congr h.endpoints_eq
  have he' : c'.endpoint? k = some owner := by rw [hendpoint, he]
  have hk : c'.locationOf? k = some l := by rw [locationOf?, he', Option.bind_some, hl]
  obtain ⟨j, -, o, ho, m, hm, -, d', htarget, hselected⟩ := Change.mem_plan.mp hmem
  obtain ⟨rfl, rfl⟩ := AclTarget.ofLocation_inj.mp htarget
  rw [Grouping.interfacesOf_ofContext, Option.mem_toList] at hm
  obtain ⟨p, peer, hpeer, policy, hpolicy, -, hentry⟩ := mem_selectedEntries.mp hselected
  rw [mem_listEntries he']
  refine .inl ⟨j, mem_interfaceKeys.mpr (.inr ⟨l, hk, hm⟩), ?_⟩
  exact mem_sharedEntries.mpr ⟨o, ho, p, peer, hpeer, policy, key_of_endpoint? ho ▸ hpolicy, hentry⟩

end GrownBy

end Context

/-- Rendering the lists of an endpoint in a context, and then only writing what a plan holds for the
rule groups by whose rows the context has grown since, succeeds and leaves the entries in place that
would be rendered now, whenever their names are all different. -/
theorem incremental_write_agrees {groups : SortedSet RuleGroupKey} {c c' : Context} (hc : c.Reachable)
    (hgrown : Context.GrownBy groups c c') {k : EndpointKey} {e : Endpoint} {l : Location}
    (he : c.endpoint? k = some e) (hl : e.location? = some l) {settings : Settings}
    (hexcluded : settings.excludes l = false) {d : AclDirection} {es : List AclEntry}
    (hes : (c'.entries (.ofContext c') settings.acl k d).value = .ok es)
    (hnames : (es.map AclEntry.name).Nodup) :
    let updated := ({ settings := settings } : Renderer).update c k
    let planned := updated.renderer.plan c' { ruleGroups := groups }
    let synced := planned.renderer.sync .write planned.outcome.value
    updated.outcome.value = .ok () ∧ synced.outcome.value = .ok () ∧
      ∃ acl, synced.renderer.device.acl? l.node (aclName l.interface d) = some acl ∧
        acl.entries.Perm es := by
  intro updated planned synced
  let fresh : Renderer := { settings := settings }
  let t := AclTarget.ofLocation l d
  obtain ⟨hok, hlist⟩ := Renderer.update_of_reachable (r := fresh) he hl hexcluded rfl
  obtain ⟨hthere, hbefore⟩ := hlist d
  have hupdated : updated.renderer =
      { (fresh.regroup c).1 with device := (fresh.device.installAll l (fresh.rendered c e l)).1 } :=
    (Renderer.update_of_located he hl hexcluded).1
  have hplan : planned.outcome.value =
      (({ ruleGroups := groups } : Change).plan c' (.ofContext c') settings).value := by
    have hcurrent : (updated.renderer.regroup c').2 = .ofContext c' := by
      rw [hupdated]
      exact Grouping.current_refresh_ofContext hgrown.endpoints_eq
    have hsettings : updated.renderer.settings = settings := by
      rw [hupdated]
      rfl
    change (Change.plan _ c' (updated.renderer.regroup c').2 updated.renderer.settings).value = _
    rw [hcurrent, hsettings]
  obtain ⟨hsynced, hsyncedOk⟩ := planned.renderer.edited_sync .write (p := planned.outcome.value)
    (hplan ▸ Change.isAddressed_plan _ _ _ _)
  have hreach (node : String) : planned.renderer.device.unreachable.mem node = false := by
    have hsame : planned.renderer.device.unreachable = fresh.device.unreachable :=
      (fresh.edited_update c k).unreachable_eq
    rw [hsame]
    rfl
  obtain ⟨acl, hacl⟩ := Option.isSome_iff_exists.mp (hsynced.kept t hthere)
  have hentries : acl.entries = synced.renderer.device.entriesAt t := by
    rw [Device.entriesAt, hacl]
    rfl
  refine ⟨hok, hsyncedOk fun t _ => hreach t.node, acl, hacl, ?_⟩
  have he' : c'.endpoint? k = some e := by rw [(Context.lookups_congr hgrown.endpoints_eq).1, he]
  rw [Context.entries, he'] at hes
  obtain rfl := Except.ok.inj hes
  have hedit : acl.entries = SyncMode.write.edit (planned.outcome.value.getD t [])
      (c.listEntries (.ofContext c) settings.acl e d).value := by
    rw [hentries, hsynced.entries, hreach]
    exact congrArg (SyncMode.write.edit (planned.outcome.value.getD t [])) hbefore
  rw [hedit, hplan]
  have hsub := hgrown.sublist_listEntries he settings.acl d
  exact SyncMode.write_perm hnames ((List.Nodup.of_map _ hnames).sublist hsub)
    (fun _ h => hsub.subset h) (fun _ h => hgrown.mem_listEntries_of_mem_plan he hl h)
    (fun _ h => hgrown.mem_plan_of_mem_listEntries hc he hl hexcluded h)

/-- A server that has been rendered with one rule group and gets another: the entry of the new group
is written behind the default, so the entries are those of the new list in another order. -/
theorem incremental_write_agrees_ssh :
    let updated := ({ settings := {} } : Renderer).update Sample.before Sample.server.key
    let planned := updated.renderer.plan Sample.after { ruleGroups := Sample.changed }
    let synced := planned.renderer.sync .write planned.outcome.value
    let full := (Sample.after.listEntries (.ofContext Sample.after) {} Sample.server .ingress).value
    full.map AclEntry.name =
        ["http_10.0.0.1_10.0.0.9", "ssh_10.0.0.1_10.0.0.9", "deny_ingress_ipv4_10.0.0.0/24"] ∧
      ∃ acl, synced.renderer.device.acl? Sample.serverLocation.node
          (aclName Sample.serverLocation.interface .ingress) = some acl ∧
        acl.entries.Perm full := by
  intro updated planned synced full
  have hgrown : Context.GrownBy Sample.changed Sample.before Sample.after :=
    (Context.GrownBy.refl.addPolicies [Sample.row "10.0.0.1" "10.0.0.9" "ssh" .provider]
      (by decide +kernel)).withVersion 2
  have hreachable : Sample.before.Reachable := Snapshot.reachable_context _
  have hserver : Sample.after.endpoint? Sample.server.key = some Sample.server := by decide +kernel
  have hfull : (Sample.after.entries (.ofContext Sample.after) {} Sample.server.key .ingress).value =
      .ok full := by
    rw [Context.entries, hserver]
  have hnames : full.map AclEntry.name =
      ["http_10.0.0.1_10.0.0.9", "ssh_10.0.0.1_10.0.0.9", "deny_ingress_ipv4_10.0.0.0/24"] := by
    decide +kernel
  have hnodup : (full.map AclEntry.name).Nodup := by
    rw [hnames]
    decide
  have hexcluded : ({} : Settings).excludes Sample.serverLocation = false := rfl
  exact ⟨hnames, (incremental_write_agrees hreachable hgrown (e := Sample.server)
    (l := Sample.serverLocation) (by decide +kernel) (by decide +kernel) hexcluded hfull hnodup).2.2⟩

end GroupPolicy

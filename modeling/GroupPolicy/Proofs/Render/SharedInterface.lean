import GroupPolicy.Proofs.Policy.Variant
import GroupPolicy.Proofs.Render.Attached
import GroupPolicy.Proofs.Render.FirstMatch

namespace GroupPolicy

namespace Context

variable {c c' : Context} {j k : EndpointKey} {e e' owner : Endpoint} {d : AclDirection}

/-- The entries of an endpoint stand among those of every interface that it shares. -/
theorem pairwiseEntries_sublist (he : c.endpoint? k = some e) (he' : c.endpoint? j = some e')
    (hj : j ∈ c.interfaceKeys k) :
    (c.pairwiseEntries e' d).value.Sublist (c.interfaceEntries (.ofContext c) e d).value := by
  have hshared : c.sharedEntries d j = c.pairwiseEntries e' d := by rw [sharedEntries, he']
  rw [value_interfaceEntries he, List.flatMap_def, ← hshared]
  exact List.sublist_flatten_of_mem (List.mem_map_of_mem hj)

namespace Variant

/-- Rows of one endpoint have no say in the entries of another one. -/
theorem pairwiseEntries_eq (h : Variant k c c') (hne : owner.key ≠ k) (d : AclDirection) :
    c'.pairwiseEntries owner d = c.pairwiseEntries owner d := by
  obtain ⟨-, hpeer, -, -⟩ := lookups_congr h.frame.1
  rw [pairwiseEntries, selectedEntries, hpeer, PolicyTable.peers, h.row_eq hne]
  rfl

end Variant

/-- A list that is rendered for an interface has the entries of each of its endpoints, and the
denials. -/
theorem pairwiseEntries_denials_sublist {settings : AclSettings} (he : c.endpoint? k = some e)
    (he' : c.endpoint? j = some e') (hj : j ∈ c.interfaceKeys k) :
    ((c.pairwiseEntries e' d).value ++ (c.listParts settings he d).denials).Sublist
      (c.listParts settings he d).entries := by
  rw [ListParts.entries]
  exact (pairwiseEntries_sublist he he' hj).append (List.sublist_append_left _ _)

end Context

/-- Endpoints on one interface have the same list, up to the order of their policies and to the last
entry: the same policies in some order, the same denials, and then each its own permission for an
endpoint outside. So without such permissions both lists make the same of every packet. And whichever
rows of the one endpoint are added or removed, the lists of both keep all entries that the other one
has. -/
theorem colocated_lists_agree {c : Context} {j k : EndpointKey} {e e' : Endpoint} {l : Location}
    (he : c.endpoint? k = some e) (he' : c.endpoint? j = some e') (hl : e.location? = some l)
    (hl' : e'.location? = some l) (settings : AclSettings) (d : AclDirection) :
    ∃ (parts : c.ListParts settings k e d) (parts' : c.ListParts settings j e' d),
      (c.entries (.ofContext c) settings k d).value = .ok parts.entries ∧
      (c.entries (.ofContext c) settings j d).value = .ok parts'.entries ∧
      parts.policies.Perm parts'.policies ∧ parts.denials = parts'.denials ∧
      (settings.allowExternal = false →
        ∀ {Packet : Type} (covers : Traffic → Packet → Bool) (packet : Packet),
          verdict? covers packet parts.entries = verdict? covers packet parts'.entries) ∧
      (j ≠ k → ∀ c', c.Variant k c' → ∀ i, i = k ∨ i = j →
        ∃ es, (c'.entries (.ofContext c') settings i d).value = .ok es ∧
          ((c.pairwiseEntries e' d).value ++ parts'.denials).Sublist es) := by
  let parts := c.listParts settings he d
  let parts' := c.listParts settings he' d
  have hperm : parts.policies.Perm parts'.policies := Context.interfaceEntries_perm he he' hl hl' d
  refine ⟨parts, parts', c.value_entries_listParts settings he d, c.value_entries_listParts settings he' d,
    hperm, rfl, fun hnone {_} covers packet => ?_, fun hne c' hvariant i hi => ?_⟩
  · -- Without an endpoint outside, the lists differ in the order of their policies only.
    have houtside : parts.outside = none := if_neg (by rw [hnone]; exact Bool.false_ne_true)
    have houtside' : parts'.outside = none := if_neg (by rw [hnone]; exact Bool.false_ne_true)
    have hdenials : parts.denials = parts'.denials := rfl
    rw [Context.ListParts.entries, Context.ListParts.entries, verdict?_append, houtside, houtside',
      hdenials, verdict?_perm parts.action_policies hperm, ← verdict?_append]
  · -- Whichever of the two the list is for, the other endpoint shares its interface as before.
    obtain ⟨hendpoints, hsubnets, -⟩ := hvariant.frame
    obtain ⟨hendpoint, -, hlocation, -⟩ := Context.lookups_congr hendpoints
    have hkey : e'.key ≠ k := by rwa [Context.key_of_endpoint? he']
    have hj : c'.endpoint? j = some e' := by rw [hendpoint, he']
    have hjl : c'.locationOf? j = some l := by rw [Context.locationOf?_of_endpoint? hj, hl']
    have hshares : ∃ owner, c'.endpoint? i = some owner ∧ j ∈ c'.interfaceKeys i := by
      rcases hi with rfl | rfl
      · have hk : c'.endpoint? i = some e := by rw [hendpoint, he]
        have hkl : c'.locationOf? i = some l := by rw [Context.locationOf?_of_endpoint? hk, hl]
        exact ⟨e, hk, Context.mem_interfaceKeys.mpr (.inr ⟨l, hkl, hjl⟩)⟩
      · exact ⟨e', hj, Context.mem_interfaceKeys.mpr (.inl rfl)⟩
    obtain ⟨owner, howner, hshares⟩ := hshares
    have hdenials : parts'.denials = (c'.listParts settings howner d).denials := by
      change (if _ then c.denyEntries d else []) = if _ then c'.denyEntries d else []
      rw [Context.denyEntries, Context.denyEntries, hsubnets]
    refine ⟨_, c'.value_entries_listParts settings howner d, ?_⟩
    rw [hdenials, ← hvariant.pairwiseEntries_eq hkey]
    exact Context.pairwiseEntries_denials_sublist howner hj hshares

/-- Two servers on one interface, of which the first then loses its rule group and gets another one: the
entry of the second one is still in its list. -/
theorem colocated_lists_agree_rows :
    let c := (Sample.snapshot [Sample.subnet] [Sample.row "10.0.0.1" "10.0.0.9" "http" .provider,
      Sample.row "10.0.0.2" "10.0.0.9" "http" .provider]).context
    let c' := (Sample.snapshot [Sample.subnet] [Sample.row "10.0.0.2" "10.0.0.9" "http" .provider,
      Sample.row "10.0.0.1" "10.0.0.9" "ssh" .provider]).context
    let names (c : Context) (address : String) : List String :=
      ((c.entries (.ofContext c) {} (Sample.key address) .ingress).value.toOption.getD []).map
        AclEntry.name
    names c "10.0.0.1" = ["http_10.0.0.1_10.0.0.9", "http_10.0.0.2_10.0.0.9",
        "deny_ingress_ipv4_10.0.0.0/24"] ∧
      names c "10.0.0.2" = ["http_10.0.0.2_10.0.0.9", "http_10.0.0.1_10.0.0.9",
        "deny_ingress_ipv4_10.0.0.0/24"] ∧
      "http_10.0.0.2_10.0.0.9" ∈ names c' "10.0.0.1" := by
  intro c c' names
  have hfirst : c.endpoint? (Sample.key "10.0.0.1") = some Sample.server := by decide +kernel
  have hsecond : c.endpoint? (Sample.key "10.0.0.2") = some (Sample.endpoint "10.0.0.2" "tap0") := by
    decide +kernel
  obtain ⟨parts, parts', -, -, -, -, -, hrows⟩ := colocated_lists_agree hfirst hsecond
    (l := Sample.serverLocation) (by decide +kernel) (by decide +kernel) {} .ingress
  have hvariant : c.Variant (Sample.key "10.0.0.1") c' := Snapshot.variant_context (by decide +kernel) 1
  obtain ⟨es, hes, hkept⟩ := hrows (by decide) c' hvariant (Sample.key "10.0.0.1") (.inl rfl)
  have howed : "http_10.0.0.2_10.0.0.9" ∈
      (c.pairwiseEntries (Sample.endpoint "10.0.0.2" "tap0") .ingress).value.map AclEntry.name := by
    decide +kernel
  have hnames : names c' "10.0.0.1" = es.map AclEntry.name :=
    congrArg (fun list => ((Except.toOption list).getD []).map AclEntry.name) hes
  refine ⟨by decide +kernel, by decide +kernel, ?_⟩
  rw [hnames]
  exact (((List.sublist_append_left _ _).trans hkept).map AclEntry.name).subset howed

end GroupPolicy

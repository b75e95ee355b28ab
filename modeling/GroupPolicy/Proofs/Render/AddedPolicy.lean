import GroupPolicy.Proofs.Ordered.Block
import GroupPolicy.Proofs.Policy.Sample
import GroupPolicy.Proofs.Render.Colocation

namespace GroupPolicy

theorem AppliedPolicy.hasBlock_place (p : AppliedPolicy) (l : List AppliedPolicy) :
    HasBlock [p] l (p.place l) := by
  induction l with
  | nil => exact ⟨[], [], rfl, rfl⟩
  | cons q r ih =>
    unfold place
    split
    · exact ⟨[], q :: r, rfl, rfl⟩
    · exact ih.append_left [q]

theorem PolicyTable.keys_row_subset_insert (t : PolicyTable) (owner peer : EndpointKey)
    (policy : AppliedPolicy) (o : EndpointKey) :
    (t.row o).keys ⊆ ((t.insert owner peer policy).row o).keys := by
  intro p hp
  by_cases ho : o = owner
  · subst ho
    by_cases hmem : policy ∈ t.policies o peer
    · rwa [insert, if_pos hmem]
    · rw [row_insert_self hmem, SortedMap.mem_keys_insert]
      exact .inr hp
  · rwa [row_insert_of_ne t peer policy ho]

/-- What it takes for a row to make a difference: its rule group is registered and not yet applied in its
cell, its owner is known, and its peer is known and attached somewhere. -/
structure PolicyRow.TakesEffect (row : PolicyRow) (c : Context) (policy : AppliedPolicy)
    (owner peer : Endpoint) : Prop where
  registered : c.ruleGroup? row.ruleGroup = some policy.group
  participation_eq : policy.participation = row.participation
  new : policy ∉ c.table.policies row.owner row.peer
  owner_known : c.endpoint? row.owner = some owner
  peer_known : c.endpoint? row.peer = some peer
  peer_located : peer.location?.isSome = true

namespace Context

variable {c : Context} {row : PolicyRow} {policy : AppliedPolicy} {owner peer : Endpoint}
  {d : AclDirection} {j k p : EndpointKey}

theorem endpoints_addPolicies (c : Context) (rows : List PolicyRow) :
    (c.addPolicies rows).1.endpoints = c.endpoints := by
  rw [frame_addPolicies]

theorem table_addPolicies (c : Context) (row : PolicyRow) :
    (c.addPolicies [row]).1.table =
      match c.ruleGroup? row.ruleGroup with
      | some group => c.table.insert row.owner row.peer ⟨row.participation, group⟩
      | none => c.table := by
  cases hgroup : c.ruleGroup? row.ruleGroup with
  | none => rw [addPolicies_of_none (addPolicy?_eq_none_iff.mpr hgroup)]
  | some group => rw [addPolicies_of_some (addPolicy?_eq_some_iff.mpr ⟨group, hgroup, rfl⟩)]

theorem cellEntries_addPolicies (c : Context) (rows : List PolicyRow) (selected : AppliedPolicy → Bool)
    (owner : Endpoint) (d : AclDirection) :
    (c.addPolicies rows).1.cellEntries selected owner d = c.cellEntries selected owner d := by
  obtain ⟨-, hpeer, -, -⟩ := lookups_congr (c.endpoints_addPolicies rows)
  funext cell
  rw [cellEntries, hpeer, cellEntries]

/-- The entries of an endpoint come by its peers. Keys for which there is no cell may be among them. -/
theorem value_pairwiseEntries_of_subset {keys : List EndpointKey}
    (hkeys : keys.Pairwise fun a b => compare a b = .lt) (hsub : (c.table.row owner.key).keys ⊆ keys) :
    (c.pairwiseEntries owner d).value = keys.flatMap fun p => c.entriesTowards owner p d := by
  have hcells : (c.pairwiseEntries owner d).value =
      (c.table.row owner.key).keys.flatMap fun p => c.entriesTowards owner p d := by
    rw [value_pairwiseEntries, PolicyTable.peers, SortedMap.keys, List.flatMap_map]
  rw [hcells]
  refine flatMap_eq_of_ascending (SortedMap.ascending_keys _) hkeys fun p hp => ⟨(hsub ·), fun _ => ?_⟩
  by_contra hout
  have hnone : (c.table.row owner.key).get? p = none := by
    refine Option.eq_none_iff_forall_ne_some.mpr fun cell hcell => hout ?_
    exact SortedMap.mem_keys_iff.mpr ⟨cell, hcell⟩
  have hcell : c.table.policies owner.key p = [] := by
    rw [PolicyTable.policies, SortedMap.getD, hnone, Option.getD_none]
  rw [entriesTowards, hcell, cellEntries] at hp
  cases hpeer : (c.locatedPeer p).value <;> simp [hpeer] at hp

theorem value_pairwiseEntries_addPolicies (c : Context) (row : PolicyRow) (owner : Endpoint)
    (d : AclDirection) : ∃ keys : List EndpointKey, keys.Nodup ∧ row.peer ∈ keys ∧
      (c.pairwiseEntries owner d).value = keys.flatMap (fun p => c.entriesTowards owner p d) ∧
      ((c.addPolicies [row]).1.pairwiseEntries owner d).value =
        keys.flatMap fun p => (c.addPolicies [row]).1.entriesTowards owner p d := by
  let cells := (c.addPolicies [row]).1.table.row owner.key
  have hsub : cells.keys ⊆ (cells.insert row.peer []).keys :=
    fun p hp => SortedMap.mem_keys_insert.mpr (.inr hp)
  have hgrown : (c.table.row owner.key).keys ⊆ cells.keys := by
    change _ ⊆ ((c.addPolicies [row]).1.table.row owner.key).keys
    rw [table_addPolicies]
    split
    · exact PolicyTable.keys_row_subset_insert _ _ _ _ _
    · exact List.Subset.refl _
  have hascending := (cells.insert row.peer []).ascending_keys
  exact ⟨(cells.insert row.peer []).keys, SortedMap.nodup_keys _,
    SortedMap.mem_keys_insert.mpr (.inl rfl),
    value_pairwiseEntries_of_subset hascending (List.Subset.trans hgrown hsub),
    value_pairwiseEntries_of_subset hascending hsub⟩

/-- A row that takes effect puts the entries of its policy among those towards its peer, as one block. -/
theorem hasBlock_entriesTowards (h : row.TakesEffect c policy owner peer) (d : AclDirection) :
    HasBlock (policy.entries owner peer d) (c.entriesTowards owner row.peer d)
      ((c.addPolicies [row]).1.entriesTowards owner row.peer d) := by
  obtain ⟨participation, group⟩ := policy
  obtain rfl : participation = row.participation := h.participation_eq
  have hkey : owner.key = row.owner := key_of_endpoint? h.owner_known
  have hpeer : (c.locatedPeer row.peer).value = some peer :=
    locatedPeer_eq_some_iff.mpr ⟨h.peer_known, h.peer_located⟩
  have hplaced := (AppliedPolicy.hasBlock_place ⟨row.participation, group⟩
    (c.table.policies row.owner row.peer)).flatMap_right fun policy => policy.entries owner peer d
  rw [entriesTowards, entriesTowards, cellEntries_addPolicies, table_addPolicies, h.registered, hkey]
  dsimp only
  rw [PolicyTable.policies_insert_self, if_neg h.new, cellEntries, cellEntries, hpeer]
  simpa using hplaced

/-- Beyond that, a row makes no difference to the entries of any endpoint towards any peer. -/
theorem entriesTowards_addPolicies_eq (howner : c.endpoint? owner.key = some owner)
    (h : owner.key = row.owner → p = row.peer → ∀ policy peer, ¬row.TakesEffect c policy owner peer) :
    (c.addPolicies [row]).1.entriesTowards owner p d = c.entriesTowards owner p d := by
  rw [entriesTowards, entriesTowards, cellEntries_addPolicies, table_addPolicies]
  cases hgroup : c.ruleGroup? row.ruleGroup with
  | none => rfl
  | some group =>
    dsimp only
    rw [PolicyTable.policies_insert]
    split
    next hnew =>
      obtain ⟨hkey, rfl, hnew⟩ := hnew
      cases hpeer : (c.locatedPeer row.peer).value with
      | none => rw [cellEntries, cellEntries, hpeer]
      | some peer =>
        obtain ⟨hknown, hlocated⟩ := locatedPeer_eq_some_iff.mp hpeer
        exact absurd ⟨hgroup, rfl, hkey ▸ hnew, hkey ▸ howner, hknown, hlocated⟩
          (h hkey rfl ⟨row.participation, group⟩ peer)
    next => rfl

/-- A row that takes effect makes its owner one block of entries more. -/
theorem hasBlock_sharedEntries (h : row.TakesEffect c policy owner peer) (d : AclDirection) :
    HasBlock (policy.entries owner peer d) (c.sharedEntries d row.owner).value
      ((c.addPolicies [row]).1.sharedEntries d row.owner).value := by
  obtain ⟨hendpoint, -, -, -⟩ := lookups_congr (c.endpoints_addPolicies [row])
  have hknown : c.endpoint? owner.key = some owner :=
    (key_of_endpoint? h.owner_known) ▸ h.owner_known
  obtain ⟨keys, hnodup, hmem, hbefore, hafter⟩ := c.value_pairwiseEntries_addPolicies row owner d
  rw [sharedEntries, sharedEntries, hendpoint, h.owner_known]
  dsimp only
  rw [hbefore, hafter]
  exact .flatMap hnodup hmem (hasBlock_entriesTowards h d) fun p _ hp =>
    entriesTowards_addPolicies_eq hknown fun _ heq => absurd heq hp

/-- No other row makes a difference to its owner, and no row to any other endpoint. -/
theorem sharedEntries_addPolicies_eq
    (h : j = row.owner → ∀ policy owner peer, ¬row.TakesEffect c policy owner peer) (d : AclDirection) :
    ((c.addPolicies [row]).1.sharedEntries d j).value = (c.sharedEntries d j).value := by
  obtain ⟨hendpoint, -, -, -⟩ := lookups_congr (c.endpoints_addPolicies [row])
  rw [sharedEntries, sharedEntries, hendpoint]
  cases howner : c.endpoint? j with
  | none => rfl
  | some owner =>
    have hkey : owner.key = j := key_of_endpoint? howner
    obtain ⟨keys, -, -, hbefore, hafter⟩ := c.value_pairwiseEntries_addPolicies row owner d
    dsimp only
    rw [hbefore, hafter]
    refine List.flatMap_congr fun p _ => entriesTowards_addPolicies_eq (hkey ▸ howner) fun heq _ => ?_
    exact fun policy peer => h (hkey ▸ heq) policy owner peer

end Context

/-- The list of an endpoint once a row has been added to the context. If the row takes effect, and its
owner is the endpoint or attached to the same interface, then the entries of its policy stand as one
block among the entries of policies, and nothing else has changed. Otherwise the list is what it was.
-/
theorem one_block_added {c : Context} {k : EndpointKey} {e : Endpoint} (he : c.endpoint? k = some e)
    (row : PolicyRow) (settings : AclSettings) (d : AclDirection) :
    let c' := (c.addPolicies [row]).1
    let OnInterface := row.owner = k ∨ ∃ l, c.locationOf? k = some l ∧ c.locationOf? row.owner = some l
    (∀ policy owner peer, row.TakesEffect c policy owner peer → OnInterface → ∃ front back,
      (c.interfaceEntries (.ofContext c) e d).value = front ++ back ∧
      (c.entries (.ofContext c) settings k d).value =
        .ok (front ++ back ++ c.defaultEntries settings e d) ∧
      (c'.entries (.ofContext c') settings k d).value =
        .ok (front ++ policy.entries owner peer d ++ back ++ c.defaultEntries settings e d)) ∧
    ((¬∃ policy owner peer, row.TakesEffect c policy owner peer ∧ OnInterface) →
      (c'.entries (.ofContext c') settings k d).value = (c.entries (.ofContext c) settings k d).value) := by
  intro c' OnInterface
  have hendpoints : c'.endpoints = c.endpoints := c.endpoints_addPolicies [row]
  obtain ⟨hendpoint, -, -, hkeys⟩ := Context.lookups_congr hendpoints
  have he' : c'.endpoint? k = some e := by rw [hendpoint, he]
  have hsubnets : c'.subnets = c.subnets := by
    change (c.addPolicies [row]).1.subnets = c.subnets
    rw [Context.frame_addPolicies]
  have hdefaults : c'.defaultEntries settings e d = c.defaultEntries settings e d :=
    Context.defaultEntries_congr hendpoints hsubnets settings e d
  have hbefore : (c.entries (.ofContext c) settings k d).value =
      .ok ((c.interfaceEntries (.ofContext c) e d).value ++ c.defaultEntries settings e d) := by
    rw [Context.entries, he]
    rfl
  have hafter : (c'.entries (.ofContext c') settings k d).value =
      .ok ((c'.interfaceEntries (.ofContext c') e d).value ++ c.defaultEntries settings e d) := by
    rw [Context.entries, he', ← hdefaults]
    rfl
  have hon : OnInterface ↔ row.owner ∈ c.interfaceKeys k := Context.mem_interfaceKeys.symm
  rw [hbefore, hafter, Context.value_interfaceEntries he, Context.value_interfaceEntries he', hkeys]
  refine ⟨fun policy owner peer heffect hshared => ?_, fun hnone => ?_⟩
  · have hblock : HasBlock (policy.entries owner peer d)
        ((c.interfaceKeys k).flatMap fun j => (c.sharedEntries d j).value)
        ((c.interfaceKeys k).flatMap fun j => (c'.sharedEntries d j).value) :=
      .flatMap (c.nodup_interfaceKeys k) (hon.mp hshared) (Context.hasBlock_sharedEntries heffect d)
        fun j _ hj => Context.sharedEntries_addPolicies_eq (fun heq => absurd heq hj) d
    obtain ⟨front, back, hold, hnew⟩ := hblock
    rw [hold, hnew]
    exact ⟨front, back, rfl, rfl, rfl⟩
  · have hsame : ((c.interfaceKeys k).flatMap fun j => (c'.sharedEntries d j).value) =
        (c.interfaceKeys k).flatMap fun j => (c.sharedEntries d j).value := by
      refine List.flatMap_congr fun j hj => Context.sharedEntries_addPolicies_eq ?_ d
      rintro rfl policy owner peer heffect
      exact hnone ⟨policy, owner, peer, heffect, hon.mpr hj⟩
    rw [hsame]

/-- The second server gets a rule group, and the list of the first one, which shares its interface,
gets the entry of the group between those of the servers' other policies and the default. -/
theorem one_block_added_shared :
    let c := (Sample.snapshot [Sample.subnet] [Sample.row "10.0.0.1" "10.0.0.9" "http" .provider,
      Sample.row "10.0.0.2" "10.0.0.9" "http" .provider]).context
    let c' := (c.addPolicies [Sample.row "10.0.0.2" "10.0.0.9" "ssh" .provider]).1
    let names (c : Context) : Except ResolveError (List String) :=
      (c.entries (.ofContext c) {} Sample.server.key .ingress).value.map (·.map AclEntry.name)
    ∃ front back : List String, front ++ back = ["http_10.0.0.1_10.0.0.9", "http_10.0.0.2_10.0.0.9"] ∧
      names c = .ok (front ++ back ++ ["deny_ingress_ipv4_10.0.0.0/24"]) ∧
      names c' = .ok (front ++ ["ssh_10.0.0.2_10.0.0.9"] ++ back ++
        ["deny_ingress_ipv4_10.0.0.0/24"]) := by
  intro c c' names
  let row := Sample.row "10.0.0.2" "10.0.0.9" "ssh" .provider
  let policy : AppliedPolicy := ⟨.provider, Sample.group "ssh" 22⟩
  let owner := Sample.endpoint "10.0.0.2" "tap0"
  let peer := Sample.endpoint "10.0.0.9" "tap1"
  have hserver : c.endpoint? Sample.server.key = some Sample.server := by decide +kernel
  have heffect : row.TakesEffect c policy owner peer :=
    ⟨by decide +kernel, rfl, by decide +kernel, by decide +kernel, by decide +kernel, by decide +kernel⟩
  obtain ⟨hadded, -⟩ := one_block_added hserver row {} .ingress
  obtain ⟨front, back, hpairwise, hbefore, hafter⟩ := hadded policy owner peer heffect
    (.inr ⟨Sample.serverLocation, by decide +kernel, by decide +kernel⟩)
  have hold : (c.interfaceEntries (.ofContext c) Sample.server .ingress).value.map AclEntry.name =
      ["http_10.0.0.1_10.0.0.9", "http_10.0.0.2_10.0.0.9"] := by decide +kernel
  have hblock : (policy.entries owner peer .ingress).map AclEntry.name = ["ssh_10.0.0.2_10.0.0.9"] := by
    decide +kernel
  have hdefault : (c.defaultEntries {} Sample.server .ingress).map AclEntry.name =
      ["deny_ingress_ipv4_10.0.0.0/24"] := by decide +kernel
  refine ⟨front.map AclEntry.name, back.map AclEntry.name, ?_, ?_, ?_⟩
  · rw [← List.map_append, ← hpairwise, hold]
  · change Except.map _ (c.entries _ _ _ _).value = _
    rw [hbefore, Except.map, List.map_append, List.map_append, hdefault]
  · change Except.map _ (c'.entries _ _ _ _).value = _
    rw [hafter, Except.map, List.map_append, List.map_append, List.map_append, hblock, hdefault]

end GroupPolicy

import GroupPolicy.Proofs.Policy.Reachable
import GroupPolicy.Proofs.Policy.Sample
import GroupPolicy.Proofs.Render.Colocation
import GroupPolicy.Proofs.Render.Pairwise
import GroupPolicy.Proofs.Render.RuleEntry
import Mathlib.Data.List.Forall2

namespace GroupPolicy

/-- The elements that a partial function keeps stand in the order of their tags. -/
theorem map_filterMap_sublist {α β κ : Type} {f : α → Option β} {key : α → κ} {tag : β → κ}
    (htag : ∀ a b, f a = some b → tag b = key a) (l : List α) :
    ((l.filterMap f).map tag).Sublist (l.map key) := by
  induction l with
  | nil => exact List.Sublist.refl _
  | cons a r ih =>
    cases hfa : f a with
    | none =>
      rw [List.filterMap_cons_none hfa]
      exact ih.cons _
    | some b =>
      rw [List.filterMap_cons_some hfa, List.map_cons, List.map_cons, htag a b hfa]
      exact ih.cons_cons _

/-- A rule of a policy between two endpoints, by its position. -/
structure Site where
  owner : EndpointKey
  peer : EndpointKey
  policy : AppliedPolicy
  position : Nat
  deriving DecidableEq

/-- Everything that a site passes on the way to an entry of the interface of an endpoint, and what
it is taken for there. -/
structure Site.Passes (c : Context) (k : EndpointKey) (d : AclDirection) (s : Site)
    (owner peer : Endpoint) (rule : Rule) (amount : Specialization) (draft : Draft) : Prop where
  /-- The owner is known, and is the endpoint itself or shares its location. -/
  owner_known : c.endpoint? s.owner = some owner
  owner_beside : s.owner = k ∨ ∃ l, c.locationOf? k = some l ∧ c.locationOf? s.owner = some l
  /-- The peer is known and attached somewhere. -/
  peer_known : c.endpoint? s.peer = some peer
  peer_located : peer.location?.isSome = true
  /-- The policy stands in the cell of both, and the rule at the position in its group. -/
  policy_applies : s.policy ∈ c.table.policies s.owner s.peer
  rule_stands : s.policy.group.rules[s.position]? = some rule
  /-- The rule lets its traffic through, and its classifiers amount to something in the direction,
  which makes a match. -/
  allows : rule.allows = true
  specialized : Specialization.ofClassifiers? rule.classifiers
    (s.policy.participation.classifierDirection d) = some amount
  matched : amount.constrain { name := rule.entryName owner peer } = .ok draft
  /-- Between addresses of one version, the rule is not for the other. -/
  family : ∀ f, owner.ownFamily? = some f → peer.ownFamily? = some f → draft.etherType ≠ some f.other
  /-- The rule covers the exchange of addresses, or one of the ends has a routed address. -/
  bound : draft.isDhcp = true ∨ owner.routedCidr?.isSome = true ∨ peer.routedCidr?.isSome = true

namespace Site

/-- Whether a site passes all the tests. -/
def IsRendered (c : Context) (k : EndpointKey) (d : AclDirection) (s : Site) : Prop :=
  ∃ owner peer rule amount draft, s.Passes c k d owner peer rule amount draft

/-- The entry that a site makes: what its rule amounts to, with the addresses of both ends. -/
def Renders (c : Context) (k : EndpointKey) (d : AclDirection) (s : Site) (e : AclEntry) : Prop :=
  ∃ owner peer rule amount draft, s.Passes c k d owner peer rule amount draft ∧
    e = (draft.permit.addressed d owner peer).build

theorem isRendered_iff {c : Context} {k : EndpointKey} {d : AclDirection} {s : Site} :
    s.IsRendered c k d ↔ ∃ e, s.Renders c k d e := by
  constructor
  · rintro ⟨owner, peer, rule, amount, draft, h⟩
    exact ⟨_, owner, peer, rule, amount, draft, h, rfl⟩
  · rintro ⟨e, owner, peer, rule, amount, draft, h, -⟩
    exact ⟨owner, peer, rule, amount, draft, h⟩

end Site

namespace AppliedPolicy

/-- The entries of a policy with the positions of their rules. -/
def placedEntries (policy : AppliedPolicy) (owner peer : Endpoint) (d : AclDirection) :
    List (Nat × AclEntry) :=
  policy.group.rules.zipIdx.filterMap fun (rule, i) =>
    (policy.ruleEntry? owner peer d rule).map fun e => (i, e)

theorem map_snd_placedEntries (policy : AppliedPolicy) (owner peer : Endpoint) (d : AclDirection) :
    (policy.placedEntries owner peer d).map (·.2) = policy.entries owner peer d := by
  have hrule : policy.group.rules = policy.group.rules.zipIdx.map Prod.fst :=
    (List.zipIdx_map_fst 0 _).symm
  rw [entries_eq_filterMap, placedEntries, List.map_filterMap]
  conv_rhs => rw [hrule, List.filterMap_map]
  refine List.filterMap_congr fun ⟨rule, i⟩ _ => ?_
  change ((policy.ruleEntry? owner peer d rule).map fun e => (i, e)).map Prod.snd =
    policy.ruleEntry? owner peer d rule
  cases policy.ruleEntry? owner peer d rule with
  | none => rfl
  | some e => rfl

theorem mem_placedEntries {policy : AppliedPolicy} {owner peer : Endpoint} {d : AclDirection}
    {i : Nat} {e : AclEntry} :
    (i, e) ∈ policy.placedEntries owner peer d ↔
      ∃ rule, policy.group.rules[i]? = some rule ∧ policy.ruleEntry? owner peer d rule = some e := by
  rw [placedEntries, List.mem_filterMap]
  constructor
  · rintro ⟨⟨rule, j⟩, hrule, hentry⟩
    obtain ⟨e', he', heq⟩ := Option.map_eq_some_iff.mp hentry
    obtain ⟨rfl, rfl⟩ := Prod.mk.inj heq
    exact ⟨rule, List.mk_mem_zipIdx_iff_getElem?.mp hrule, he'⟩
  · rintro ⟨rule, hrule, hentry⟩
    exact ⟨(rule, i), List.mk_mem_zipIdx_iff_getElem?.mpr hrule,
      Option.map_eq_some_iff.mpr ⟨e, hentry, rfl⟩⟩

theorem nodup_placedEntries (policy : AppliedPolicy) (owner peer : Endpoint) (d : AclDirection) :
    ((policy.placedEntries owner peer d).map (·.1)).Nodup := by
  have hpositions : (policy.group.rules.zipIdx.map Prod.snd).Nodup := by
    rw [List.zipIdx_map_snd]
    exact List.nodup_range'
  refine hpositions.sublist (map_filterMap_sublist (fun ⟨rule, i⟩ b hb => ?_) _)
  obtain ⟨e, -, rfl⟩ := Option.map_eq_some_iff.mp hb
  rfl

end AppliedPolicy

namespace Context

variable {c : Context} {owner : Endpoint} {d : AclDirection} {j k : EndpointKey} {s : Site}
  {e : AclEntry}

/-- The sites of one cell that come out as entries, with the entries. -/
def cellSites (c : Context) (owner : Endpoint) (d : AclDirection)
    (cell : EndpointKey × List AppliedPolicy) : List (Site × AclEntry) :=
  (c.locatedPeer cell.1).value.toList.flatMap fun peer =>
    cell.2.flatMap fun policy =>
      (policy.placedEntries owner peer d).map fun (i, e) => (⟨owner.key, cell.1, policy, i⟩, e)

/-- The sites of one endpoint that come out as entries, with the entries. -/
def endpointSites (c : Context) (d : AclDirection) (j : EndpointKey) : List (Site × AclEntry) :=
  (c.endpoint? j).toList.flatMap fun owner =>
    (c.table.peers owner.key).flatMap (c.cellSites owner d)

/-- The sites of an interface that come out as entries, with the entries. -/
def sites (c : Context) (k : EndpointKey) (d : AclDirection) : List (Site × AclEntry) :=
  (c.interfaceKeys k).flatMap (c.endpointSites d)

theorem map_snd_cellSites (c : Context) (owner : Endpoint) (d : AclDirection)
    (cell : EndpointKey × List AppliedPolicy) :
    (c.cellSites owner d cell).map (·.2) = c.cellEntries (fun _ => true) owner d cell := by
  unfold cellSites cellEntries
  cases (c.locatedPeer cell.1).value with
  | none => rfl
  | some peer =>
    simp only [Option.toList_some, List.flatMap_singleton,
      List.filter_true, List.map_flatMap, List.map_map, Function.comp_def]
    exact List.flatMap_congr fun policy _ => policy.map_snd_placedEntries owner peer d

theorem map_snd_endpointSites (c : Context) (d : AclDirection) (j : EndpointKey) :
    (c.endpointSites d j).map (·.2) = (c.sharedEntries d j).value := by
  unfold endpointSites sharedEntries
  cases c.endpoint? j with
  | none => rfl
  | some owner =>
    simp only [Option.toList_some, List.flatMap_singleton,
      List.map_flatMap, map_snd_cellSites]
    rw [pairwiseEntries, value_selectedEntries]

/-- The entries of the sites are those of the interface. -/
theorem map_snd_sites {owner : Endpoint} (howner : c.endpoint? k = some owner) (d : AclDirection) :
    (c.sites k d).map (·.2) = (c.interfaceEntries (.ofContext c) owner d).value := by
  rw [value_interfaceEntries howner, sites, List.map_flatMap]
  exact List.flatMap_congr fun j _ => c.map_snd_endpointSites d j

theorem mem_cellSites {p : EndpointKey} {policies : List AppliedPolicy} :
    (s, e) ∈ c.cellSites owner d (p, policies) ↔ s.owner = owner.key ∧ s.peer = p ∧
      s.policy ∈ policies ∧ ∃ peer, (c.endpoint? p = some peer ∧ peer.location?.isSome = true) ∧
        (s.position, e) ∈ s.policy.placedEntries owner peer d := by
  obtain ⟨o, q, policy, i⟩ := s
  simp only [cellSites, List.mem_flatMap, Option.mem_toList, locatedPeer_eq_some_iff, List.mem_map,
    Prod.exists, Prod.mk.injEq, Site.mk.injEq]
  constructor
  · rintro ⟨peer, hpeer, policy, hpolicy, i, e, hentry, ⟨rfl, rfl, rfl, rfl⟩, rfl⟩
    exact ⟨rfl, rfl, hpolicy, peer, hpeer, hentry⟩
  · rintro ⟨rfl, rfl, hpolicy, peer, hpeer, hentry⟩
    exact ⟨peer, hpeer, policy, hpolicy, i, e, hentry, ⟨rfl, rfl, rfl, rfl⟩, rfl⟩

theorem mem_endpointSites :
    (s, e) ∈ c.endpointSites d j ↔ s.owner = j ∧ ∃ owner, c.endpoint? j = some owner ∧
      s.policy ∈ c.table.policies j s.peer ∧
        ∃ peer, (c.endpoint? s.peer = some peer ∧ peer.location?.isSome = true) ∧
          (s.position, e) ∈ s.policy.placedEntries owner peer d := by
  simp only [endpointSites, List.mem_flatMap, Option.mem_toList]
  constructor
  · rintro ⟨owner, howner, ⟨p, policies⟩, hcell, hsite⟩
    obtain ⟨hs, rfl, hpolicy, hpeer⟩ := mem_cellSites.mp hsite
    rw [← PolicyTable.policies_of_mem_peers hcell, key_of_endpoint? howner] at hpolicy
    exact ⟨hs.trans (key_of_endpoint? howner), owner, howner, hpolicy, hpeer⟩
  · rintro ⟨rfl, owner, howner, hpolicy, hpeer⟩
    have hkey := key_of_endpoint? howner
    rw [← hkey] at hpolicy
    exact ⟨owner, howner, _, PolicyTable.mem_peers_of_mem_policies hpolicy,
      mem_cellSites.mpr ⟨hkey.symm, rfl, hpolicy, hpeer⟩⟩

/-- The sites of an interface are those that pass all the tests. -/
theorem mem_sites : (s, e) ∈ c.sites k d ↔ s.Renders c k d e := by
  rw [sites, List.mem_flatMap]
  constructor
  · rintro ⟨j, hj, hsite⟩
    obtain ⟨rfl, owner, howner, hpolicy, peer, hpeer, hentry⟩ := mem_endpointSites.mp hsite
    obtain ⟨rule, hrule, hrendered⟩ := AppliedPolicy.mem_placedEntries.mp hentry
    obtain ⟨hallows, amount, draft, hspecial, hmatch, hfamily, hbound, rfl⟩ :=
      AppliedPolicy.ruleEntry?_eq_some_iff.mp hrendered
    exact ⟨owner, peer, rule, amount, draft, ⟨howner, mem_interfaceKeys.mp hj, hpeer.1, hpeer.2,
      hpolicy, hrule, hallows, hspecial, hmatch, hfamily, hbound⟩, rfl⟩
  · rintro ⟨owner, peer, rule, amount, draft, h, rfl⟩
    refine ⟨s.owner, mem_interfaceKeys.mpr h.owner_beside, mem_endpointSites.mpr ⟨rfl, owner,
      h.owner_known, h.policy_applies, peer, ⟨h.peer_known, h.peer_located⟩, ?_⟩⟩
    refine AppliedPolicy.mem_placedEntries.mpr ⟨rule, h.rule_stands, ?_⟩
    exact AppliedPolicy.ruleEntry?_eq_some_iff.mpr ⟨h.allows, amount, draft, h.specialized, h.matched,
      h.family, h.bound, rfl⟩

/-- The sites of one cell whose policies are selected. -/
theorem filter_cellSites (c : Context) (owner : Endpoint) (d : AclDirection) (p : EndpointKey)
    (policies : List AppliedPolicy) (selected : AppliedPolicy → Bool) :
    (c.cellSites owner d (p, policies)).filter (fun site => selected site.1.policy) =
      c.cellSites owner d (p, policies.filter selected) := by
  unfold cellSites
  rw [List.filter_flatMap]
  refine List.flatMap_congr fun peer hpeer => ?_
  clear hpeer
  induction policies with
  | nil => rfl
  | cons policy rest ih =>
    rw [List.flatMap_cons, List.filter_append, ih, List.filter_map]
    cases hselected : selected policy with
    | true =>
      rw [List.filter_cons_of_pos hselected, List.flatMap_cons]
      simp [Function.comp_def, hselected]
    | false =>
      rw [List.filter_cons_of_neg (by simp [hselected])]
      simp [Function.comp_def, hselected]

/-- The selected entries of an endpoint are those of its sites whose policies are selected. -/
theorem map_snd_filter_endpointSites (howner : c.endpoint? owner.key = some owner) (d : AclDirection)
    (selected : AppliedPolicy → Bool) :
    ((c.endpointSites d owner.key).filter fun site => selected site.1.policy).map (·.2) =
      (c.selectedEntries selected owner d).value := by
  rw [value_selectedEntries, endpointSites, howner, Option.toList_some, List.flatMap_singleton,
    List.filter_flatMap, List.map_flatMap]
  refine List.flatMap_congr fun ⟨p, policies⟩ _ => ?_
  rw [filter_cellSites, map_snd_cellSites, cellEntries, cellEntries]
  simp only [List.filter_true]

theorem nodup_cellSites (c : Context) (owner : Endpoint) (d : AclDirection)
    {cell : EndpointKey × List AppliedPolicy} (hcell : cell.2.Nodup) :
    ((c.cellSites owner d cell).map (·.1)).Nodup := by
  unfold cellSites
  cases (c.locatedPeer cell.1).value with
  | none => exact List.nodup_nil
  | some peer =>
    simp only [Option.toList_some, List.flatMap_singleton,
      List.map_flatMap, List.map_map]
    -- The policy tells the sites of a cell apart, and the position those of a policy.
    refine nodup_flatMap_of_tag id Site.policy (by rwa [List.map_id]) (fun policy _ => ?_) ?_
    · have hplaces := policy.nodup_placedEntries owner peer d
      refine List.Nodup.of_map Site.position ?_
      rw [List.map_map]
      exact hplaces
    · intro policy _ s hs
      obtain ⟨⟨i, e⟩, -, rfl⟩ := List.mem_map.mp hs
      rfl

theorem nodup_endpointSites (hc : c.Reachable) (d : AclDirection) (j : EndpointKey) :
    ((c.endpointSites d j).map (·.1)).Nodup := by
  unfold endpointSites
  cases c.endpoint? j with
  | none => exact List.nodup_nil
  | some owner =>
    simp only [Option.toList_some, List.flatMap_singleton,
      List.map_flatMap]
    refine nodup_flatMap_of_tag Prod.fst Site.peer (PolicyTable.nodup_keys_peers _ _) ?_ ?_
    · rintro ⟨p, policies⟩ hcell
      refine nodup_cellSites c owner d ?_
      rw [← PolicyTable.policies_of_mem_peers hcell]
      exact hc.nodup_policies _ _
    · rintro ⟨p, policies⟩ _ s hs
      obtain ⟨⟨s, e⟩, hsite, rfl⟩ := List.mem_map.mp hs
      exact (mem_cellSites.mp hsite).2.1

/-- No site of an interface is visited twice. -/
theorem nodup_sites (hc : c.Reachable) (k : EndpointKey) (d : AclDirection) :
    ((c.sites k d).map (·.1)).Nodup := by
  rw [sites, List.map_flatMap]
  refine nodup_flatMap_of_tag id Site.owner ?_ (fun j _ => nodup_endpointSites hc d j) ?_
  · rw [List.map_id]
    exact c.nodup_interfaceKeys k
  · intro j _ s hs
    obtain ⟨⟨s, e⟩, hsite, rfl⟩ := List.mem_map.mp hs
    exact (mem_endpointSites.mp hsite).1

end Context

/-- The entry of a site permits its traffic, and is named for its rule and both ends. -/
theorem Site.Renders.action_name {c : Context} {k : EndpointKey} {d : AclDirection} {s : Site}
    {e : AclEntry} (h : s.Renders c k d e) : e.action = .permit ∧
      ∃ rule, s.policy.group.rules[s.position]? = some rule ∧
        e.name = rule.name ++ "_" ++ s.owner.address ++ "_" ++ s.peer.address := by
  obtain ⟨owner, peer, rule, amount, draft, hpasses, heq⟩ := h
  have hentry : s.policy.ruleEntry? owner peer d rule = some e :=
    AppliedPolicy.ruleEntry?_eq_some_iff.mpr ⟨hpasses.allows, amount, draft, hpasses.specialized,
      hpasses.matched, hpasses.family, hpasses.bound, heq⟩
  obtain ⟨hname, haction⟩ := AppliedPolicy.name_action_of_ruleEntry? hentry
  refine ⟨haction, rule, hpasses.rule_stands, hname.trans ?_⟩
  rw [Rule.entryName, Context.key_of_endpoint? hpasses.owner_known,
    Context.key_of_endpoint? hpasses.peer_known]

end GroupPolicy

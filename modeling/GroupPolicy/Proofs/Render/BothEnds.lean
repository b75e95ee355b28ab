import GroupPolicy.Proofs.Policy.Reachable
import GroupPolicy.Proofs.Policy.Sample
import GroupPolicy.Proofs.Render.Pairwise
import GroupPolicy.Proofs.Render.RuleEntry

namespace GroupPolicy

/-- What an entry does: the traffic that it matches, and what becomes of it. -/
def AclEntry.effect (e : AclEntry) : Traffic × Verdict := (e.traffic, e.action)

/-- The policy as it applies to the other side of the contract. -/
def AppliedPolicy.opposite (policy : AppliedPolicy) : AppliedPolicy :=
  ⟨policy.participation.opposite, policy.group⟩

/-- Every policy between two endpoints applies to both of them, on opposite sides. -/
def PolicyTable.IsSymmetric (t : PolicyTable) : Prop :=
  ∀ owner peer policy, policy ∈ t.policies owner peer → policy.opposite ∈ t.policies peer owner

/-- Whether a table is symmetric can be seen from the policies that stand in it. -/
instance (t : PolicyTable) : Decidable t.IsSymmetric :=
  decidable_of_iff (∀ owner ∈ t.owners, ∀ cell ∈ t.peers owner, ∀ policy ∈ cell.2,
      policy.opposite ∈ t.policies cell.1 owner) (by
    constructor
    · intro h owner peer policy hpolicy
      exact h owner (PolicyTable.mem_owners_of_mem_policies hpolicy) _
        (PolicyTable.mem_peers_of_mem_policies hpolicy) policy hpolicy
    · intro h owner _ cell hcell policy hpolicy
      rw [← PolicyTable.policies_of_mem_peers hcell] at hpolicy
      exact h owner cell.1 policy hpolicy)

theorem sharedFamily?_comm (owner peer : Endpoint) :
    sharedFamily? owner peer = sharedFamily? peer owner := by
  unfold sharedFamily?
  cases owner.ownFamily? with
  | none => cases peer.ownFamily? <;> rfl
  | some f =>
    cases peer.ownFamily? with
    | none => rfl
    | some g =>
      by_cases heq : f = g
      · subst heq
        rfl
      · simp [heq, eq_comm]

namespace Draft

variable (d : AclDirection) (owner peer : Endpoint) (x : Draft)

theorem isRelevant_comm : x.isRelevant peer owner = x.isRelevant owner peer := by
  rw [isRelevant, sharedFamily?_comm, isRelevant]

/-- The address at an end of some traffic does not depend on which endpoint sees it. -/
theorem assign_opposite (role : AddressRole) :
    x.assign role d.opposite peer owner = x.assign role d owner peer := by
  have hend : role.endpoint d.opposite peer owner = role.endpoint d owner peer := by
    cases role <;> cases d <;> rfl
  rw [assign, hend, assign]

theorem addressed_opposite : x.addressed d.opposite peer owner = x.addressed d owner peer := by
  rw [addressed, assign_opposite, assign_opposite, addressed]

theorem assign_rename (role : AddressRole) (name : String) :
    (x.rename name).assign role d owner peer = (x.assign role d owner peer).rename name := by
  unfold assign
  cases (role.endpoint d owner peer).routedCidr? with
  | none => rfl
  | some p =>
    have hdhcp : (x.rename name).isDhcp = x.isDhcp := rfl
    simp only [withAddress, hdhcp]
    cases x.isDhcp with
    | true => rfl
    | false => cases role <;> rfl

theorem addressed_rename (name : String) :
    (x.rename name).addressed d owner peer = (x.addressed d owner peer).rename name := by
  rw [addressed, assign_rename, assign_rename, addressed]

end Draft

namespace AppliedPolicy

/-- Classifiers speak about the traffic of a contract, whichever of its ends looks at it. -/
theorem direction_opposite (policy : AppliedPolicy) (d : AclDirection) :
    policy.opposite.direction d.opposite = policy.direction d := by
  obtain ⟨participation, group⟩ := policy
  cases participation <;> cases d <;> rfl

theorem effect_ruleEntry?_opposite (policy : AppliedPolicy) (owner peer : Endpoint) (d : AclDirection)
    (rule : Rule) :
    (policy.opposite.ruleEntry? peer owner d.opposite rule).map AclEntry.effect =
      (policy.ruleEntry? owner peer d rule).map AclEntry.effect := by
  unfold ruleEntry?
  rw [direction_opposite,
    rule.draft_rename (policy.direction d) (rule.entryName owner peer) (rule.entryName peer owner)]
  cases rule.draft (policy.direction d) (rule.entryName owner peer) with
  | error omission => rfl
  | ok x =>
    simp only [Except.map, Except.toOption, Option.bind_some]
    rw [Draft.isRelevant_comm, Draft.addressed_opposite, Draft.addressed_rename]
    have hrelevant : (x.rename (rule.entryName peer owner)).isRelevant owner peer =
        x.isRelevant owner peer := rfl
    have hbound : ((x.addressed d owner peer).rename (rule.entryName peer owner)).isBound =
        (x.addressed d owner peer).isBound := rfl
    rw [hrelevant, hbound]
    split <;> rfl

/-- A policy does the same for both of its ends. -/
theorem effects_opposite (policy : AppliedPolicy) (owner peer : Endpoint) (d : AclDirection) :
    (policy.opposite.entries peer owner d.opposite).map AclEntry.effect =
      (policy.entries owner peer d).map AclEntry.effect := by
  rw [entries_eq_filterMap, entries_eq_filterMap, List.map_filterMap, List.map_filterMap]
  exact List.filterMap_congr fun rule _ => policy.effect_ruleEntry?_opposite owner peer d rule

end AppliedPolicy

/-- In a symmetric table, the policies of one end are those of the other, on opposite sides. Their
order may differ, as the sides of one group stand in the same order at both ends. -/
theorem PolicyTable.IsSymmetric.perm {t : PolicyTable} (hsym : t.IsSymmetric)
    {owner peer : EndpointKey} (howner : (t.policies owner peer).Nodup)
    (hpeer : (t.policies peer owner).Nodup) :
    ((t.policies owner peer).map AppliedPolicy.opposite).Perm (t.policies peer owner) := by
  have hinvolutive : Function.Involutive AppliedPolicy.opposite := by
    rintro ⟨participation, group⟩
    cases participation <;> rfl
  refine (List.perm_ext_iff_of_nodup (howner.map hinvolutive.injective) hpeer).mpr fun policy => ?_
  rw [List.mem_map]
  constructor
  · rintro ⟨q, hq, rfl⟩
    exact hsym owner peer q hq
  · intro hpolicy
    exact ⟨policy.opposite, hsym peer owner policy hpolicy, hinvolutive policy⟩

/-- A policy makes the same entries for its owner in one direction and for its peer in the other, in
the same order, apart from their names. So where every policy applies to both of its ends, what an
endpoint has entries for towards a peer is what the peer has entries for towards the endpoint, in the
other direction. -/
theorem both_ends_agree :
    (∀ (owner peer : Endpoint) (group : RuleGroup) (participation : Participation) (d : AclDirection),
      ((AppliedPolicy.mk participation group).entries owner peer d).map AclEntry.effect =
        ((AppliedPolicy.mk participation.opposite group).entries peer owner d.opposite).map
          AclEntry.effect) ∧
    ∀ c : Context, c.Reachable → c.table.IsSymmetric →
      (∀ (owner : Endpoint) (d : AclDirection), (c.pairwiseEntries owner d).value =
        (c.table.peers owner.key).flatMap fun cell => c.entriesTowards owner cell.1 d) ∧
      ∀ (j k : EndpointKey) (owner peer : Endpoint), c.endpoint? j = some owner →
        c.endpoint? k = some peer → owner.location?.isSome = true → peer.location?.isSome = true →
        ∀ d : AclDirection, ((c.entriesTowards owner k d).map AclEntry.effect).Perm
          ((c.entriesTowards peer j d.opposite).map AclEntry.effect) := by
  refine ⟨fun owner peer group participation d =>
    ((AppliedPolicy.mk participation group).effects_opposite owner peer d).symm, ?_⟩
  intro c hreachable hsym
  refine ⟨c.value_pairwiseEntries, ?_⟩
  intro j k owner peer howner hpeer hownerLocated hpeerLocated d
  have hperm := hsym.perm (hreachable.nodup_policies j k) (hreachable.nodup_policies k j)
  have howards : (c.entriesTowards owner k d).map AclEntry.effect =
      (c.table.policies j k).flatMap fun policy =>
        (policy.opposite.entries peer owner d.opposite).map AclEntry.effect := by
    rw [Context.entriesTowards, Context.cellEntries,
      Context.locatedPeer_eq_some_iff.mpr ⟨hpeer, hpeerLocated⟩, Context.key_of_endpoint? howner]
    simp only [List.filter_true, List.map_flatMap, AppliedPolicy.effects_opposite]
  have hback : (c.entriesTowards peer j d.opposite).map AclEntry.effect =
      (c.table.policies k j).flatMap fun policy =>
        (policy.entries peer owner d.opposite).map AclEntry.effect := by
    rw [Context.entriesTowards, Context.cellEntries,
      Context.locatedPeer_eq_some_iff.mpr ⟨howner, hownerLocated⟩, Context.key_of_endpoint? hpeer]
    simp only [List.filter_true, List.map_flatMap]
  rw [howards, hback]
  refine List.Perm.trans (List.Perm.of_eq ?_) (hperm.flatMap_right _)
  rw [List.flatMap_map]

/-- A server and a client that each provide a group to the other: both cells hold the group twice,
the provider's side first, and yet the ends agree. -/
theorem both_ends_agree_mutual :
    let c := (Sample.snapshot [] [Sample.row "10.0.0.1" "10.0.0.9" "http" .provider,
      Sample.row "10.0.0.9" "10.0.0.1" "http" .consumer, Sample.row "10.0.0.1" "10.0.0.9" "http" .consumer,
      Sample.row "10.0.0.9" "10.0.0.1" "http" .provider]).context
    let server := Sample.endpoint "10.0.0.1" "tap0"
    let client := Sample.endpoint "10.0.0.9" "tap1"
    (c.entriesTowards server client.key .ingress).length = 2 ∧
      ((c.entriesTowards server client.key .ingress).map AclEntry.effect).Perm
        ((c.entriesTowards client server.key .egress).map AclEntry.effect) :=
  ⟨by decide +kernel, (both_ends_agree.2 _ (Snapshot.reachable_context _) (by decide +kernel)).2 _ _ _ _
    (by decide +kernel) (by decide +kernel) (by decide +kernel) (by decide +kernel) .ingress⟩

end GroupPolicy

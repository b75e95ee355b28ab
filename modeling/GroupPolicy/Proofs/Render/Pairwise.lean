import GroupPolicy.Render.Entries
import GroupPolicy.Proofs.Policy.Table

namespace GroupPolicy

namespace Context

/-- The entries of the selected policies of one cell. A peer that is not known, or attached nowhere,
has none. -/
def cellEntries (c : Context) (selected : AppliedPolicy → Bool) (owner : Endpoint) (d : AclDirection)
    (cell : EndpointKey × List AppliedPolicy) : List AclEntry :=
  match (c.locatedPeer cell.1).value with
  | none => []
  | some peer => (cell.2.filter selected).flatMap fun policy => policy.entries owner peer d

/-- The entries of an endpoint's policies towards one peer. -/
def entriesTowards (c : Context) (owner : Endpoint) (peer : EndpointKey) (d : AclDirection) :
    List AclEntry :=
  c.cellEntries (fun _ => true) owner d (peer, c.table.policies owner.key peer)

variable {c c' : Context} {selected selected' : AppliedPolicy → Bool} {owner peer : Endpoint}
  {d : AclDirection} {k : EndpointKey}

theorem locatedPeer_eq_some_iff :
    (c.locatedPeer k).value = some peer ↔ c.endpoint? k = some peer ∧ peer.location?.isSome = true := by
  unfold locatedPeer Endpoint.resolveLocation
  cases c.endpoint? k with
  | none => simp
  | some e =>
    dsimp only
    rw [Option.some.injEq]
    cases hlocation : e.location? with
    | none =>
      constructor
      · intro h
        cases h
      · rintro ⟨rfl, hsome⟩
        rw [hlocation] at hsome
        cases hsome
    | some l =>
      constructor
      · intro h
        obtain rfl := Option.some.inj h
        exact ⟨rfl, by rw [hlocation]; rfl⟩
      · rintro ⟨rfl, -⟩
        rfl

theorem value_selectedEntries (c : Context) (selected : AppliedPolicy → Bool) (owner : Endpoint)
    (d : AclDirection) :
    (c.selectedEntries selected owner d).value =
      (c.table.peers owner.key).flatMap (c.cellEntries selected owner d) := by
  rw [selectedEntries, Logged.value_gather]
  congr 1
  funext ⟨k, policies⟩
  dsimp only
  unfold cellEntries
  cases (c.locatedPeer k).value with
  | none => rfl
  | some peer => simp [AppliedPolicy.rendered]

/-- The pairwise entries of an endpoint are those towards each of its peers in turn. -/
theorem value_pairwiseEntries (c : Context) (owner : Endpoint) (d : AclDirection) :
    (c.pairwiseEntries owner d).value =
      (c.table.peers owner.key).flatMap fun cell => c.entriesTowards owner cell.1 d := by
  rw [pairwiseEntries, value_selectedEntries]
  refine List.flatMap_congr fun ⟨k, policies⟩ hcell => ?_
  rw [entriesTowards, PolicyTable.policies_of_mem_peers hcell]

theorem mem_cellEntries {e : AclEntry} {policies : List AppliedPolicy} :
    e ∈ c.cellEntries selected owner d (k, policies) ↔
      ∃ peer, (c.endpoint? k = some peer ∧ peer.location?.isSome = true) ∧
        ∃ policy ∈ policies, selected policy = true ∧ e ∈ policy.entries owner peer d := by
  unfold cellEntries
  cases hpeer : (c.locatedPeer k).value with
  | none =>
    simp only [List.not_mem_nil, false_iff]
    rintro ⟨peer, hknown, -⟩
    rw [locatedPeer_eq_some_iff.mpr hknown] at hpeer
    cases hpeer
  | some peer =>
    have hknown := locatedPeer_eq_some_iff.mp hpeer
    simp only [List.mem_flatMap, List.mem_filter]
    constructor
    · rintro ⟨policy, ⟨hpolicy, hselected⟩, he⟩
      exact ⟨peer, hknown, policy, hpolicy, hselected, he⟩
    · rintro ⟨peer', hknown', policy, hpolicy, hselected, he⟩
      obtain rfl := Option.some.inj (hknown.1.symm.trans hknown'.1)
      exact ⟨policy, ⟨hpolicy, hselected⟩, he⟩

/-- An entry is among the selected ones of an endpoint if some selected policy of it, towards a
peer that is attached somewhere, makes the entry. -/
theorem mem_selectedEntries {e : AclEntry} :
    e ∈ (c.selectedEntries selected owner d).value ↔
      ∃ k peer, (c.endpoint? k = some peer ∧ peer.location?.isSome = true) ∧
        ∃ policy ∈ c.table.policies owner.key k, selected policy = true ∧
          e ∈ policy.entries owner peer d := by
  rw [value_selectedEntries, List.mem_flatMap]
  constructor
  · rintro ⟨⟨k, policies⟩, hcell, he⟩
    obtain ⟨peer, hknown, policy, hpolicy, hrest⟩ := mem_cellEntries.mp he
    rw [← PolicyTable.policies_of_mem_peers hcell] at hpolicy
    exact ⟨k, peer, hknown, policy, hpolicy, hrest⟩
  · rintro ⟨k, peer, hknown, policy, hpolicy, hrest⟩
    exact ⟨_, PolicyTable.mem_peers_of_mem_policies hpolicy,
      mem_cellEntries.mpr ⟨peer, hknown, policy, hpolicy, hrest⟩⟩

end Context

end GroupPolicy

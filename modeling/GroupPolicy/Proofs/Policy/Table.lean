import GroupPolicy.Policy.Table
import GroupPolicy.Proofs.Ordered.Map

namespace GroupPolicy

namespace AppliedPolicy

theorem place_perm (p : AppliedPolicy) (l : List AppliedPolicy) : (p.place l).Perm (p :: l) := by
  induction l with
  | nil => exact List.Perm.refl _
  | cons q r ih =>
    unfold place
    split
    · exact List.Perm.refl _
    · exact (ih.cons q).trans (List.Perm.swap p q r)

theorem sublist_place (p : AppliedPolicy) (l : List AppliedPolicy) : l.Sublist (p.place l) := by
  induction l with
  | nil => exact List.nil_sublist _
  | cons q r ih =>
    unfold place
    split
    · exact List.sublist_cons_self _ _
    · exact ih.cons_cons q

end AppliedPolicy

namespace PolicyTable

variable {t : PolicyTable} {owner peer other : EndpointKey} {policy q : AppliedPolicy}
  {cell : List AppliedPolicy}

theorem policies_of_mem_peers (h : (peer, cell) ∈ t.peers owner) :
    t.policies owner peer = cell :=
  SortedMap.getD_eq_iff_of_mem h

theorem mem_peers_of_mem_policies (h : policy ∈ t.policies owner peer) :
    (peer, t.policies owner peer) ∈ t.peers owner := by
  rw [peers, ← SortedMap.get?_eq_some_iff]
  rw [policies, SortedMap.getD] at h ⊢
  cases hcell : (t.row owner).get? peer with
  | none =>
    rw [hcell] at h
    cases h
  | some cell => rfl

theorem mem_owners_of_mem_policies (h : policy ∈ t.policies owner peer) : owner ∈ t.owners := by
  rw [owners, SortedMap.mem_keys_iff]
  rw [policies, SortedMap.getD, row, SortedMap.getD] at h
  cases hrow : t.rows.get? owner with
  | none =>
    rw [hrow] at h
    cases h
  | some cells => exact ⟨cells, rfl⟩

/-- A walk over the peers of an endpoint goes by their keys. -/
theorem flatMap_peers {β : Type} (t : PolicyTable) (owner : EndpointKey)
    (f : EndpointKey × List AppliedPolicy → List β) :
    (t.peers owner).flatMap f = (t.row owner).keys.flatMap fun p => f (p, t.policies owner p) := by
  rw [SortedMap.keys, List.flatMap_map]
  refine List.flatMap_congr fun entry hentry => ?_
  have hcell : t.policies owner entry.1 = entry.2 := policies_of_mem_peers hentry
  rw [hcell]

theorem nodup_keys_peers (t : PolicyTable) (owner : EndpointKey) :
    ((t.peers owner).map (·.1)).Nodup :=
  SortedMap.nodup_keys (t.row owner)

theorem row_insert_self (h : policy ∉ t.policies owner peer) :
    (t.insert owner peer policy).row owner =
      (t.row owner).insert peer (policy.place (t.policies owner peer)) := by
  rw [insert, if_neg h, row, SortedMap.getD, SortedMap.get?_insert_self, Option.getD_some]

/-- A policy that joins a cell leaves the other cells of its row alone. -/
theorem policies_insert_of_ne (t : PolicyTable) (owner : EndpointKey) (policy : AppliedPolicy)
    (h : other ≠ peer) :
    (t.insert owner peer policy).policies owner other = t.policies owner other := by
  by_cases hmem : policy ∈ t.policies owner peer
  · rw [insert, if_pos hmem]
  · rw [policies, row_insert_self hmem, SortedMap.getD, SortedMap.get?_insert_of_ne _ _ h]
    rfl

/-- Every cell after an insertion. -/
theorem policies_insert (t : PolicyTable) (owner peer : EndpointKey)
    (policy : AppliedPolicy) (o p : EndpointKey) :
    (t.insert owner peer policy).policies o p =
      if o = owner ∧ p = peer ∧ policy ∉ t.policies o p then policy.place (t.policies o p)
      else t.policies o p := by
  by_cases ho : o = owner
  · subst ho
    by_cases hp : p = peer
    · subst hp
      rw [policies_insert_self]
      by_cases hmem : policy ∈ t.policies o p <;> simp [hmem]
    · rw [policies_insert_of_ne t o policy hp]
      simp [hp]
  · rw [policies, row_insert_of_ne t peer policy ho]
    simp [ho, policies]

/-- The policies that a cell holds after an insertion are those it held before, and the new one if
it is the cell inserted into. -/
theorem mem_policies_insert {o p : EndpointKey} :
    q ∈ (t.insert owner peer policy).policies o p ↔
      q ∈ t.policies o p ∨ (o = owner ∧ p = peer ∧ q = policy) := by
  by_cases ho : o = owner
  · subst ho
    by_cases hp : p = peer
    · subst hp
      rw [policies_insert_self]
      split
      next hmem =>
        constructor
        · exact .inl
        · rintro (h | ⟨-, -, rfl⟩)
          · exact h
          · exact hmem
      · rw [AppliedPolicy.mem_place]
        simp [or_comm]
    · rw [policies_insert_of_ne t o policy hp]
      simp [hp]
  · rw [policies, row_insert_of_ne t peer policy ho]
    simp [ho, policies]

/-- A walk over the peers of an endpoint still meets everything after an insertion, in the same
order, if it meets more where a cell has more policies. -/
theorem flatMap_peers_sublist_insert {β : Type} {f : EndpointKey × List AppliedPolicy → List β}
    (hf : ∀ p cell cell', List.Sublist cell cell' → (f (p, cell)).Sublist (f (p, cell')))
    (o : EndpointKey) :
    ((t.peers o).flatMap f).Sublist (((t.insert owner peer policy).peers o).flatMap f) := by
  by_cases ho : o = owner
  · subst ho
    by_cases hmem : policy ∈ t.policies o peer
    · rw [insert, if_pos hmem]
    · rw [peers, peers, row_insert_self hmem]
      refine SortedMap.flatMap_sublist_insert fun cell hcell => hf peer _ _ ?_
      have heq : t.policies o peer = cell := by rw [policies, SortedMap.getD, hcell]; rfl
      rw [heq]
      exact policy.sublist_place cell
  · rw [peers, peers, row_insert_of_ne t peer policy ho]

end PolicyTable

end GroupPolicy

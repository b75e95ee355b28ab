import GroupPolicy.Proofs.Policy.Precedence

namespace GroupPolicy

namespace Context

/-- Whether a context differs from another one only in lacking the policies of some rule groups. -/
structure Without (groups : SortedSet RuleGroupKey) (c c' : Context) : Prop where
  endpoints_eq : c'.endpoints = c.endpoints
  subnets_eq : c'.subnets = c.subnets
  ruleGroups_eq : c'.ruleGroups = c.ruleGroups
  policies_eq : ∀ owner peer, c'.table.policies owner peer =
    (c.table.policies owner peer).filter fun policy => !groups.mem policy.group.key

namespace Without

variable {groups : SortedSet RuleGroupKey} {c c' next : Context} {row : PolicyRow}

/-- A row of one of the rule groups only adds to the full context. -/
theorem addPolicy_of_mem (h : Without groups c c') (hc : c.Reachable)
    (hrow : c.addPolicy? row = some next) (hgroup : groups.mem row.ruleGroup = true) :
    Without groups next c' := by
  obtain ⟨group, hfound, rfl⟩ := addPolicy?_eq_some_iff.mp hrow
  refine ⟨h.endpoints_eq, h.subnets_eq, h.ruleGroups_eq, fun owner peer => ?_⟩
  rw [h.policies_eq, PolicyTable.policies_insert]
  split
  · rw [AppliedPolicy.filter_place (hc.isSorted_policies owner peer), key_of_ruleGroup? hfound, hgroup]
    rfl
  · rfl

/-- Any other row adds to both contexts alike. -/
theorem addPolicy_of_not_mem (h : Without groups c c') (hc : c.Reachable)
    (hrow : c.addPolicy? row = some next) (hgroup : groups.mem row.ruleGroup = false) :
    ∃ next', c'.addPolicy? row = some next' ∧ Without groups next next' := by
  obtain ⟨group, hfound, rfl⟩ := addPolicy?_eq_some_iff.mp hrow
  have hfound' : c'.ruleGroup? row.ruleGroup = some group := by
    rw [ruleGroup?, h.ruleGroups_eq]
    exact hfound
  refine ⟨_, addPolicy?_eq_some_iff.mpr ⟨group, hfound', rfl⟩, h.endpoints_eq, h.subnets_eq,
    h.ruleGroups_eq, fun owner peer => ?_⟩
  have hkept : (!groups.mem group.key) = true := by rw [key_of_ruleGroup? hfound, hgroup]; rfl
  -- Being one of the policies that are kept, it is in both cells or in neither.
  have hmem : (⟨row.participation, group⟩ : AppliedPolicy) ∈ c'.table.policies owner peer ↔
      ⟨row.participation, group⟩ ∈ c.table.policies owner peer := by
    rw [h.policies_eq, List.mem_filter]
    exact and_iff_left hkept
  rw [PolicyTable.policies_insert, PolicyTable.policies_insert]
  simp only [hmem]
  split
  · rw [AppliedPolicy.filter_place (hc.isSorted_policies owner peer), if_pos hkept, h.policies_eq]
  · exact h.policies_eq owner peer

theorem addPolicies (h : Without groups c c') (hc : c.Reachable) (rows : List PolicyRow) :
    Without groups (c.addPolicies rows).1
      (c'.addPolicies (rows.filter fun row => !groups.mem row.ruleGroup)).1 := by
  induction rows generalizing c c' with
  | nil => exact h
  | cons row rest ih =>
    have hunknown : c.addPolicy? row = none → c'.addPolicy? row = none := by
      rw [addPolicy?_eq_none_iff, addPolicy?_eq_none_iff, ruleGroup?, ruleGroup?, h.ruleGroups_eq]
      exact id
    cases hgroup : groups.mem row.ruleGroup with
    | true =>
      rw [List.filter_cons_of_neg (by simp [hgroup])]
      cases hrow : c.addPolicy? row with
      | some next =>
        rw [addPolicies_cons_of_some hrow]
        exact ih (h.addPolicy_of_mem hc hrow hgroup) (hc.addPolicy hrow)
      | none =>
        rw [addPolicies_cons_of_none hrow]
        exact ih h hc
    | false =>
      rw [List.filter_cons_of_pos (by simp [hgroup])]
      cases hrow : c.addPolicy? row with
      | some next =>
        obtain ⟨next', hrow', hnext⟩ := h.addPolicy_of_not_mem hc hrow hgroup
        rw [addPolicies_cons_of_some hrow, addPolicies_cons_of_some hrow']
        exact ih hnext (hc.addPolicy hrow)
      | none =>
        rw [addPolicies_cons_of_none hrow, addPolicies_cons_of_none (hunknown hrow)]
        exact ih h hc

end Without

end Context

namespace Snapshot

/-- The snapshot without the rows of some rule groups. -/
def without (s : Snapshot) (groups : SortedSet RuleGroupKey) : Snapshot :=
  { s with policies := s.policies.filter fun row => !groups.mem row.ruleGroup }

theorem table_ground (s : Snapshot) : s.ground.table = ∅ := by
  rw [ground_eq]

theorem reachable_ground (s : Snapshot) : s.ground.Reachable :=
  ({ s with policies := [] } : Snapshot).reachable_context

/-- Leaving out the rows of some rule groups leaves out their policies. -/
theorem context_without (s : Snapshot) (groups : SortedSet RuleGroupKey) :
    Context.Without groups s.context (s.without groups).context := by
  have hground : Context.Without groups s.ground s.ground := by
    refine ⟨rfl, rfl, rfl, fun owner peer => ?_⟩
    rw [table_ground]
    rfl
  exact hground.addPolicies s.reachable_ground s.policies

end Snapshot

end GroupPolicy

import GroupPolicy.Proofs.Ordered.Prefix
import GroupPolicy.Proofs.Policy.Edits

namespace GroupPolicy

namespace Context

/-- Whether all policies are of registered rule groups, and no two of a cell are of one group on one side
of the contract. -/
structure RefersToRegistered (c : Context) : Prop where
  registered : ∀ owner peer, ∀ policy ∈ c.table.policies owner peer,
    c.ruleGroup? policy.group.key = some policy.group
  distinct : ∀ owner peer, (c.table.policies owner peer).Pairwise fun p q =>
    ¬(p.group.key = q.group.key ∧ p.participation = q.participation)

/-- Whether an edit puts no other rule group in the place of one that a policy has. -/
def Edit.KeepsGroups (c : Context) : Edit → Prop
  | .addRuleGroup g => ∀ owner peer, ∀ policy ∈ c.table.policies owner peer,
      policy.group.key = g.key → policy.group = g
  | _ => True

variable {c : Context} {owner peer : EndpointKey} {policy : AppliedPolicy}

/-- Policies of registered groups differ if they are of different groups or on different sides. -/
theorem Reachable.refersToRegistered (h : c.Reachable)
    (hregistered : ∀ owner peer, ∀ policy ∈ c.table.policies owner peer,
      c.ruleGroup? policy.group.key = some policy.group) : c.RefersToRegistered where
  registered := hregistered
  distinct owner peer := by
    refine (h.nodup_policies owner peer).imp_of_mem fun {p q} hp hq hne => ?_
    rintro ⟨hkey, hside⟩
    -- Only one group is registered under the key that they have in common.
    have hfound := hregistered owner peer p hp
    rw [hkey, hregistered owner peer q hq] at hfound
    have hgroup : p.group = q.group := (Option.some.inj hfound).symm
    obtain ⟨side, group⟩ := p
    obtain ⟨side', group'⟩ := q
    obtain rfl : side = side' := hside
    obtain rfl : group = group' := hgroup
    exact hne rfl

theorem ruleGroup?_addRuleGroup_self (c : Context) (g : RuleGroup) :
    (c.addRuleGroup g).ruleGroup? g.key = some g :=
  Registry.get?_file_self c.ruleGroups g

theorem ruleGroup?_addRuleGroup_of_ne (c : Context) {g : RuleGroup} {key : RuleGroupKey} (h : key ≠ g.key) :
    (c.addRuleGroup g).ruleGroup? key = c.ruleGroup? key :=
  Registry.get?_file_of_ne c.ruleGroups h

theorem ruleGroup?_edit_addPolicy (c : Context) (row : PolicyRow) (key : RuleGroupKey) :
    (c.edit (.addPolicy row)).ruleGroup? key = c.ruleGroup? key := by
  rw [edit]
  cases hrow : c.addPolicy? row with
  | none => rw [addPolicy_of_none hrow]
  | some next => rw [addPolicy_of_some hrow, ruleGroup?, (frame_of_addPolicy? hrow).2.2.1, ruleGroup?]

/-- From policies of registered groups, an edit leads to such again exactly if it keeps the groups that
policies have. -/
theorem refersToRegistered_edit_iff (h : c.Reachable) (hc : c.RefersToRegistered) (x : Edit) :
    (c.edit x).RefersToRegistered ↔ x.KeepsGroups c := by
  cases x with
  | setVersion version => exact iff_of_true ⟨hc.registered, hc.distinct⟩ trivial
  | addEndpoint e => exact iff_of_true ⟨hc.registered, hc.distinct⟩ trivial
  | addSubnet s => exact iff_of_true ⟨hc.registered, hc.distinct⟩ trivial
  | addRuleGroup g =>
    constructor
    · intro hnext owner peer policy hpolicy hkey
      have hfound := hnext.registered owner peer policy hpolicy
      rw [hkey, edit, ruleGroup?_addRuleGroup_self] at hfound
      exact (Option.some.inj hfound).symm
    · intro hkeeps
      refine ⟨fun owner peer policy hpolicy => ?_, hc.distinct⟩
      by_cases hkey : policy.group.key = g.key
      · rw [hkeeps owner peer policy hpolicy hkey]
        exact ruleGroup?_addRuleGroup_self c g
      · rw [edit, ruleGroup?_addRuleGroup_of_ne c hkey]
        exact hc.registered owner peer policy hpolicy
  | addPolicy row =>
    refine iff_of_true ((h.edit _).refersToRegistered fun owner peer policy hpolicy => ?_) trivial
    rw [ruleGroup?_edit_addPolicy]
    rcases mem_policies_edit.mp hpolicy with hold | ⟨key, -, hgroup⟩
    · exact hc.registered owner peer policy hold
    · rwa [key_of_ruleGroup? hgroup]

/-- The policies of a cell are those of the rows that have been added, each of the rule group that was
registered under the key of the row at the time. -/
theorem mem_policies_run (version : UInt64) (edits : List Edit) :
    policy ∈ (run { version } edits).table.policies owner peer ↔
      ∃ done key, done ++ [.addPolicy ⟨owner, peer, key, policy.participation⟩] <+: edits ∧
        (run { version } done).ruleGroup? key = some policy.group := by
  induction edits using List.reverseRecOn with
  | nil =>
    refine iff_of_false (List.not_mem_nil) ?_
    rintro ⟨done, key, hdone, -⟩
    exact absurd (List.prefix_nil.mp hdone) (by simp)
  | append_singleton edits x ih =>
    rw [run_concat, mem_policies_edit, ih]
    simp only [concat_prefix_concat_iff, or_and_right, exists_or]
    refine or_congr_right ⟨?_, ?_⟩
    · rintro ⟨key, rfl, hgroup⟩
      exact ⟨edits, key, ⟨rfl, rfl⟩, hgroup⟩
    · rintro ⟨done, key, ⟨rfl, rfl⟩, hgroup⟩
      exact ⟨key, rfl, hgroup⟩

end Context

/-- A cell holds the policies of the rows that have been added to it, each with the rule group that was
registered under the key of the row at the time. Throughout a sequence of edits all policies are of the
groups that are registered then, no two of a cell of one group on one side, exactly if no edit puts
another group in the place of one that a policy has. -/
theorem registered_groups_iff (version : UInt64) (edits : List Context.Edit) :
    let state := Context.run { version }
    (∀ owner peer policy, policy ∈ (state edits).table.policies owner peer ↔
      ∃ done key, done ++ [.addPolicy ⟨owner, peer, key, policy.participation⟩] <+: edits ∧
        (state done).ruleGroup? key = some policy.group) ∧
    ((∀ done, done <+: edits → (state done).RefersToRegistered) ↔
      ∀ done x, done ++ [x] <+: edits → x.KeepsGroups (state done)) := by
  refine ⟨fun owner peer policy => Context.mem_policies_run version edits, ?_⟩
  have hblank : Context.RefersToRegistered { version } :=
    ⟨fun owner peer policy hpolicy => (nomatch hpolicy), fun owner peer => List.Pairwise.nil⟩
  have hstep (c : Context) (x : Context.Edit) (hc : c.Reachable ∧ c.RefersToRegistered) :
      ((c.edit x).Reachable ∧ (c.edit x).RefersToRegistered) ↔ x.KeepsGroups c :=
    (and_iff_right (hc.1.edit x)).trans (Context.refersToRegistered_edit_iff hc.1 hc.2 x)
  refine Iff.trans ?_ (forall_prefix_foldl_iff hstep ⟨.blank version, hblank⟩ edits)
  exact forall₂_congr fun done _ => (and_iff_right ((Context.Reachable.blank version).run done)).symm

/-- Where a rule group is registered anew between two rows that are alike, the policy of the first row is
still of the group as it was, and both policies are of one group on one side. -/
theorem not_registered_every_run :
    (¬∀ (version : UInt64) (edits : List Context.Edit) (owner peer : EndpointKey),
      ∀ policy ∈ (Context.run { version } edits).table.policies owner peer,
        (Context.run { version } edits).ruleGroup? policy.group.key = some policy.group) ∧
    ¬∀ (version : UInt64) (edits : List Context.Edit) (owner peer : EndpointKey),
      ((Context.run { version } edits).table.policies owner peer).Pairwise fun p q =>
        ¬(p.group.key = q.group.key ∧ p.participation = q.participation) := by
  constructor
  · intro hregistered
    have hstale := hregistered 1 Sample.registeredAnew Sample.admission.owner Sample.admission.peer
      ⟨.provider, Sample.group "http" 80⟩ (by decide +kernel)
    revert hstale
    decide +kernel
  · intro hdistinct
    have hdouble := hdistinct 1 Sample.registeredAnew Sample.admission.owner Sample.admission.peer
    revert hdouble
    decide +kernel

end GroupPolicy

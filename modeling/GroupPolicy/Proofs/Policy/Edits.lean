import GroupPolicy.Proofs.Policy.Precedence
import GroupPolicy.Proofs.Policy.Sample

namespace GroupPolicy

namespace Context

/-- What can be done to a context. -/
inductive Edit where
  | setVersion (version : UInt64)
  | addEndpoint (e : Endpoint)
  | addSubnet (s : ForwardingSubnet)
  | addRuleGroup (g : RuleGroup)
  | addPolicy (row : PolicyRow)

/-- The context after an edit. -/
def edit (c : Context) : Edit → Context
  | .setVersion version => c.withVersion version
  | .addEndpoint e => c.addEndpoint e
  | .addSubnet s => c.addSubnet s
  | .addRuleGroup g => c.addRuleGroup g
  | .addPolicy row => (c.addPolicy row).1

/-- The context after a sequence of edits. -/
def run (c : Context) (edits : List Edit) : Context := edits.foldl edit c

variable {c : Context} {owner peer : EndpointKey} {policy : AppliedPolicy}

theorem run_concat (c : Context) (edits : List Edit) (x : Edit) :
    c.run (edits ++ [x]) = (c.run edits).edit x := by
  simp [run, List.foldl_append]

theorem Reachable.edit (h : c.Reachable) (x : Edit) : (c.edit x).Reachable := by
  cases x with
  | setVersion version => exact h.withVersion version
  | addEndpoint e => exact h.addEndpoint e
  | addSubnet s => exact h.addSubnet s
  | addRuleGroup g => exact h.addRuleGroup g
  | addPolicy row => exact h.addPolicies [row]

theorem Reachable.run (h : c.Reachable) (edits : List Edit) : (c.run edits).Reachable :=
  List.foldlRecOn edits _ h fun _ hc x _ => hc.edit x

/-- An edit adds a policy to the table only by a row, and then that of the rule group that is registered
under the key of the row. -/
theorem mem_policies_edit {x : Edit} :
    policy ∈ (c.edit x).table.policies owner peer ↔ policy ∈ c.table.policies owner peer ∨
      ∃ key, x = .addPolicy ⟨owner, peer, key, policy.participation⟩ ∧
        c.ruleGroup? key = some policy.group := by
  cases x with
  | addPolicy row =>
    obtain ⟨o, p, key, participation⟩ := row
    cases hrow : c.addPolicy? ⟨o, p, key, participation⟩ with
    | none =>
      rw [edit, addPolicy_of_none hrow]
      refine ⟨.inl, fun h => h.resolve_right ?_⟩
      rintro ⟨key', heq, hgroup⟩
      cases heq
      rw [addPolicy?_eq_none_iff.mp hrow] at hgroup
      cases hgroup
    | some next =>
      rw [edit, addPolicy_of_some hrow]
      obtain ⟨group, hgroup, rfl⟩ := addPolicy?_eq_some_iff.mp hrow
      rw [PolicyTable.mem_policies_insert]
      refine or_congr_right ⟨?_, ?_⟩
      · rintro ⟨rfl, rfl, rfl⟩
        exact ⟨key, rfl, hgroup⟩
      · rintro ⟨key', heq, hgroup'⟩
        cases heq
        obtain rfl : group = policy.group := Option.some.inj (hgroup.symm.trans hgroup')
        exact ⟨rfl, rfl, rfl⟩
  | _ =>
    refine ⟨.inl, fun h => h.resolve_right ?_⟩
    rintro ⟨key, heq, -⟩
    cases heq

end Context

/-- The row by which the server lets the client in. -/
def Sample.admission : PolicyRow := row "10.0.0.1" "10.0.0.9" "http" .provider

/-- A rule group is registered anew between two rows that are alike. -/
def Sample.registeredAnew : List Context.Edit :=
  [.addRuleGroup (group "http" 80), .addPolicy admission, .addRuleGroup (group "http" 8080),
    .addPolicy admission]

end GroupPolicy

import GroupPolicy.Proofs.Policy.Index
import GroupPolicy.Proofs.Policy.Registration
import GroupPolicy.Proofs.Policy.Restriction

namespace GroupPolicy

/-- Policies that take the same place are of one group on one side of the contract. -/
theorem AppliedPolicy.precedence_eq_eq {p q : AppliedPolicy} (h : p.precedence q = .eq) :
    p.group.key = q.group.key ∧ p.participation = q.participation := by
  rw [precedence, Ordering.then_eq_eq, RuleGroup.precedence, compareLex_eq_eq] at h
  obtain ⟨⟨-, hkey⟩, hside⟩ := h
  exact ⟨Std.LawfulEqOrd.eq_of_compare hkey, Std.LawfulEqOrd.eq_of_compare hside⟩

namespace Context

variable {c : Context} {owner peer : EndpointKey} {policy : AppliedPolicy}

/-- In a cell of registered groups each policy comes before those behind it. -/
theorem RefersToRegistered.ascending_policies (hc : c.RefersToRegistered) (h : c.Reachable)
    (owner peer : EndpointKey) :
    (c.table.policies owner peer).Pairwise fun p q => p.precedence q = .lt := by
  refine ((h.isSorted_policies owner peer).and (hc.distinct owner peer)).imp fun {p q} ⟨hle, hne⟩ => ?_
  cases hpq : p.precedence q with
  | lt => rfl
  | eq => exact absurd (AppliedPolicy.precedence_eq_eq hpq) hne
  | gt => exact absurd hpq hle

/-- What rows add to the table, each by itself. -/
theorem mem_policies_addPolicies {rows : List PolicyRow} :
    policy ∈ (c.addPolicies rows).1.table.policies owner peer ↔
      policy ∈ c.table.policies owner peer ∨
        ∃ key, ⟨owner, peer, key, policy.participation⟩ ∈ rows ∧ c.ruleGroup? key = some policy.group := by
  induction rows generalizing c with
  | nil => simp [addPolicies]
  | cons row rest ih =>
    have hfirst : (c.addPolicies [row]).1 = c.edit (.addPolicy row) := rfl
    rw [addPolicies_cons, hfirst, ih, mem_policies_edit]
    simp only [ruleGroup?_edit_addPolicy, Edit.addPolicy.injEq, List.mem_cons, or_and_right, exists_or,
      or_assoc, eq_comm (a := row)]

/-- The rows that are skipped are those of unknown rule groups. -/
theorem skipped_addPolicies (c : Context) (rows : List PolicyRow) :
    (c.addPolicies rows).2 = rows.filter fun row => (c.ruleGroup? row.ruleGroup).isNone := by
  induction rows generalizing c with
  | nil => rfl
  | cons row rest ih =>
    cases hrow : c.addPolicy? row with
    | some next =>
      rw [addPolicies_cons_of_some hrow]
      obtain ⟨group, hgroup, rfl⟩ := addPolicy?_eq_some_iff.mp hrow
      rw [List.filter_cons_of_neg (by simp [hgroup])]
      exact ih _
    | none =>
      rw [addPolicies_cons_of_none hrow]
      have hgroup : (c.ruleGroup? row.ruleGroup).isNone = true :=
        Option.isNone_iff_eq_none.mpr (addPolicy?_eq_none_iff.mp hrow)
      rw [List.filter_cons, if_pos hgroup]
      exact congrArg (row :: ·) (ih c)

end Context

namespace Snapshot

variable {s s' : Snapshot} {owner peer : EndpointKey} {policy : AppliedPolicy}

/-- What the context of a snapshot knows is what the snapshot lists. -/
theorem known_context (s : Snapshot) : s.context.version = s.version ∧
    s.context.endpoints = s.endpoints.foldl Registry.file ∅ ∧ s.context.subnets = s.subnets ∧
    s.context.ruleGroups = s.ruleGroups.foldl Registry.file ∅ := by
  rw [context, Context.frame_addPolicies, ground_eq]
  exact ⟨rfl, rfl, rfl, rfl⟩

theorem endpoint?_context (s : Snapshot) (k : EndpointKey) :
    s.context.endpoint? k = (s.endpoints.filter fun e => e.key = k).getLast? := by
  rw [Context.endpoint?, s.known_context.2.1, Registry.get?_foldl_file, Registry.get?_empty, Option.or_none]

theorem ruleGroup?_context (s : Snapshot) (k : RuleGroupKey) :
    s.context.ruleGroup? k = (s.ruleGroups.filter fun g => g.key = k).getLast? := by
  rw [Context.ruleGroup?, s.known_context.2.2.2, Registry.get?_foldl_file, Registry.get?_empty,
    Option.or_none]

theorem ruleGroup?_ground (s : Snapshot) (k : RuleGroupKey) :
    s.ground.ruleGroup? k = s.context.ruleGroup? k := by
  rw [Context.ruleGroup?, Context.ruleGroup?, s.known_context.2.2.2, ground_eq]

theorem isSome_ruleGroup?_context (s : Snapshot) (k : RuleGroupKey) :
    (s.context.ruleGroup? k).isSome ↔ k ∈ s.ruleGroups.map RuleGroup.key := by
  rw [ruleGroup?_context, Option.isSome_iff_ne_none, ne_eq, List.getLast?_eq_none_iff,
    List.filter_eq_nil_iff, List.mem_map]
  simp only [decide_eq_true_iff, not_forall, not_not, exists_prop]

/-- The policies of a cell are those of the rows that name it, each of the registered group. -/
theorem mem_policies_context : policy ∈ s.context.table.policies owner peer ↔
    ⟨owner, peer, policy.group.key, policy.participation⟩ ∈ s.policies ∧
      s.context.ruleGroup? policy.group.key = some policy.group := by
  have hblank : policy ∉ s.ground.table.policies owner peer := by
    rw [table_ground]
    exact List.not_mem_nil
  -- Every row finds the groups of the whole context, since no row changes them.
  have hrows : policy ∈ s.context.table.policies owner peer ↔
      ∃ key, ⟨owner, peer, key, policy.participation⟩ ∈ s.policies ∧
        s.context.ruleGroup? key = some policy.group := by
    simp only [← ruleGroup?_ground]
    exact Context.mem_policies_addPolicies.trans (or_iff_right hblank)
  rw [hrows]
  constructor
  · rintro ⟨key, hrow, hgroup⟩
    obtain rfl := Context.key_of_ruleGroup? hgroup
    exact ⟨hrow, hgroup⟩
  · rintro ⟨hrow, hgroup⟩
    exact ⟨policy.group.key, hrow, hgroup⟩

/-- A row puts a policy into its cell exactly if its rule group is defined. -/
theorem exists_policy_context_iff (s : Snapshot) (owner peer : EndpointKey) (key : RuleGroupKey)
    (side : Participation) :
    (∃ policy ∈ s.context.table.policies owner peer,
      policy.group.key = key ∧ policy.participation = side) ↔
      ⟨owner, peer, key, side⟩ ∈ s.policies ∧ key ∈ s.ruleGroups.map RuleGroup.key := by
  rw [← isSome_ruleGroup?_context]
  constructor
  · rintro ⟨policy, hpolicy, rfl, rfl⟩
    obtain ⟨hrow, hgroup⟩ := mem_policies_context.mp hpolicy
    exact ⟨hrow, Option.isSome_of_eq_some hgroup⟩
  · rintro ⟨hrow, hdefined⟩
    obtain ⟨group, hgroup⟩ := Option.isSome_iff_exists.mp hdefined
    obtain rfl := Context.key_of_ruleGroup? hgroup
    exact ⟨⟨side, group⟩, mem_policies_context.mpr ⟨hrow, hgroup⟩, rfl, rfl⟩

theorem refersToRegistered_context (s : Snapshot) : s.context.RefersToRegistered :=
  s.reachable_context.refersToRegistered fun _ _ _ hpolicy => (mem_policies_context.mp hpolicy).2

theorem ascending_policies_context (s : Snapshot) (owner peer : EndpointKey) :
    (s.context.table.policies owner peer).Pairwise fun p q => p.precedence q = .lt :=
  s.refersToRegistered_context.ascending_policies s.reachable_context owner peer

theorem skipped_eq (s : Snapshot) :
    s.skipped = s.policies.filter fun row => row.ruleGroup ∉ s.ruleGroups.map RuleGroup.key := by
  rw [skipped, Context.skipped_addPolicies]
  refine List.filter_congr fun row _ => ?_
  rw [ruleGroup?_ground, Bool.eq_iff_iff, decide_eq_true_iff, ← isSome_ruleGroup?_context]
  simp

/-- Snapshots describe the same context if they come to know the same and have the same rows, apart from
those of unknown rule groups. -/
theorem context_congr (hversion : s'.version = s.version) (hsubnets : s'.subnets = s.subnets)
    (hendpoints : s'.endpoints.foldl Registry.file (∅ : Registry Endpoint.key) =
      s.endpoints.foldl Registry.file ∅)
    (hgroups : s'.ruleGroups.foldl Registry.file (∅ : Registry RuleGroup.key) =
      s.ruleGroups.foldl Registry.file ∅)
    (hrows : ∀ row, (s.context.ruleGroup? row.ruleGroup).isSome → (row ∈ s'.policies ↔ row ∈ s.policies)) :
    s'.context = s.context := by
  obtain ⟨hv, he, hn, hg⟩ := s.known_context
  obtain ⟨hv', he', hn', hg'⟩ := s'.known_context
  have hregistered : s'.context.ruleGroups = s.context.ruleGroups := by rw [hg', hgroups, hg]
  have hfound (k : RuleGroupKey) : s'.context.ruleGroup? k = s.context.ruleGroup? k :=
    congrArg (Registry.get? · k) hregistered
  refine s'.reachable_context.ext s.reachable_context (by rw [hv', hversion, hv])
    (by rw [he', hendpoints, he]) (by rw [hn', hsubnets, hn]) hregistered fun owner peer => ?_
  -- Cells are lists, so it takes their order to tell that they are equal from what they hold.
  refine eq_of_ascending (s'.ascending_policies_context owner peer) (s.ascending_policies_context owner peer)
    fun policy => ?_
  rw [mem_policies_context, mem_policies_context, hfound]
  refine and_congr_left fun hgroup => hrows _ ?_
  rw [hgroup, Option.isSome_some]

/-- Whether a list is another one in an order that leaves the last element of each key as it is, because
the order is the same or because no two elements have the same key. -/
def IsReordering {κ ν : Type} (key : ν → κ) (l l' : List ν) : Prop :=
  l' = l ∨ (l.map key).Nodup ∧ l'.Perm l

/-- Whether a snapshot is another one with its rows in any order, and with its endpoints and its rule groups
in any order if their keys differ. -/
structure Reorders (s s' : Snapshot) : Prop where
  version_eq : s'.version = s.version
  subnets_eq : s'.subnets = s.subnets
  endpoints : IsReordering Endpoint.key s.endpoints s'.endpoints
  ruleGroups : IsReordering RuleGroup.key s.ruleGroups s'.ruleGroups
  policies : s'.policies.Perm s.policies

theorem IsReordering.foldl_file {κ ν : Type} [Ord κ] [Std.TransOrd κ] [Std.LawfulEqOrd κ] [DecidableEq κ]
    {key : ν → κ} {l l' : List ν} (h : IsReordering key l l') (r : Registry key) :
    l'.foldl Registry.file r = l.foldl Registry.file r := by
  rcases h with rfl | ⟨hkeys, hperm⟩
  · rfl
  · exact Registry.foldl_file_eq_of_perm hperm hkeys r

theorem Reorders.context_eq (h : s.Reorders s') : s'.context = s.context :=
  context_congr h.version_eq h.subnets_eq (h.endpoints.foldl_file ∅) (h.ruleGroups.foldl_file ∅)
    fun _ _ => h.policies.mem_iff

/-- The snapshot without the rows of rule groups that it does not define. -/
def definedOnly (s : Snapshot) : Snapshot :=
  { s with policies := s.policies.filter fun row => row.ruleGroup ∈ s.ruleGroups.map RuleGroup.key }

theorem context_definedOnly (s : Snapshot) : s.definedOnly.context = s.context :=
  context_congr rfl rfl rfl rfl fun row hgroup => by
    rw [isSome_ruleGroup?_context] at hgroup
    rw [definedOnly, List.mem_filter, decide_eq_true_iff, and_iff_left hgroup]

end Snapshot

/-- The context of a snapshot does not depend on the order of its rows, nor on that of endpoints and of rule
groups with different keys; of those with one key the last one is known. A cell holds a policy of a group
on a side of the contract exactly if a row says so and the group is defined; the group is the registered
one, and each policy comes before those behind it by order, key and side. The rows that are skipped are
those of groups that are not defined, in turn, and they do nothing else. -/
theorem document_order_immaterial (s : Snapshot) :
    (∀ s', s.Reorders s' → s'.context = s.context) ∧
    (∀ k, s.context.endpoint? k = (s.endpoints.filter fun e => e.key = k).getLast?) ∧
    (∀ k, s.context.ruleGroup? k = (s.ruleGroups.filter fun g => g.key = k).getLast?) ∧
    (∀ owner peer, let cell := s.context.table.policies owner peer
      (∀ key side, (∃ policy ∈ cell, policy.group.key = key ∧ policy.participation = side) ↔
        ⟨owner, peer, key, side⟩ ∈ s.policies ∧ key ∈ s.ruleGroups.map RuleGroup.key) ∧
      (∀ policy ∈ cell, s.context.ruleGroup? policy.group.key = some policy.group) ∧
      cell.Pairwise (fun p q => p.precedence q = .lt) ∧ cell.Nodup) ∧
    (∀ owner, ∀ entry ∈ s.context.table.peers owner, entry.2 ≠ []) ∧
    (s.skipped = s.policies.filter fun row => row.ruleGroup ∉ s.ruleGroups.map RuleGroup.key) ∧
    s.definedOnly.context = s.context := by
  refine ⟨fun s' h => h.context_eq, s.endpoint?_context, s.ruleGroup?_context, fun owner peer => ?_,
    fun owner entry hentry => s.reachable_context.isTight_table.ne_nil_of_mem_peers hentry,
    s.skipped_eq, s.context_definedOnly⟩
  exact ⟨fun key side => s.exists_policy_context_iff owner peer key side,
    fun policy hpolicy => (Snapshot.mem_policies_context.mp hpolicy).2,
    s.ascending_policies_context owner peer, s.reachable_context.nodup_policies owner peer⟩

/-- Rows of both sides, of one rule group twice, and of a rule group that is not defined. -/
def Sample.mixed : Snapshot :=
  snapshot [subnet] [row "10.0.0.1" "10.0.0.9" "ssh" .provider, row "10.0.0.1" "10.0.0.9" "http" .consumer,
    row "10.0.0.1" "10.0.0.9" "dns" .provider, row "10.0.0.1" "10.0.0.9" "http" .provider,
    row "10.0.0.1" "10.0.0.9" "ssh" .provider]

/-- The same from the last to the first. -/
def Sample.mixedReversed : Snapshot :=
  { mixed with
    endpoints := mixed.endpoints.reverse
    ruleGroups := mixed.ruleGroups.reverse
    policies := mixed.policies.reverse }

theorem document_order_immaterial_reversed :
    let cell := Sample.mixed.context.table.policies (Sample.key "10.0.0.1") (Sample.key "10.0.0.9")
    Sample.mixed.Reorders Sample.mixedReversed ∧ Sample.mixedReversed ≠ Sample.mixed ∧
      Sample.mixedReversed.context = Sample.mixed.context ∧
      cell = [⟨.provider, Sample.group "http" 80⟩, ⟨.consumer, Sample.group "http" 80⟩,
        ⟨.provider, Sample.group "ssh" 22⟩] ∧
      Sample.mixed.skipped = [Sample.row "10.0.0.1" "10.0.0.9" "dns" .provider] := by
  have hreorders : Sample.mixed.Reorders Sample.mixedReversed := {
    version_eq := rfl
    subnets_eq := rfl
    endpoints := .inr ⟨by decide +kernel, List.reverse_perm _⟩
    ruleGroups := .inr ⟨by decide +kernel, List.reverse_perm _⟩
    policies := List.reverse_perm _ }
  exact ⟨hreorders, by decide +kernel, (document_order_immaterial Sample.mixed).1 _ hreorders,
    by decide +kernel, by decide +kernel⟩

end GroupPolicy

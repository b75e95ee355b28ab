import GroupPolicy.Policy.Context
import GroupPolicy.Proofs.Policy.Table

namespace GroupPolicy

namespace Context

/-- The contexts that can be put together, step by step, from one that knows nothing. A row of an
unknown rule group makes no step, since it leaves the context as it is. -/
inductive Reachable : Context → Prop where
  | blank (version : UInt64) : Reachable { version }
  | withVersion {c : Context} (h : Reachable c) (version : UInt64) : Reachable (c.withVersion version)
  | addEndpoint {c : Context} (h : Reachable c) (e : Endpoint) : Reachable (c.addEndpoint e)
  | addSubnet {c : Context} (h : Reachable c) (s : ForwardingSubnet) : Reachable (c.addSubnet s)
  | addRuleGroup {c : Context} (h : Reachable c) (g : RuleGroup) : Reachable (c.addRuleGroup g)
  | addPolicy {c c' : Context} {row : PolicyRow} (h : Reachable c) (hrow : c.addPolicy? row = some c') :
      Reachable c'

/-- The contexts that one grows into when rows of some rule groups are added to it, and when it is
put at other versions. -/
inductive GrownBy (groups : SortedSet RuleGroupKey) (c : Context) : Context → Prop where
  | refl : GrownBy groups c c
  | withVersion {c' : Context} (h : GrownBy groups c c') (version : UInt64) :
      GrownBy groups c (c'.withVersion version)
  | addPolicy {c' c'' : Context} {row : PolicyRow} (h : GrownBy groups c c')
      (hgroup : groups.mem row.ruleGroup = true) (hrow : c'.addPolicy? row = some c'') :
      GrownBy groups c c''

variable {c c' : Context} {row : PolicyRow} {groups : SortedSet RuleGroupKey}

/-- A row that is taken adds one policy to the table and its owner to the members of the group. -/
theorem addPolicy?_eq_some_iff :
    c.addPolicy? row = some c' ↔ ∃ group, c.ruleGroup? row.ruleGroup = some group ∧
      c' = { c with
        members := c.members.insert row.ruleGroup ((c.members.getD row.ruleGroup ∅).add row.owner)
        table := c.table.insert row.owner row.peer ⟨row.participation, group⟩ } := by
  rw [addPolicy?, addPolicy, ruleGroup?]
  cases c.ruleGroups.get? row.ruleGroup with
  | none => simp
  | some group => simp [eq_comm]

theorem addPolicy?_eq_none_iff : c.addPolicy? row = none ↔ c.ruleGroup? row.ruleGroup = none := by
  rw [addPolicy?, addPolicy, ruleGroup?]
  cases c.ruleGroups.get? row.ruleGroup with
  | none => simp
  | some group => simp

theorem addPolicy_of_some (hrow : c.addPolicy? row = some c') : c.addPolicy row = (c', true) := by
  obtain ⟨group, hgroup, rfl⟩ := addPolicy?_eq_some_iff.mp hrow
  rw [ruleGroup?] at hgroup
  rw [addPolicy, hgroup]

/-- A row that is not taken leaves no trace. -/
theorem addPolicy_of_none (hrow : c.addPolicy? row = none) : c.addPolicy row = (c, false) := by
  rw [addPolicy?_eq_none_iff, ruleGroup?] at hrow
  rw [addPolicy, hrow]

theorem key_of_ruleGroup? {k : RuleGroupKey} {group : RuleGroup} (h : c.ruleGroup? k = some group) :
    group.key = k :=
  Registry.key_of_get? h

theorem key_of_endpoint? {k : EndpointKey} {e : Endpoint} (h : c.endpoint? k = some e) : e.key = k :=
  Registry.key_of_get? h

theorem addPolicy_snd_eq_false_iff : (c.addPolicy row).2 = false ↔ c.ruleGroup? row.ruleGroup = none := by
  rw [← addPolicy?_eq_none_iff]
  cases hrow : c.addPolicy? row with
  | some next => simp [addPolicy_of_some hrow]
  | none => simp [addPolicy_of_none hrow]

theorem addPolicies_append (c : Context) (rows rows' : List PolicyRow) :
    (c.addPolicies (rows ++ rows')).1 = ((c.addPolicies rows).1.addPolicies rows').1 := by
  induction rows generalizing c with
  | nil => rfl
  | cons row rest ih =>
    exact ih (c.addPolicy row).1

theorem addPolicies_cons (c : Context) (row : PolicyRow) (rows : List PolicyRow) :
    (c.addPolicies (row :: rows)).1 = ((c.addPolicies [row]).1.addPolicies rows).1 :=
  rfl

theorem addPolicies_cons_of_some (hrow : c.addPolicy? row = some c') (rows : List PolicyRow) :
    c.addPolicies (row :: rows) = c'.addPolicies rows := by
  rw [addPolicies, addPolicy_of_some hrow]
  rfl

theorem addPolicies_cons_of_none (hrow : c.addPolicy? row = none) (rows : List PolicyRow) :
    c.addPolicies (row :: rows) = ((c.addPolicies rows).1, row :: (c.addPolicies rows).2) := by
  rw [addPolicies, addPolicy_of_none hrow]
  rfl

theorem addPolicies_of_some (hrow : c.addPolicy? row = some c') :
    (c.addPolicies [row]).1 = c' := by
  rw [addPolicies_cons_of_some hrow]
  rfl

theorem addPolicies_of_none (hrow : c.addPolicy? row = none) :
    (c.addPolicies [row]).1 = c := by
  rw [addPolicies_cons_of_none hrow]
  rfl

/-- What holds of a context, and still holds after every row that is taken, holds after all rows. -/
theorem addPolicies_induction {motive : Context → Prop} {rows : List PolicyRow} (start : motive c)
    (step : ∀ c c' row, row ∈ rows → motive c → c.addPolicy? row = some c' → motive c') :
    motive (c.addPolicies rows).1 := by
  induction rows generalizing c with
  | nil => exact start
  | cons row rest ih =>
    have hrest : ∀ c c' r, r ∈ rest → motive c → c.addPolicy? r = some c' → motive c' :=
      fun c c' r hr => step c c' r (List.mem_cons_of_mem row hr)
    cases hrow : c.addPolicy? row with
    | some next =>
      rw [addPolicies_cons_of_some hrow]
      exact ih (step c next row List.mem_cons_self start hrow) hrest
    | none =>
      rw [addPolicies_cons_of_none hrow]
      exact ih start hrest

/-- A row that is taken changes neither the endpoints, the subnets nor the rule groups, and no row of
the table but that of its owner. -/
theorem frame_of_addPolicy? (hrow : c.addPolicy? row = some c') :
    c'.endpoints = c.endpoints ∧ c'.subnets = c.subnets ∧ c'.ruleGroups = c.ruleGroups ∧
      ∀ o, o ≠ row.owner → c'.table.row o = c.table.row o := by
  obtain ⟨group, -, rfl⟩ := addPolicy?_eq_some_iff.mp hrow
  exact ⟨rfl, rfl, rfl, fun o ho => PolicyTable.row_insert_of_ne _ _ _ ho⟩

/-- Rows change only the table and the members of rule groups. -/
theorem frame_addPolicies (c : Context) (rows : List PolicyRow) :
    (c.addPolicies rows).1 = { c with
      table := (c.addPolicies rows).1.table
      members := (c.addPolicies rows).1.members } := by
  refine addPolicies_induction (motive := fun c' => c' = { c with
    table := c'.table
    members := c'.members }) rfl fun c₁ c₂ row _ hframe hrow => ?_
  obtain ⟨group, -, rfl⟩ := addPolicy?_eq_some_iff.mp hrow
  rw [hframe]

/-- Once in the members of a group, an endpoint stays there when a row is added, and so does the
owner of the row. -/
theorem mem_membersOf_addPolicy {owner : EndpointKey} {g : RuleGroupKey}
    (hrow : c.addPolicy? row = some c') :
    owner ∈ c'.membersOf g ↔ owner ∈ c.membersOf g ∨ (owner = row.owner ∧ g = row.ruleGroup) := by
  obtain ⟨group, -, rfl⟩ := addPolicy?_eq_some_iff.mp hrow
  simp only [membersOf]
  by_cases hg : g = row.ruleGroup
  · subst hg
    rw [SortedMap.getD, SortedMap.get?_insert_self, Option.getD_some, SortedSet.mem_members_add]
    simp [or_comm]
  · rw [SortedMap.getD, SortedMap.get?_insert_of_ne _ _ hg]
    simp [hg, SortedMap.getD]

namespace Reachable

/-- What holds of the table without policies, and is kept by insertions, holds of the table. -/
theorem table_of_insert {P : PolicyTable → Prop} (h : c.Reachable) (hempty : P ∅)
    (hinsert : ∀ t owner peer policy, P t → P (t.insert owner peer policy)) : P c.table := by
  induction h with
  | blank version => exact hempty
  | withVersion _ version ih => exact ih
  | addEndpoint _ e ih => exact ih
  | addSubnet _ s ih => exact ih
  | addRuleGroup _ g ih => exact ih
  | addPolicy _ hrow ih =>
    obtain ⟨group, -, rfl⟩ := addPolicy?_eq_some_iff.mp hrow
    exact hinsert _ _ _ _ ih

/-- No policy stands twice in a cell. -/
theorem nodup_policies (h : c.Reachable) (owner peer : EndpointKey) :
    (c.table.policies owner peer).Nodup := by
  refine h.table_of_insert (P := fun t => (t.policies owner peer).Nodup) List.nodup_nil
    fun t o p policy ht => ?_
  rw [PolicyTable.policies_insert]
  split
  next hnew => exact (policy.place_perm _).nodup_iff.mpr (ht.cons hnew.2.2)
  · exact ht

/-- The members of a rule group include every endpoint that has a policy of the group. -/
theorem mem_membersOf (h : c.Reachable) {owner peer : EndpointKey} {policy : AppliedPolicy}
    (hpolicy : policy ∈ c.table.policies owner peer) : owner ∈ c.membersOf policy.group.key := by
  induction h with
  | blank version => cases hpolicy
  | withVersion _ version ih => exact ih hpolicy
  | addEndpoint _ e ih => exact ih hpolicy
  | addSubnet _ s ih => exact ih hpolicy
  | addRuleGroup _ g ih => exact ih hpolicy
  | @addPolicy c c' row _ hrow ih =>
    rw [mem_membersOf_addPolicy hrow]
    obtain ⟨group, hgroup, rfl⟩ := addPolicy?_eq_some_iff.mp hrow
    rcases PolicyTable.mem_policies_insert.mp hpolicy with hold | ⟨rfl, rfl, rfl⟩
    · exact .inl (ih hold)
    · exact .inr ⟨rfl, key_of_ruleGroup? hgroup⟩

theorem addPolicies (h : c.Reachable) (rows : List PolicyRow) : (c.addPolicies rows).1.Reachable :=
  addPolicies_induction h fun _ _ _ _ hc hrow => hc.addPolicy hrow

end Reachable

namespace GrownBy

theorem reachable (h : GrownBy groups c c') (hc : c.Reachable) : c'.Reachable := by
  induction h with
  | refl => exact hc
  | withVersion _ version ih => exact ih.withVersion version
  | addPolicy _ _ hrow ih => exact ih.addPolicy hrow

theorem endpoints_eq (h : GrownBy groups c c') : c'.endpoints = c.endpoints := by
  induction h with
  | refl => rfl
  | withVersion _ version ih => exact ih
  | addPolicy _ _ hrow ih =>
    obtain ⟨group, -, rfl⟩ := addPolicy?_eq_some_iff.mp hrow
    exact ih

theorem subnets_eq (h : GrownBy groups c c') : c'.subnets = c.subnets := by
  induction h with
  | refl => rfl
  | withVersion _ version ih => exact ih
  | addPolicy _ _ hrow ih =>
    obtain ⟨group, -, rfl⟩ := addPolicy?_eq_some_iff.mp hrow
    exact ih

/-- Every policy is either one from before or one of the groups that the context has grown by. -/
theorem mem_policies (h : GrownBy groups c c') {owner peer : EndpointKey} {policy : AppliedPolicy}
    (hpolicy : policy ∈ c'.table.policies owner peer) :
    policy ∈ c.table.policies owner peer ∨ groups.mem policy.group.key = true := by
  induction h with
  | refl => exact .inl hpolicy
  | withVersion _ version ih => exact ih hpolicy
  | addPolicy _ hgroup hrow ih =>
    obtain ⟨group, hfound, rfl⟩ := addPolicy?_eq_some_iff.mp hrow
    rcases PolicyTable.mem_policies_insert.mp hpolicy with hold | ⟨-, -, rfl⟩
    · exact ih hold
    · exact .inr (key_of_ruleGroup? hfound ▸ hgroup)

theorem addPolicies (h : GrownBy groups c c') (rows : List PolicyRow)
    (hrows : ∀ row ∈ rows, groups.mem row.ruleGroup = true) :
    GrownBy groups c (c'.addPolicies rows).1 :=
  addPolicies_induction h fun _ _ row hmem hgrown hrow => hgrown.addPolicy (hrows row hmem) hrow

/-- A walk over the peers of an endpoint meets everything it met before the context grew, in the
same order, if it meets more where a cell has more policies. -/
theorem flatMap_peers_sublist (h : GrownBy groups c c') {β : Type}
    {f : EndpointKey × List AppliedPolicy → List β}
    (hf : ∀ p cell cell', List.Sublist cell cell' → (f (p, cell)).Sublist (f (p, cell')))
    (owner : EndpointKey) :
    ((c.table.peers owner).flatMap f).Sublist ((c'.table.peers owner).flatMap f) := by
  induction h with
  | refl => exact List.Sublist.refl _
  | withVersion _ version ih => exact ih
  | addPolicy _ _ hrow ih =>
    obtain ⟨group, -, rfl⟩ := addPolicy?_eq_some_iff.mp hrow
    exact ih.trans (PolicyTable.flatMap_peers_sublist_insert hf owner)

end GrownBy

end Context

/-- The context without its policies knows what the snapshot lists, and of each key what is listed last. -/
theorem Snapshot.ground_eq (s : Snapshot) : s.ground = {
    version := s.version
    endpoints := s.endpoints.foldl Registry.file ∅
    subnets := s.subnets
    ruleGroups := s.ruleGroups.foldl Registry.file ∅ } := by
  have hendpoints : s.endpoints.foldl Context.addEndpoint { version := s.version } =
      { version := s.version, endpoints := s.endpoints.foldl Registry.file ∅ } :=
    List.foldl_hom (fun known => ({ version := s.version, endpoints := known } : Context)) fun _ _ => rfl
  have hsubnets (c : Context) (l : List ForwardingSubnet) :
      l.foldl Context.addSubnet c = { c with subnets := c.subnets ++ l } := by
    induction l generalizing c with
    | nil => rw [List.append_nil, List.foldl_nil]
    | cons subnet rest ih =>
      rw [List.foldl_cons, ih, Context.addSubnet, List.append_assoc, List.singleton_append]
  have hgroups (c : Context) (l : List RuleGroup) :
      l.foldl Context.addRuleGroup c = { c with ruleGroups := l.foldl Registry.file c.ruleGroups } :=
    List.foldl_hom (fun known => { c with ruleGroups := known }) fun _ _ => rfl
  rw [ground, hendpoints, hsubnets, hgroups]
  rfl

/-- Whatever a snapshot says, its context is one that can come about. -/
theorem Snapshot.reachable_context (s : Snapshot) : s.context.Reachable := by
  have hendpoints : (s.endpoints.foldl Context.addEndpoint { version := s.version }).Reachable :=
    List.foldlRecOn s.endpoints _ (.blank s.version) fun c hc e _ => hc.addEndpoint e
  have hsubnets := List.foldlRecOn s.subnets Context.addSubnet hendpoints
    fun c hc subnet _ => hc.addSubnet subnet
  have hground : s.ground.Reachable := List.foldlRecOn s.ruleGroups Context.addRuleGroup hsubnets
    fun c hc g _ => hc.addRuleGroup g
  exact hground.addPolicies s.policies

end GroupPolicy

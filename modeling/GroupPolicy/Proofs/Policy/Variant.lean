import GroupPolicy.Proofs.Policy.Reachable

namespace GroupPolicy

namespace PolicyTable

variable {t t' : PolicyTable} {o owner peer : EndpointKey}

/-- What an insertion makes of a row depends on nothing but the row. -/
theorem row_insert_congr (policy : AppliedPolicy) (hrow : t'.row o = t.row o) :
    (t'.insert owner peer policy).row o = (t.insert owner peer policy).row o := by
  by_cases ho : o = owner
  · subst ho
    have hcell : t'.policies o peer = t.policies o peer := by rw [policies, hrow, policies]
    by_cases hmem : policy ∈ t.policies o peer
    · rw [insert, if_pos (hcell ▸ hmem), insert, if_pos hmem, hrow]
    · rw [row_insert_self (hcell ▸ hmem), row_insert_self hmem, hcell, hrow]
  · rw [row_insert_of_ne _ _ _ ho, row_insert_of_ne _ _ _ ho, hrow]

end PolicyTable

namespace Context

/-- Two contexts that are put together by the same steps, apart from their versions and from rows of one
endpoint that only one of them gets. -/
inductive Variant (k : EndpointKey) : Context → Context → Prop where
  | blank (version version' : UInt64) : Variant k { version } { version := version' }
  | withVersion {c c' : Context} (h : Variant k c c') (version version' : UInt64) :
      Variant k (c.withVersion version) (c'.withVersion version')
  | addEndpoint {c c' : Context} (h : Variant k c c') (e : Endpoint) :
      Variant k (c.addEndpoint e) (c'.addEndpoint e)
  | addSubnet {c c' : Context} (h : Variant k c c') (s : ForwardingSubnet) :
      Variant k (c.addSubnet s) (c'.addSubnet s)
  | addRuleGroup {c c' : Context} (h : Variant k c c') (g : RuleGroup) :
      Variant k (c.addRuleGroup g) (c'.addRuleGroup g)
  | addPolicy {c c' next next' : Context} {row : PolicyRow} (h : Variant k c c')
      (hrow : c.addPolicy? row = some next) (hrow' : c'.addPolicy? row = some next') :
      Variant k next next'
  | lose {c c' next : Context} {row : PolicyRow} (h : Variant k c c') (howner : row.owner = k)
      (hrow : c.addPolicy? row = some next) : Variant k next c'
  | gain {c c' next' : Context} {row : PolicyRow} (h : Variant k c c') (howner : row.owner = k)
      (hrow' : c'.addPolicy? row = some next') : Variant k c next'

variable {k owner : EndpointKey} {c c' : Context} {rows rows' : List PolicyRow}

namespace Variant

theorem frame (h : Variant k c c') : c'.endpoints = c.endpoints ∧ c'.subnets = c.subnets ∧
    c'.ruleGroups = c.ruleGroups := by
  induction h with
  | blank version version' => exact ⟨rfl, rfl, rfl⟩
  | withVersion _ version version' ih => exact ih
  | addEndpoint _ e ih =>
    obtain ⟨hendpoints, hsubnets, hgroups⟩ := ih
    exact ⟨congrArg (·.file e) hendpoints, hsubnets, hgroups⟩
  | addSubnet _ s ih =>
    obtain ⟨hendpoints, hsubnets, hgroups⟩ := ih
    exact ⟨hendpoints, congrArg (· ++ [s]) hsubnets, hgroups⟩
  | addRuleGroup _ g ih =>
    obtain ⟨hendpoints, hsubnets, hgroups⟩ := ih
    exact ⟨hendpoints, hsubnets, congrArg (·.file g) hgroups⟩
  | addPolicy _ hrow hrow' ih =>
    obtain ⟨hendpoints, hsubnets, hgroups⟩ := ih
    obtain ⟨he, hs, hg, -⟩ := frame_of_addPolicy? hrow
    obtain ⟨he', hs', hg', -⟩ := frame_of_addPolicy? hrow'
    exact ⟨he'.trans (hendpoints.trans he.symm), hs'.trans (hsubnets.trans hs.symm),
      hg'.trans (hgroups.trans hg.symm)⟩
  | lose _ howner hrow ih =>
    obtain ⟨hendpoints, hsubnets, hgroups⟩ := ih
    obtain ⟨he, hs, hg, -⟩ := frame_of_addPolicy? hrow
    exact ⟨hendpoints.trans he.symm, hsubnets.trans hs.symm, hgroups.trans hg.symm⟩
  | gain _ howner hrow' ih =>
    obtain ⟨hendpoints, hsubnets, hgroups⟩ := ih
    obtain ⟨he', hs', hg', -⟩ := frame_of_addPolicy? hrow'
    exact ⟨he'.trans hendpoints, hs'.trans hsubnets, hg'.trans hgroups⟩

/-- The rows of the other endpoints are the same. -/
theorem row_eq (h : Variant k c c') (hne : owner ≠ k) : c'.table.row owner = c.table.row owner := by
  induction h with
  | blank version version' => rfl
  | withVersion _ version version' ih => exact ih
  | addEndpoint _ e ih => exact ih
  | addSubnet _ s ih => exact ih
  | addRuleGroup _ g ih => exact ih
  | @addPolicy c c' next next' row h hrow hrow' ih =>
    obtain ⟨group, hgroup, rfl⟩ := addPolicy?_eq_some_iff.mp hrow
    obtain ⟨group', hgroup', rfl⟩ := addPolicy?_eq_some_iff.mp hrow'
    -- Both contexts know the same rule group by the key of the row.
    rw [ruleGroup?, h.frame.2.2] at hgroup'
    obtain rfl := Option.some.inj (hgroup.symm.trans hgroup')
    exact PolicyTable.row_insert_congr _ ih
  | lose _ howner hrow ih =>
    rw [ih, (frame_of_addPolicy? hrow).2.2.2 owner (howner ▸ hne)]
  | gain _ howner hrow' ih =>
    rw [(frame_of_addPolicy? hrow').2.2.2 owner (howner ▸ hne), ih]

theorem symm (h : Variant k c c') : Variant k c' c := by
  induction h with
  | blank version version' => exact .blank version' version
  | withVersion _ version version' ih => exact ih.withVersion version' version
  | addEndpoint _ e ih => exact ih.addEndpoint e
  | addSubnet _ s ih => exact ih.addSubnet s
  | addRuleGroup _ g ih => exact ih.addRuleGroup g
  | addPolicy _ hrow hrow' ih => exact ih.addPolicy hrow' hrow
  | lose _ howner hrow ih => exact ih.gain howner hrow
  | gain _ howner hrow' ih => exact ih.lose howner hrow'

theorem addPolicies_right (h : Variant k c c') (hrows : ∀ row ∈ rows, row.owner = k) :
    Variant k c (c'.addPolicies rows).1 :=
  addPolicies_induction h fun _ _ row hmem hvariant hrow => hvariant.gain (hrows row hmem) hrow

theorem addPolicies_left (h : Variant k c c') (hrows : ∀ row ∈ rows, row.owner = k) :
    Variant k (c.addPolicies rows).1 c' :=
  (h.symm.addPolicies_right hrows).symm

/-- A row that both contexts are given is taken by both of them or by neither. -/
theorem addPolicies_singleton (h : Variant k c c') (row : PolicyRow) :
    Variant k (c.addPolicies [row]).1 (c'.addPolicies [row]).1 := by
  have hgroup : c'.ruleGroup? row.ruleGroup = c.ruleGroup? row.ruleGroup := by
    rw [ruleGroup?, h.frame.2.2, ruleGroup?]
  cases hfound : c.ruleGroup? row.ruleGroup with
  | none =>
    have hrow := addPolicy?_eq_none_iff.mpr hfound
    have hrow' := addPolicy?_eq_none_iff.mpr (hgroup.trans hfound)
    rw [addPolicies_of_none hrow, addPolicies_of_none hrow']
    exact h
  | some group =>
    have hrow := addPolicy?_eq_some_iff.mpr ⟨group, hfound, rfl⟩
    have hrow' := addPolicy?_eq_some_iff.mpr ⟨group, hgroup.trans hfound, rfl⟩
    rw [addPolicies_of_some hrow, addPolicies_of_some hrow']
    exact h.addPolicy hrow hrow'

/-- Lists of rows that differ in rows of the endpoint keep contexts variants of each other. -/
theorem addPolicies (h : Variant k c c')
    (hrows : rows'.filter (fun row => row.owner ≠ k) = rows.filter fun row => row.owner ≠ k) :
    Variant k (c.addPolicies rows).1 (c'.addPolicies rows').1 := by
  induction rows generalizing c c' rows' with
  | nil =>
    have hall : ∀ row ∈ rows', row.owner = k := by
      intro row hrow
      simpa using List.filter_eq_nil_iff.mp hrows row hrow
    exact h.addPolicies_right hall
  | cons row rest ih =>
    rw [addPolicies_cons]
    by_cases howner : row.owner = k
    · rw [List.filter_cons_of_neg (by simpa using howner)] at hrows
      have hlose : Variant k (c.addPolicies [row]).1 c' :=
        h.addPolicies_left fun r hr => by rwa [List.mem_singleton.mp hr]
      exact ih hlose hrows
    · -- Before the row, the other list has rows of the endpoint only.
      rw [List.filter_cons_of_pos (by simpa using howner)] at hrows
      obtain ⟨before, rest', rfl, hbefore, -, hrest⟩ := List.filter_eq_cons_iff.mp hrows
      have hall : ∀ row ∈ before, row.owner = k := by
        intro row hrow
        simpa using hbefore row hrow
      rw [addPolicies_append, addPolicies_cons _ row rest']
      exact ih ((h.addPolicies_right hall).addPolicies_singleton row) hrest

end Variant

end Context

/-- Snapshots that differ only in their versions and in rows of one endpoint describe contexts that are
variants of each other. -/
theorem Snapshot.variant_context {s : Snapshot} {k : EndpointKey} {policies : List PolicyRow}
    (hrows : policies.filter (fun row => row.owner ≠ k) = s.policies.filter fun row => row.owner ≠ k)
    (version : UInt64) : Context.Variant k s.context { s with version, policies }.context := by
  have hfold {α : Type} {add : Context → α → Context}
      (hadd : ∀ c c' a, Context.Variant k c c' → Context.Variant k (add c a) (add c' a)) (l : List α)
      {c c' : Context} (h : Context.Variant k c c') :
      Context.Variant k (l.foldl add c) (l.foldl add c') := by
    induction l generalizing c c' with
    | nil => exact h
    | cons a rest ih => exact ih (hadd c c' a h)
  have hendpoints := hfold (fun _ _ e h => h.addEndpoint e) s.endpoints (.blank s.version version)
  have hsubnets := hfold (fun _ _ subnet h => h.addSubnet subnet) s.subnets hendpoints
  have hground := hfold (fun _ _ g h => h.addRuleGroup g) s.ruleGroups hsubnets
  exact hground.addPolicies hrows

end GroupPolicy

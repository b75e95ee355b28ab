import GroupPolicy.Proofs.Render.Effects

namespace GroupPolicy

section Pieces

variable {pieces : List (AclTarget × List AclEntry)} {t : AclTarget} {es : List AclEntry}

theorem mem_plannedAt {e : AclEntry} :
    e ∈ plannedAt pieces t ↔ ∃ es, (t, es) ∈ pieces ∧ e ∈ es := by
  simp only [plannedAt, List.mem_flatMap, List.mem_filter, decide_eq_true_eq]
  constructor
  · rintro ⟨⟨t', es⟩, ⟨hmem, rfl⟩, he⟩
    exact ⟨es, hmem, he⟩
  · rintro ⟨es, hmem, he⟩
    exact ⟨(t, es), ⟨hmem, rfl⟩, he⟩

theorem plannedAt_flatMap {α : Type} (l : List α) (f : α → List (AclTarget × List AclEntry))
    (t : AclTarget) : plannedAt (l.flatMap f) t = l.flatMap fun a => plannedAt (f a) t := by
  simp only [plannedAt, List.filter_flatMap, List.flatMap_assoc]

theorem plannedAt_of_mem (hkeys : (pieces.map (·.1)).Nodup) (hmem : (t, es) ∈ pieces) :
    plannedAt pieces t = es := by
  induction pieces with
  | nil => cases hmem
  | cons piece rest ih =>
    obtain ⟨hhead, htail⟩ := List.nodup_cons.mp hkeys
    rw [plannedAt_cons, plannedAt_singleton]
    rcases List.mem_cons.mp hmem with rfl | hrest
    · have hnone : plannedAt rest t = [] := by
        refine plannedAt_eq_nil fun piece hpiece heq => hhead ?_
        exact List.mem_map.mpr ⟨piece, hpiece, heq⟩
      rw [if_pos rfl, hnone, List.append_nil]
    · have hne : piece.1 ≠ t := by
        rintro rfl
        exact hhead (List.mem_map.mpr ⟨_, hrest, rfl⟩)
      rw [if_neg hne, List.nil_append, ih htail hrest]

/-- Pieces without entries plan nothing. -/
theorem plannedAt_filter_nonempty (pieces : List (AclTarget × List AclEntry)) (t : AclTarget) :
    plannedAt (pieces.filter fun piece => !piece.2.isEmpty) t = plannedAt pieces t := by
  induction pieces with
  | nil => rfl
  | cons piece rest ih =>
    rw [plannedAt_cons piece rest, ← ih]
    cases hempty : piece.2.isEmpty with
    | true =>
      rw [List.filter_cons_of_neg (by simp [hempty]), plannedAt_singleton,
        List.isEmpty_iff.mp hempty, ite_self, List.nil_append]
    | false => rw [List.filter_cons_of_pos (by simp [hempty]), plannedAt_cons]

end Pieces

namespace Plan

theorem ofPieces_concat (pieces : List (AclTarget × List AclEntry)) (piece : AclTarget × List AclEntry) :
    ofPieces (pieces ++ [piece]) = (ofPieces pieces).extend piece.1 piece.2 := by
  simp [ofPieces, List.foldl_append]

/-- The pieces of a list add up to what is planned for it. -/
theorem getD_ofPieces (pieces : List (AclTarget × List AclEntry)) (t : AclTarget) :
    (ofPieces pieces).getD t [] = plannedAt pieces t := by
  induction pieces using List.reverseRecOn with
  | nil => rfl
  | append_singleton rest piece ih =>
    rw [ofPieces_concat, plannedAt_append, plannedAt_singleton, extend]
    by_cases h : piece.1 = t
    · subst h
      rw [SortedMap.getD_insert_self, ih, if_pos rfl]
    · rw [SortedMap.getD_insert_of_ne _ _ _ (Ne.symm h), ih, if_neg h, List.append_nil]

theorem mem_keys_ofPieces {pieces : List (AclTarget × List AclEntry)} {t : AclTarget}
    (h : t ∈ (ofPieces pieces).keys) : ∃ piece ∈ pieces, piece.1 = t := by
  induction pieces using List.reverseRecOn with
  | nil => cases h
  | append_singleton rest piece ih =>
    by_cases heq : piece.1 = t
    · exact ⟨piece, by simp, heq⟩
    · rw [ofPieces_concat, SortedMap.mem_keys_iff] at h
      obtain ⟨es, hes⟩ := h
      rw [extend, SortedMap.get?_insert_of_ne _ _ (Ne.symm heq)] at hes
      obtain ⟨piece, hpiece, rfl⟩ := ih (SortedMap.mem_keys_iff.mpr ⟨es, hes⟩)
      exact ⟨piece, List.mem_append_left _ hpiece, rfl⟩

theorem plannedAt_toList (p : Plan) (t : AclTarget) : plannedAt p.toList t = p.getD t [] := by
  rw [SortedMap.getD]
  cases hget : p.get? t with
  | none =>
    refine plannedAt_eq_nil fun piece hpiece => ?_
    rintro rfl
    rw [SortedMap.get?_eq_some_iff.mpr hpiece] at hget
    cases hget
  | some es => exact plannedAt_of_mem (SortedMap.nodup_keys p) (SortedMap.get?_eq_some_iff.mp hget)

theorem plannedAt_byNode (p : Plan) (t : AclTarget) : plannedAt p.byNode.flatten t = p.getD t [] := by
  rw [byNode, List.flatten_splitBy, plannedAt_filter_nonempty, plannedAt_toList]

theorem mem_keys_of_mem_byNode {p : Plan} {piece : AclTarget × List AclEntry}
    (h : piece ∈ p.byNode.flatten) : piece.1 ∈ p.keys := by
  rw [byNode, List.flatten_splitBy] at h
  exact List.mem_map.mpr ⟨piece, (List.mem_filter.mp h).1, rfl⟩

/-- Each part of a plan by nodes belongs to one node. -/
theorem node_of_mem_byNode {p : Plan} {pieces : List (AclTarget × List AclEntry)}
    (h : pieces ∈ p.byNode) : ∃ node, ∀ piece ∈ pieces, piece.1.node = node := by
  cases pieces with
  | nil => exact ⟨"", fun piece hpiece => nomatch hpiece⟩
  | cons piece rest =>
    have hchain : (piece :: rest).IsChain fun a b => a.1.node = b.1.node := by
      refine (List.isChain_of_mem_splitBy h).imp fun a b hab => ?_
      exact eq_of_beq hab
    have : IsTrans (AclTarget × List AclEntry) fun a b => a.1.node = b.1.node :=
      ⟨fun _ _ _ hab hbc => hab.trans hbc⟩
    have hall := (List.pairwise_cons.mp hchain.pairwise).1
    refine ⟨piece.1.node, fun b hb => ?_⟩
    rcases List.mem_cons.mp hb with rfl | hb
    · rfl
    · exact (hall b hb).symm

/-- Whether every list that a plan names is the list of an interface. -/
def IsAddressed (p : Plan) : Prop := ∀ t ∈ p.keys, ∃ l d, t = AclTarget.ofLocation l d

end Plan

namespace Change

variable {ch : Change} {c : Context} {g : Grouping} {settings : Settings} {k : EndpointKey}
  {t : AclTarget}

/-- The affected endpoints are those that have changed, and those that a changed rule group has been
applied to. -/
theorem mem_affected : k ∈ (ch.affected c).members ↔
    k ∈ ch.endpoints.members ∨ ∃ group ∈ ch.ruleGroups.members, k ∈ c.membersOf group := by
  rw [affected, SortedSet.mem_members_addAll, SortedSet.mem_members_ofMembers, List.mem_flatMap]

theorem mem_piecesOf {piece : AclTarget × List AclEntry} :
    piece ∈ (ch.piecesOf c g settings k).value ↔ ∃ owner, c.endpoint? k = some owner ∧
      ∃ l ∈ g.interfacesOf k, settings.excludes l = false ∧ ∃ d,
        piece = (.ofLocation l d,
          (c.selectedEntries (fun policy => ch.concerns c k policy.group.key) owner d).value) := by
  unfold piecesOf
  cases c.endpoint? k with
  | none => simp
  | some owner =>
    dsimp only
    cases g.interfacesOf k with
    | nil => simp
    | cons l rest =>
      simp only [Logged.value_gather, List.mem_flatMap, List.mem_map, List.mem_filter,
        Option.some.injEq, exists_eq_left', Bool.not_eq_true']
      constructor
      · rintro ⟨d, -, l, ⟨hl, hexcluded⟩, rfl⟩
        exact ⟨l, hl, hexcluded, d, rfl⟩
      · rintro ⟨l, hl, hexcluded, d, rfl⟩
        exact ⟨d, d.mem_all, l, ⟨hl, hexcluded⟩, rfl⟩

theorem value_plan (ch : Change) (c : Context) (g : Grouping) (settings : Settings) :
    (ch.plan c g settings).value =
      .ofPieces ((ch.affected c).members.flatMap fun k => (ch.piecesOf c g settings k).value) := by
  rw [plan, Logged.value_gather]

/-- The entries planned for a list are those that the change concerns of the affected endpoints on
its interface. -/
theorem mem_plan {e : AclEntry} :
    e ∈ (ch.plan c g settings).value.getD t [] ↔ ∃ k ∈ (ch.affected c).members,
      ∃ owner, c.endpoint? k = some owner ∧
        ∃ l ∈ g.interfacesOf k, settings.excludes l = false ∧ ∃ d, t = .ofLocation l d ∧
          e ∈ (c.selectedEntries (fun policy => ch.concerns c k policy.group.key) owner d).value := by
  rw [value_plan, Plan.getD_ofPieces, mem_plannedAt]
  simp only [List.mem_flatMap, mem_piecesOf, Prod.mk.injEq]
  constructor
  · rintro ⟨_, ⟨k, hk, owner, howner, l, hl, hexcluded, d, rfl, rfl⟩, he⟩
    exact ⟨k, hk, owner, howner, l, hl, hexcluded, d, rfl, he⟩
  · rintro ⟨k, hk, owner, howner, l, hl, hexcluded, d, rfl, he⟩
    exact ⟨_, ⟨k, hk, owner, howner, l, hl, hexcluded, d, rfl, rfl⟩, he⟩

theorem exists_interface_of_mem_keys_plan (ht : t ∈ (ch.plan c g settings).value.keys) :
    ∃ k l d, l ∈ g.interfacesOf k ∧ settings.excludes l = false ∧ t = .ofLocation l d := by
  obtain ⟨piece, hpiece, rfl⟩ := Plan.mem_keys_ofPieces (value_plan ch c g settings ▸ ht)
  obtain ⟨k, -, hpiece⟩ := List.mem_flatMap.mp hpiece
  obtain ⟨owner, -, l, hl, hexcluded, d, rfl⟩ := mem_piecesOf.mp hpiece
  exact ⟨k, l, d, hl, hexcluded, rfl⟩

/-- Every list that is planned for belongs to an interface in use. -/
theorem not_excluded_of_mem_keys_plan (ht : t ∈ (ch.plan c g settings).value.keys) :
    ∃ l d, t = .ofLocation l d ∧ settings.excludes l = false := by
  obtain ⟨k, l, d, -, hexcluded, htarget⟩ := exists_interface_of_mem_keys_plan ht
  exact ⟨l, d, htarget, hexcluded⟩

theorem isAddressed_plan (ch : Change) (c : Context) (g : Grouping) (settings : Settings) :
    (ch.plan c g settings).value.IsAddressed := by
  intro t ht
  obtain ⟨l, d, htarget, -⟩ := not_excluded_of_mem_keys_plan ht
  exact ⟨l, d, htarget⟩

end Change

namespace Renderer

variable {p : Plan}

/-- Carrying out a plan edits each list by the entries planned for it, and nothing else. Only nodes
that cannot be reached refuse their part. -/
theorem edited_sync (r : Renderer) (mode : SyncMode) (hp : p.IsAddressed) :
    r.device.Edited (r.sync mode p).renderer.device (fun t => mode.edit (p.getD t [])) ∧
      ((∀ t ∈ p.keys, r.device.unreachable.mem t.node = false) →
        (r.sync mode p).outcome.value = .ok ()) := by
  have hnames : ∀ piece ∈ p.byNode.flatten, (parseAclName piece.1.name).isSome = true := by
    intro piece hpiece
    obtain ⟨l, d, heq⟩ := hp piece.1 (Plan.mem_keys_of_mem_byNode hpiece)
    rw [heq, AclTarget.ofLocation, parseAclName_aclName]
    rfl
  obtain ⟨hedited, hok⟩ := r.device.edited_syncNodes mode p.byNode
    (fun pieces hpieces => Plan.node_of_mem_byNode hpieces) hnames
  refine ⟨hedited.congr fun t _ l => ?_, fun hreach => ?_⟩
  · rw [Plan.plannedAt_byNode]
  · have hdone := hok fun piece hpiece => hreach piece.1 (Plan.mem_keys_of_mem_byNode hpiece)
    unfold sync
    dsimp only
    rw [hdone]
    rfl

end Renderer

end GroupPolicy

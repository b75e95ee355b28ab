import GroupPolicy.Proofs.Ordered.Map
import GroupPolicy.Render.Renderer
import Mathlib.Data.List.SplitBy

namespace GroupPolicy

theorem AclTarget.compare_eq_lt_iff {t t' : AclTarget} : compare t t' = .lt ↔
    compare t.node t'.node = .lt ∨ (t.node = t'.node ∧ compare t.name t'.name = .lt) := by
  change (compare t.node t'.node).then (compare t.name t'.name) = .lt ↔ _
  rw [Ordering.then_eq_lt, Std.LawfulEqCmp.compare_eq_iff_eq]

namespace Plan

/-- The lists that a plan has entries for. -/
def targets (p : Plan) : List (AclTarget × List AclEntry) :=
  p.toList.filter fun piece => !piece.2.isEmpty

/-- The lists of a node that a plan has entries for. -/
def targetsOf (p : Plan) (node : String) : List (AclTarget × List AclEntry) :=
  p.targets.filter fun piece => piece.1.node = node

/-- The nodes that have a part in a plan. -/
def nodes (p : Plan) : SortedSet String := .ofMembers (p.targets.map fun piece => piece.1.node)

variable {p : Plan} {node : String} {piece : AclTarget × List AclEntry} {t : AclTarget}
  {es : List AclEntry}

theorem mem_targetsOf :
    (t, es) ∈ p.targetsOf node ↔ t.node = node ∧ p.get? t = some es ∧ es ≠ [] := by
  simp only [targetsOf, targets, List.mem_filter, decide_eq_true_eq, SortedMap.get?_eq_some_iff,
    Bool.not_eq_true', List.isEmpty_eq_false_iff]
  tauto

theorem node_of_mem_targetsOf (h : piece ∈ p.targetsOf node) : piece.1.node = node :=
  (mem_targetsOf.mp h).1

theorem mem_nodes : node ∈ p.nodes.members ↔ p.targetsOf node ≠ [] := by
  rw [nodes, SortedSet.mem_members_ofMembers, List.mem_map, targetsOf, ne_eq, List.filter_eq_nil_iff]
  simp only [decide_eq_true_eq, not_forall, not_not, exists_prop]

theorem ascending_targets (p : Plan) : p.targets.Pairwise fun a b => compare a.1 b.1 = .lt :=
  p.sorted.filter _

/-- The part of a node comes by name, each list once. -/
theorem ascending_targetsOf (p : Plan) (node : String) :
    (p.targetsOf node).Pairwise fun a b => compare a.1.name b.1.name = .lt := by
  refine (p.ascending_targets.filter _).imp_of_mem fun {a b} ha hb hlt => ?_
  have hnode : a.1.node = b.1.node :=
    (node_of_mem_targetsOf ha).trans (node_of_mem_targetsOf hb).symm
  rcases AclTarget.compare_eq_lt_iff.mp hlt with hless | ⟨-, hname⟩
  · rw [hnode, Std.ReflOrd.compare_self] at hless
    cases hless
  · exact hname

theorem nodup_targetsOf (p : Plan) (node : String) : ((p.targetsOf node).map (·.1)).Nodup := by
  refine (SortedMap.nodup_keys p).sublist ?_
  exact (List.filter_sublist.trans List.filter_sublist).map _

/-- The parts of the nodes, one after the other, are the whole plan. -/
theorem flatMap_targetsOf (p : Plan) : p.nodes.members.flatMap p.targetsOf = p.targets := by
  have hparts : (p.nodes.members.flatMap p.targetsOf).Pairwise
      fun a b => compareOn Prod.fst a b = .lt := by
    refine List.pairwise_flatMap.mpr ⟨fun node _ => p.ascending_targets.filter _, ?_⟩
    refine (SortedMap.ascending_keys p.nodes).imp fun {n n'} hlt a ha b hb => ?_
    refine AclTarget.compare_eq_lt_iff.mpr (.inl ?_)
    rwa [node_of_mem_targetsOf ha, node_of_mem_targetsOf hb]
  refine eq_of_ascending hparts p.ascending_targets fun piece => ?_
  rw [List.mem_flatMap]
  constructor
  · rintro ⟨node, -, hpiece⟩
    exact (List.mem_filter.mp hpiece).1
  · intro hpiece
    have hmem : piece ∈ p.targetsOf piece.1.node :=
      List.mem_filter.mpr ⟨hpiece, decide_eq_true rfl⟩
    exact ⟨piece.1.node, mem_nodes.mpr (List.ne_nil_of_mem hmem), hmem⟩

/-- A plan is gone through node by node, in the order of the nodes. -/
theorem byNode_eq (p : Plan) : p.byNode = p.nodes.members.map p.targetsOf := by
  have hflatten : (p.nodes.members.map p.targetsOf).flatten = p.targets := by
    rw [← List.flatMap_def, flatMap_targetsOf]
  rw [byNode, ← targets, ← hflatten]
  refine List.splitBy_flatten ?_ ?_ ?_
  · intro hempty
    obtain ⟨node, hnode, hnil⟩ := List.mem_map.mp hempty
    exact mem_nodes.mp hnode hnil
  · intro part hpart
    obtain ⟨node, -, rfl⟩ := List.mem_map.mp hpart
    refine List.Pairwise.isChain (List.pairwise_of_forall_mem_list fun a ha b hb => ?_)
    rw [node_of_mem_targetsOf ha, node_of_mem_targetsOf hb]
    exact beq_self_eq_true node
  · refine List.Pairwise.isChain (List.pairwise_map.mpr ?_)
    refine (SortedMap.nodup_keys p.nodes).imp_of_mem fun {n n'} hn hn' hne => ?_
    refine ⟨mem_nodes.mp hn, mem_nodes.mp hn', ?_⟩
    rw [node_of_mem_targetsOf (List.getLast_mem _), node_of_mem_targetsOf (List.head_mem _)]
    exact beq_false_of_ne hne

end Plan

end GroupPolicy

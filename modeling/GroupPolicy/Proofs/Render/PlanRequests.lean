import GroupPolicy.Proofs.Render.PlanNodes
import Mathlib.Data.List.TakeWhile

namespace GroupPolicy

theorem takeWhile_congr {α : Type} {f g : α → Bool} {l : List α} (h : ∀ a ∈ l, f a = g a) :
    l.takeWhile f = l.takeWhile g := by
  induction l with
  | nil => rfl
  | cons a r ih =>
    rw [List.takeWhile_cons, List.takeWhile_cons, h a List.mem_cons_self,
      ih fun b hb => h b (List.mem_cons_of_mem a hb)]

namespace SyncMode

def operation : SyncMode → String
  | .write => "write_entries"
  | .remove => "remove_entries"

/-- Why the entries of a list are refused, if they are: the node cannot be reached, or entries are to be
written to a list whose name is not one that a list of an interface can have. -/
def refusal? (mode : SyncMode) (unreachable : SortedSet String) (t : AclTarget) : Option WriteError :=
  if unreachable.mem t.node then some ⟨t.node, mode.operation, "node unreachable"⟩
  else if mode = .write ∧ parseAclName t.name = none then
    some ⟨t.node, mode.operation, "malformed ACL name " ++ t.name⟩
  else none

/-- What becomes of a list by its entries in a plan. Entries are written to a list that is made if it is
not there; they are taken out only of a list that is there. -/
def revise (mode : SyncMode) (t : AclTarget) (es : List AclEntry) (old : Option Acl) : Option Acl :=
  match mode with
  | .write =>
    match parseAclName t.name with
    | none => old
    | some (interface, d) => some ((old.getD (.ofInterface interface d [])).putEntries es)
  | .remove => old.map fun l => l.dropEntries (es.map AclEntry.name)

section Pieces

variable (mode : SyncMode) (unreachable : SortedSet String) (pieces : List (AclTarget × List AclEntry))

/-- The first lists of a node, up to one that is refused. -/
def accepted : List (AclTarget × List AclEntry) :=
  pieces.takeWhile fun piece => (mode.refusal? unreachable piece.1).isNone

/-- The lists of a node that are tried: those that are accepted, and the one that is refused, if any. -/
def tried : List (AclTarget × List AclEntry) :=
  pieces.take ((mode.accepted unreachable pieces).length + 1)

/-- Why the part of a node fails, if it does. -/
def failure? : Option WriteError :=
  pieces.findSome? fun piece => mode.refusal? unreachable piece.1

/-- What becomes of a list when those of some pieces are revised. -/
def reviseBy (t : AclTarget) (old : Option Acl) : Option Acl :=
  match pieces.find? fun piece => piece.1 = t with
  | none => old
  | some piece => mode.revise t piece.2 old

end Pieces

variable {mode : SyncMode} {unreachable : SortedSet String} {t t' : AclTarget} {es : List AclEntry}
  {rest : List (AclTarget × List AclEntry)} {e : WriteError}

theorem accepted_cons_of_none (h : mode.refusal? unreachable t = none) :
    mode.accepted unreachable ((t, es) :: rest) = (t, es) :: mode.accepted unreachable rest := by
  rw [accepted, List.takeWhile_cons_of_pos (by rw [h]; rfl), accepted]

theorem accepted_cons_of_some (h : mode.refusal? unreachable t = some e) :
    mode.accepted unreachable ((t, es) :: rest) = [] := by
  rw [accepted, List.takeWhile_cons_of_neg (by simp [h])]

theorem tried_cons_of_none (h : mode.refusal? unreachable t = none) :
    mode.tried unreachable ((t, es) :: rest) = (t, es) :: mode.tried unreachable rest := by
  rw [tried, accepted_cons_of_none h, List.length_cons, List.take_succ_cons, tried]

theorem tried_cons_of_some (h : mode.refusal? unreachable t = some e) :
    mode.tried unreachable ((t, es) :: rest) = [(t, es)] := by
  rw [tried, accepted_cons_of_some h]
  rfl

theorem failure?_cons_of_none (h : mode.refusal? unreachable t = none) :
    mode.failure? unreachable ((t, es) :: rest) = mode.failure? unreachable rest := by
  rw [failure?, List.findSome?_cons, h, failure?]

theorem failure?_cons_of_some (h : mode.refusal? unreachable t = some e) :
    mode.failure? unreachable ((t, es) :: rest) = some e := by
  rw [failure?, List.findSome?_cons, h]

theorem reviseBy_cons_self (old : Option Acl) :
    mode.reviseBy ((t, es) :: rest) t old = mode.revise t es old := by
  simp [reviseBy]

theorem reviseBy_cons_of_ne (h : t' ≠ t) (old : Option Acl) :
    mode.reviseBy ((t, es) :: rest) t' old = mode.reviseBy rest t' old := by
  rw [reviseBy, List.find?_cons_of_neg (by simpa using Ne.symm h), reviseBy]

theorem reviseBy_of_not_mem (h : t ∉ rest.map (·.1)) (old : Option Acl) :
    mode.reviseBy rest t old = old := by
  have hnone : (rest.find? fun piece => piece.1 = t) = none := by
    refine List.find?_eq_none.mpr fun piece hpiece heq => h ?_
    exact List.mem_map.mpr ⟨piece, hpiece, of_decide_eq_true heq⟩
  rw [reviseBy, hnone]

theorem reviseBy_of_mem (hkeys : (rest.map (·.1)).Nodup) (h : (t, es) ∈ rest) (old : Option Acl) :
    mode.reviseBy rest t old = mode.revise t es old := by
  induction rest with
  | nil => cases h
  | cons piece rest ih =>
    obtain ⟨t', es'⟩ := piece
    obtain ⟨hhead, htail⟩ := List.nodup_cons.mp hkeys
    rcases List.mem_cons.mp h with heq | hrest
    · cases heq
      exact reviseBy_cons_self old
    · have hne : t ≠ t' := by
        rintro rfl
        exact hhead (List.mem_map.mpr ⟨_, hrest, rfl⟩)
      rw [reviseBy_cons_of_ne hne, ih htail hrest]

/-- A node that can be reached refuses only to write to malformed names. -/
theorem isNone_refusal? (h : unreachable.mem t.node = false) :
    (mode.refusal? unreachable t).isNone =
      if mode = .write then (parseAclName t.name).isSome else true := by
  rw [refusal?, h, if_neg Bool.false_ne_true]
  cases mode <;> cases hname : parseAclName t.name <;> simp

theorem accepted_of_reachable {p : Plan} {node : String} (h : unreachable.mem node = false) :
    mode.accepted unreachable (p.targetsOf node) =
      if mode = .write then (p.targetsOf node).takeWhile fun piece => (parseAclName piece.1.name).isSome
      else p.targetsOf node := by
  have hnone (piece : AclTarget × List AclEntry) (hpiece : piece ∈ p.targetsOf node) :
      (mode.refusal? unreachable piece.1).isNone =
        if mode = .write then (parseAclName piece.1.name).isSome else true :=
    isNone_refusal? (by rwa [Plan.node_of_mem_targetsOf hpiece])
  rw [accepted, takeWhile_congr hnone]
  split
  · rfl
  · exact List.takeWhile_eq_self_iff.mpr fun _ _ => rfl

theorem accepted_of_unreachable {p : Plan} {node : String} (h : unreachable.mem node = true) :
    mode.accepted unreachable (p.targetsOf node) = [] := by
  cases hpieces : p.targetsOf node with
  | nil => rfl
  | cons piece rest =>
    have hnode : piece.1.node = node := Plan.node_of_mem_targetsOf (hpieces ▸ List.mem_cons_self)
    have hrefused : mode.refusal? unreachable piece.1 =
        some ⟨piece.1.node, mode.operation, "node unreachable"⟩ :=
      if_pos (by rwa [hnode])
    exact accepted_cons_of_some hrefused

/-- The nodes in order are without failure if all nodes are, since the others have no part. -/
theorem findSome?_failure?_eq_none_iff {p : Plan} :
    (p.nodes.members.findSome? fun node => mode.failure? unreachable (p.targetsOf node)) = none ↔
      ∀ node, mode.failure? unreachable (p.targetsOf node) = none := by
  rw [List.findSome?_eq_none_iff]
  refine ⟨fun h node => ?_, fun h node _ => h node⟩
  by_cases hnode : node ∈ p.nodes.members
  · exact h node hnode
  · rw [not_not.mp (mt Plan.mem_nodes.mpr hnode)]
    rfl

theorem accepted_sublist (mode : SyncMode) (unreachable : SortedSet String)
    (pieces : List (AclTarget × List AclEntry)) : (mode.accepted unreachable pieces).Sublist pieces :=
  List.takeWhile_sublist _

end SyncMode

namespace Device

variable {s : Device} {mode : SyncMode} {t t' : AclTarget} {es : List AclEntry} {e : WriteError}

/-- A request that is refused changes nothing. -/
theorem syncTarget_of_some (h : mode.refusal? s.unreachable t = some e) :
    s.syncTarget mode t es = ⟨{ s with calls := s.calls + 1 }, .error e⟩ := by
  unfold SyncMode.refusal? at h
  split at h
  next hnode =>
    obtain rfl := Option.some.inj h
    cases mode <;> exact if_pos hnode
  next hnode =>
    split at h
    next hname =>
      obtain ⟨rfl, hname⟩ := hname
      obtain rfl := Option.some.inj h
      simp [syncTarget, writeEntries, ask, hnode, hname, SyncMode.operation]
    · cases h

/-- A request that is not refused revises its own list, and no other. -/
theorem syncTarget_of_none (es : List AclEntry) (h : mode.refusal? s.unreachable t = none) :
    ∃ acls, s.syncTarget mode t es = ⟨{ s with acls, calls := s.calls + 1 }, .ok ()⟩ ∧
      acls.get? t = mode.revise t es (s.acls.get? t) ∧
      ∀ t', t' ≠ t → acls.get? t' = s.acls.get? t' := by
  unfold SyncMode.refusal? at h
  split at h
  next => cases h
  next hnode =>
    cases mode with
    | write =>
      cases hname : parseAclName t.name with
      | none =>
        rw [if_pos ⟨rfl, hname⟩] at h
        cases h
      | some parts =>
        obtain ⟨interface, d⟩ := parts
        refine ⟨s.acls.insert t ((s.acls.getD t (.ofInterface interface d [])).putEntries es), ?_, ?_,
          fun t' ht' => SortedMap.get?_insert_of_ne _ _ ht'⟩
        · simp [syncTarget, writeEntries, ask, hnode, hname]
        · rw [SortedMap.get?_insert_self, SyncMode.revise, hname]
          rfl
    | remove =>
      cases hacl : s.acls.get? t with
      | none =>
        refine ⟨s.acls, ?_, hacl, fun _ _ => rfl⟩
        simp [syncTarget, removeEntries, ask, hnode, hacl]
      | some l =>
        refine ⟨s.acls.insert t (l.dropEntries (es.map AclEntry.name)), ?_,
          SortedMap.get?_insert_self _ _ _, fun t' ht' => SortedMap.get?_insert_of_ne _ _ ht'⟩
        simp [syncTarget, removeEntries, ask, hnode, hacl]

end Device

end GroupPolicy

import GroupPolicy.Proofs.Ordered.Block
import GroupPolicy.Proofs.Render.PlanRequests
import Mathlib.Logic.Function.Basic

namespace GroupPolicy

/-- A plan that is being carried out on several nodes at a time. -/
structure Progress where
  device : Device
  /-- The lists of each node that it still has to go through. -/
  pending : String → List (AclTarget × List AclEntry)
  /-- Why the part of a node has failed, if it has. -/
  failure? : String → Option WriteError

namespace Progress

/-- A plan before any node has had a turn. -/
def start (s : Device) (p : Plan) : Progress := ⟨s, p.targetsOf, fun _ => none⟩

/-- A turn of a node: it takes the next of its lists, and gives up if this fails. -/
def turn (mode : SyncMode) (g : Progress) (node : String) : Progress :=
  match g.pending node with
  | [] => g
  | (target, es) :: rest =>
    let done := g.device.syncTarget mode target es
    match done.result with
    | .ok () => { g with device := done.device, pending := Function.update g.pending node rest }
    | .error e =>
      { device := done.device
        pending := Function.update g.pending node []
        failure? := Function.update g.failure? node (some e) }

def run (mode : SyncMode) (g : Progress) (schedule : List String) : Progress :=
  schedule.foldl (turn mode) g

def IsDone (g : Progress) : Prop := ∀ node, g.pending node = []

variable {mode : SyncMode} {g g' : Progress} {node : String} {t : AclTarget} {es : List AclEntry}
  {rest : List (AclTarget × List AclEntry)} {e : WriteError} {s : Device} {p : Plan}

theorem turn_of_nil (h : g.pending node = []) : g.turn mode node = g := by
  rw [turn, h]

theorem turn_of_some (h : g.pending node = (t, es) :: rest)
    (hrefused : mode.refusal? g.device.unreachable t = some e) :
    g.turn mode node =
      { device := { g.device with calls := g.device.calls + 1 }
        pending := Function.update g.pending node []
        failure? := Function.update g.failure? node (some e) } := by
  simp only [turn, h, Device.syncTarget_of_some hrefused]

theorem turn_of_none (h : g.pending node = (t, es) :: rest)
    (haccepted : mode.refusal? g.device.unreachable t = none) :
    ∃ acls, g.turn mode node =
        { device := { g.device with acls, calls := g.device.calls + 1 }
          pending := Function.update g.pending node rest
          failure? := g.failure? } ∧
      acls.get? t = mode.revise t es (g.device.acls.get? t) ∧
      ∀ t', t' ≠ t → acls.get? t' = g.device.acls.get? t' := by
  obtain ⟨acls, hsync, hself, hothers⟩ := Device.syncTarget_of_none es haccepted
  refine ⟨acls, ?_, hself, hothers⟩
  simp only [turn, h, hsync]

/-- A turn of one node is of no concern to any other. -/
theorem frame_turn (mode : SyncMode)
    (hpieces : ∀ piece ∈ g.pending node, piece.1.node = node) :
    (g.turn mode node).device.unreachable = g.device.unreachable ∧
      (g.turn mode node).device.bindings = g.device.bindings ∧
      ∀ n, n ≠ node → (g.turn mode node).pending n = g.pending n ∧
        (g.turn mode node).failure? n = g.failure? n ∧
        ∀ t : AclTarget, t.node = n →
          (g.turn mode node).device.acls.get? t = g.device.acls.get? t := by
  cases hpending : g.pending node with
  | nil =>
    rw [turn_of_nil hpending]
    exact ⟨rfl, rfl, fun _ _ => ⟨rfl, rfl, fun _ _ => rfl⟩⟩
  | cons piece rest =>
    obtain ⟨t, es⟩ := piece
    have hnode : t.node = node := hpieces (t, es) (hpending ▸ List.mem_cons_self)
    cases hrefusal : mode.refusal? g.device.unreachable t with
    | some e =>
      rw [turn_of_some hpending hrefusal]
      exact ⟨rfl, rfl, fun n hn => ⟨Function.update_of_ne hn _ _, Function.update_of_ne hn _ _,
        fun _ _ => rfl⟩⟩
    | none =>
      obtain ⟨acls, hturn, -, hothers⟩ := turn_of_none hpending hrefusal
      rw [hturn]
      refine ⟨rfl, rfl, fun n hn => ⟨Function.update_of_ne hn _ _, rfl, fun t' ht' => ?_⟩⟩
      refine hothers t' fun heq => hn ?_
      rw [← ht', heq, hnode]

/-- What has been done for a node and what is left of its part make up the whole part. -/
structure NodeOnTrack (mode : SyncMode) (s : Device) (p : Plan) (g : Progress) (node : String) :
    Prop where
  suffix : g.pending node <:+ p.targetsOf node
  not_failed : g.pending node ≠ [] → g.failure? node = none
  acls_eq : ∀ t : AclTarget, t.node = node →
    mode.reviseBy (mode.accepted s.unreachable (g.pending node)) t (g.device.acls.get? t) =
      mode.reviseBy (mode.accepted s.unreachable (p.targetsOf node)) t (s.acls.get? t)
  failure_eq : (g.failure? node).or (mode.failure? s.unreachable (g.pending node)) =
    mode.failure? s.unreachable (p.targetsOf node)

namespace NodeOnTrack

theorem congr (h : g.NodeOnTrack mode s p node) (hpending : g'.pending node = g.pending node)
    (hfailure : g'.failure? node = g.failure? node)
    (hacls : ∀ t : AclTarget, t.node = node → g'.device.acls.get? t = g.device.acls.get? t) :
    g'.NodeOnTrack mode s p node where
  suffix := hpending ▸ h.suffix
  not_failed hne := hfailure.trans (h.not_failed (hpending ▸ hne))
  acls_eq t ht := by rw [hpending, hacls t ht, h.acls_eq t ht]
  failure_eq := by rw [hfailure, hpending, h.failure_eq]

theorem turn_of_some (h : g.NodeOnTrack mode s p node) (hpending : g.pending node = (t, es) :: rest)
    (hreach : g.device.unreachable = s.unreachable)
    (hrefused : mode.refusal? s.unreachable t = some e) :
    (g.turn mode node).NodeOnTrack mode s p node := by
  rw [Progress.turn_of_some hpending (hreach ▸ hrefused)]
  have hleft : Function.update g.pending node [] node = [] := Function.update_self _ _ _
  refine ⟨?_, fun hne => absurd hleft hne, fun t' ht' => ?_, ?_⟩
  · dsimp only
    rw [hleft]
    exact List.nil_suffix
  · rw [← h.acls_eq t' ht', hpending, SyncMode.accepted_cons_of_some hrefused]
    dsimp only
    rw [hleft]
    rfl
  · have hbefore : g.failure? node = none := h.not_failed (hpending ▸ List.cons_ne_nil _ _)
    rw [← h.failure_eq, hbefore, hpending, SyncMode.failure?_cons_of_some hrefused]
    dsimp only
    rw [Function.update_self]
    rfl

theorem turn_of_none (h : g.NodeOnTrack mode s p node) (hpending : g.pending node = (t, es) :: rest)
    (hreach : g.device.unreachable = s.unreachable)
    (haccepted : mode.refusal? s.unreachable t = none) :
    (g.turn mode node).NodeOnTrack mode s p node := by
  obtain ⟨acls, hturn, hself, hothers⟩ := Progress.turn_of_none hpending (hreach ▸ haccepted)
  have hsuffix : (t, es) :: rest <:+ p.targetsOf node := hpending ▸ h.suffix
  have hleft : Function.update g.pending node rest node = rest := Function.update_self _ _ _
  rw [hturn]
  refine ⟨?_, fun _ => h.not_failed (hpending ▸ List.cons_ne_nil _ _), fun t' ht' => ?_, ?_⟩
  · dsimp only
    rw [hleft]
    exact (List.suffix_cons (t, es) rest).trans hsuffix
  · rw [← h.acls_eq t' ht', hpending, SyncMode.accepted_cons_of_none haccepted]
    dsimp only
    rw [hleft]
    -- The list whose turn it was is revised now and not once more; the others are left for later.
    by_cases heq : t' = t
    · subst heq
      have hnodup : (((t', es) :: rest).map (·.1)).Nodup :=
        (p.nodup_targetsOf node).sublist (hsuffix.sublist.map _)
      have hrest : t' ∉ (mode.accepted s.unreachable rest).map (·.1) := fun hmem =>
        (List.nodup_cons.mp hnodup).1 (((SyncMode.accepted_sublist _ _ _).map _).subset hmem)
      rw [SyncMode.reviseBy_of_not_mem hrest, SyncMode.reviseBy_cons_self]
      exact hself
    · rw [SyncMode.reviseBy_cons_of_ne heq]
      exact congrArg _ (hothers t' heq)
  · rw [← h.failure_eq, hpending, SyncMode.failure?_cons_of_none haccepted]
    dsimp only
    rw [hleft]

end NodeOnTrack

/-- All nodes are on track, and the requests that have been made and those that are left are as many as
the whole plan makes. -/
structure OnTrack (mode : SyncMode) (s : Device) (p : Plan) (g : Progress) : Prop where
  unreachable_eq : g.device.unreachable = s.unreachable
  bindings_eq : g.device.bindings = s.bindings
  nodes : ∀ node, g.NodeOnTrack mode s p node
  calls_eq : g.device.calls +
      (p.nodes.members.flatMap fun node => mode.tried s.unreachable (g.pending node)).length =
    s.calls +
      (p.nodes.members.flatMap fun node => mode.tried s.unreachable (p.targetsOf node)).length

theorem onTrack_start (mode : SyncMode) (s : Device) (p : Plan) : (start s p).OnTrack mode s p where
  unreachable_eq := rfl
  bindings_eq := rfl
  nodes _ := ⟨List.suffix_rfl, fun _ => rfl, fun _ _ => rfl, Option.none_or⟩
  calls_eq := rfl

namespace OnTrack

/-- One list less to be tried is one request more. -/
theorem calls_turn (h : g.OnTrack mode s p) (hpending : g.pending node = (t, es) :: rest)
    {left : List (AclTarget × List AclEntry)}
    (htried : mode.tried s.unreachable ((t, es) :: rest) = (t, es) :: mode.tried s.unreachable left) :
    g.device.calls + 1 + (p.nodes.members.flatMap fun n =>
        mode.tried s.unreachable (Function.update g.pending node left n)).length =
      s.calls +
        (p.nodes.members.flatMap fun n => mode.tried s.unreachable (p.targetsOf n)).length := by
  have hnode : node ∈ p.nodes.members := by
    refine Plan.mem_nodes.mpr fun hnil => ?_
    have hsuffix := (h.nodes node).suffix
    rw [hpending, hnil, List.suffix_nil] at hsuffix
    cases hsuffix
  have hblock : HasBlock [(t, es)]
      (p.nodes.members.flatMap fun n =>
        mode.tried s.unreachable (Function.update g.pending node left n))
      (p.nodes.members.flatMap fun n => mode.tried s.unreachable (g.pending n)) := by
    refine HasBlock.flatMap (SortedMap.nodup_keys p.nodes) hnode ?_ fun n _ hn => ?_
    · rw [Function.update_self, hpending, htried]
      exact ⟨[], _, rfl, rfl⟩
    · rw [Function.update_of_ne hn]
  rw [← h.calls_eq, hblock.length_eq, List.length_singleton]
  omega

/-- A turn keeps a plan on track: for the node that has it by what it does, for all others because it
does nothing to them. -/
theorem turn (h : g.OnTrack mode s p) (node : String) : (g.turn mode node).OnTrack mode s p := by
  have hpieces : ∀ piece ∈ g.pending node, piece.1.node = node := fun piece hpiece =>
    Plan.node_of_mem_targetsOf ((h.nodes node).suffix.subset hpiece)
  obtain ⟨hunreachable, hbindings, hframe⟩ := frame_turn mode hpieces
  cases hpending : g.pending node with
  | nil => rwa [turn_of_nil hpending]
  | cons piece rest =>
    obtain ⟨t, es⟩ := piece
    refine ⟨hunreachable.trans h.unreachable_eq, hbindings.trans h.bindings_eq, fun n => ?_, ?_⟩
    · by_cases hn : n = node
      · subst hn
        cases hrefusal : mode.refusal? s.unreachable t with
        | none => exact (h.nodes n).turn_of_none hpending h.unreachable_eq hrefusal
        | some e => exact (h.nodes n).turn_of_some hpending h.unreachable_eq hrefusal
      · obtain ⟨hsame, hfailure, hacls⟩ := hframe n hn
        exact (h.nodes n).congr hsame hfailure hacls
    · cases hrefusal : mode.refusal? s.unreachable t with
      | none =>
        obtain ⟨acls, hturn, -⟩ := turn_of_none hpending (h.unreachable_eq.symm ▸ hrefusal)
        rw [hturn]
        exact h.calls_turn hpending (SyncMode.tried_cons_of_none hrefusal)
      | some e =>
        rw [turn_of_some hpending (h.unreachable_eq.symm ▸ hrefusal)]
        exact h.calls_turn hpending (SyncMode.tried_cons_of_some hrefusal)

theorem run (h : g.OnTrack mode s p) (schedule : List String) :
    (g.run mode schedule).OnTrack mode s p :=
  List.foldlRecOn _ _ h fun _ hg node _ => hg.turn node

variable (h : g.OnTrack mode s p) (hdone : g.IsDone)

include h hdone

theorem acls_of_isDone (t : AclTarget) : g.device.acls.get? t =
    mode.reviseBy (mode.accepted s.unreachable (p.targetsOf t.node)) t (s.acls.get? t) := by
  rw [← (h.nodes t.node).acls_eq t rfl, hdone]
  rfl

theorem failure_of_isDone (node : String) :
    g.failure? node = mode.failure? s.unreachable (p.targetsOf node) := by
  rw [← (h.nodes node).failure_eq, hdone]
  exact Option.or_none.symm

theorem calls_of_isDone : g.device.calls = s.calls +
    (p.nodes.members.flatMap fun node => mode.tried s.unreachable (p.targetsOf node)).length := by
  have hnothing : (p.nodes.members.flatMap fun node => mode.tried s.unreachable (g.pending node)) =
      [] := by
    refine List.flatMap_eq_nil_iff.mpr fun node _ => ?_
    rw [hdone]
    rfl
  rw [← h.calls_eq, hnothing]
  rfl

/-- However a plan has been carried out, the devices are the same in the end. -/
theorem device_eq_of_isDone (h' : g'.OnTrack mode s p) (hdone' : g'.IsDone) :
    g'.device = g.device := by
  have hacls : g'.device.acls = g.device.acls := SortedMap.ext_get? fun t => by
    rw [h.acls_of_isDone hdone, h'.acls_of_isDone hdone']
  have hbindings := h'.bindings_eq.trans h.bindings_eq.symm
  have hunreachable := h'.unreachable_eq.trans h.unreachable_eq.symm
  have hcalls := (h'.calls_of_isDone hdone').trans (h.calls_of_isDone hdone).symm
  cases hdevice : g.device
  cases hdevice' : g'.device
  simp only [hdevice, hdevice'] at hacls hbindings hunreachable hcalls
  rw [hacls, hbindings, hunreachable, hcalls]

end OnTrack

theorem exists_pending_turn (mode : SyncMode) (g : Progress) (node : String) :
    ∃ left, (g.turn mode node).pending = Function.update g.pending node left ∧
      left.length ≤ (g.pending node).length - 1 := by
  cases hpending : g.pending node with
  | nil =>
    refine ⟨[], ?_, Nat.zero_le _⟩
    rw [turn_of_nil hpending, ← hpending, Function.update_eq_self]
  | cons piece rest =>
    obtain ⟨t, es⟩ := piece
    cases hrefusal : mode.refusal? g.device.unreachable t with
    | some e =>
      rw [turn_of_some hpending hrefusal]
      exact ⟨[], rfl, Nat.zero_le _⟩
    | none =>
      obtain ⟨acls, hturn, -⟩ := turn_of_none hpending hrefusal
      rw [hturn]
      exact ⟨rest, rfl, Nat.le_refl _⟩

/-- A node that has had a turn for each of its lists is done. -/
theorem length_pending_run (mode : SyncMode) (g : Progress) (schedule : List String) (node : String) :
    ((g.run mode schedule).pending node).length ≤ (g.pending node).length - schedule.count node := by
  induction schedule generalizing g with
  | nil => exact Nat.le_refl _
  | cons n rest ih =>
    have hrest := ih (g.turn mode n)
    obtain ⟨left, hturn, hleft⟩ := exists_pending_turn mode g n
    rw [hturn] at hrest
    by_cases hn : node = n
    · subst hn
      rw [Function.update_self] at hrest
      rw [List.count_cons_self]
      exact hrest.trans (by omega)
    · rw [Function.update_of_ne hn] at hrest
      rwa [List.count_cons_of_ne (Ne.symm hn)]

theorem run_replicate_of_nil (h : g.pending node = []) (n : Nat) :
    g.run mode (List.replicate n node) = g := by
  induction n with
  | zero => rfl
  | succ n ih =>
    rw [List.replicate_succ, run, List.foldl_cons, turn_of_nil h]
    exact ih

/-- The turns of one node in a row are what the node does by itself. -/
theorem run_replicate (mode : SyncMode) {pieces : List (AclTarget × List AclEntry)}
    (hpending : g.pending node = pieces) (hfailure : g.failure? node = none) :
    let alone := g.device.syncNode mode pieces
    let g' := g.run mode (List.replicate pieces.length node)
    g'.device = alone.1 ∧ g'.pending = Function.update g.pending node [] ∧
      alone.2.value = (g'.failure? node).elim (.ok ()) .error ∧
      ∀ n, n ≠ node → g'.failure? n = g.failure? n := by
  induction pieces generalizing g with
  | nil =>
    have hsame : g.pending = Function.update g.pending node [] := by
      rw [← hpending, Function.update_eq_self]
    refine ⟨rfl, hsame, ?_, fun _ _ => rfl⟩
    change _ = (g.failure? node).elim _ _
    rw [hfailure]
    rfl
  | cons piece rest ih =>
    obtain ⟨t, es⟩ := piece
    have hrun : g.run mode (List.replicate ((t, es) :: rest).length node) =
        (g.turn mode node).run mode (List.replicate rest.length node) := rfl
    cases hrefusal : mode.refusal? g.device.unreachable t with
    | some e =>
      have hturn := turn_of_some hpending hrefusal
      have hnil : (g.turn mode node).pending node = [] := by
        rw [hturn]
        exact Function.update_self _ _ _
      rw [hrun, run_replicate_of_nil hnil, hturn, Device.syncNode, Device.syncTarget_of_some hrefusal]
      refine ⟨rfl, rfl, ?_, fun n hn => Function.update_of_ne hn _ _⟩
      dsimp only
      rw [Function.update_self]
      rfl
    | none =>
      obtain ⟨acls, hsync, -⟩ := Device.syncTarget_of_none es hrefusal
      have hturn : g.turn mode node =
          { device := { g.device with acls, calls := g.device.calls + 1 }
            pending := Function.update g.pending node rest
            failure? := g.failure? } := by
        simp only [turn, hpending, hsync]
      have hnext : (g.turn mode node).pending node = rest := by
        rw [hturn]
        exact Function.update_self _ _ _
      obtain ⟨hdevice, hleft, hvalue, hothers⟩ := ih hnext (by rw [hturn]; exact hfailure)
      rw [hrun, Device.syncNode, hsync]
      rw [hturn] at hdevice hleft hvalue hothers ⊢
      refine ⟨hdevice, ?_, hvalue, hothers⟩
      rw [hleft]
      exact Function.update_idem _ _ _

/-- The nodes one after another are what a plan does. -/
theorem run_flatMap_replicate (mode : SyncMode) (g : Progress) (nodes : List String)
    (hnodes : nodes.Nodup) (hfailure : ∀ node ∈ nodes, g.failure? node = none) :
    let inTurn := g.device.syncNodes mode (nodes.map g.pending)
    let g' := g.run mode (nodes.flatMap fun node => List.replicate (g.pending node).length node)
    g'.device = inTurn.1 ∧ (∀ node ∈ nodes, g'.pending node = []) ∧
      (∀ node, node ∉ nodes →
        g'.pending node = g.pending node ∧ g'.failure? node = g.failure? node) ∧
      inTurn.2.value = (nodes.findSome? g'.failure?).elim (.ok ()) .error := by
  induction nodes generalizing g with
  | nil =>
    refine ⟨rfl, fun _ h => ?_, fun _ _ => ⟨rfl, rfl⟩, rfl⟩
    cases h
  | cons node rest ih =>
    obtain ⟨hnode, hrest⟩ := List.nodup_cons.mp hnodes
    have hne : ∀ n ∈ rest, n ≠ node := fun n hn heq => hnode (heq ▸ hn)
    obtain ⟨hdevice, hpending, hvalue, hothers⟩ :=
      run_replicate mode (Eq.refl (g.pending node)) (hfailure node List.mem_cons_self)
    generalize hfirst : g.run mode (List.replicate (g.pending node).length node) = g₁ at *
    have hleft : ∀ n ∈ rest, g.pending n = g₁.pending n := fun n hn => by
      rw [hpending, Function.update_of_ne (hne n hn)]
    have hturns : (node :: rest).flatMap (fun n => List.replicate (g.pending n).length n) =
        List.replicate (g.pending node).length node ++
          rest.flatMap fun n => List.replicate (g₁.pending n).length n := by
      rw [List.flatMap_cons]
      refine congrArg _ (List.flatMap_congr fun n hn => ?_)
      rw [hleft n hn]
    have hrun : g.run mode ((node :: rest).flatMap fun n => List.replicate (g.pending n).length n) =
        g₁.run mode (rest.flatMap fun n => List.replicate (g₁.pending n).length n) := by
      rw [hturns, run, List.foldl_append, ← hfirst]
      rfl
    obtain ⟨hdevice', hdone, hsame, hvalue'⟩ := ih g₁ hrest fun n hn => by
      rw [hothers n (hne n hn)]
      exact hfailure n (List.mem_cons_of_mem node hn)
    obtain ⟨hnodeDone, hnodeFailure⟩ := hsame node hnode
    have hparts : rest.map g.pending = rest.map g₁.pending := List.map_congr_left hleft
    dsimp only
    rw [hrun, List.map_cons, Device.syncNodes, hparts]
    dsimp only
    rw [← hdevice, hvalue, hvalue', List.findSome?_cons, hnodeFailure]
    refine ⟨hdevice', fun n hn => ?_, fun n hn => ?_, ?_⟩
    · rcases List.mem_cons.mp hn with rfl | hn
      · rw [hnodeDone, hpending, Function.update_self]
      · exact hdone n hn
    · obtain ⟨hn, hnotRest⟩ := not_or.mp (mt List.mem_cons.mpr hn)
      obtain ⟨hsamePending, hsameFailure⟩ := hsame n hnotRest
      rw [hsamePending, hsameFailure, hpending, Function.update_of_ne hn, hothers n hn]
      exact ⟨rfl, rfl⟩
    · cases g₁.failure? node <;> rfl

/-- Carrying out a plan is one of the ways in which the nodes can get their turns. -/
theorem exists_schedule (mode : SyncMode) (s : Device) (p : Plan) :
    ∃ schedule, let g := (start s p).run mode schedule
      g.IsDone ∧ g.device = (s.syncNodes mode p.byNode).1 ∧
        (s.syncNodes mode p.byNode).2.value =
          (p.nodes.members.findSome? g.failure?).elim (.ok ()) .error := by
  let schedule := p.nodes.members.flatMap fun node => List.replicate (p.targetsOf node).length node
  obtain ⟨hdevice, hdone, hsame, hvalue⟩ := run_flatMap_replicate mode (start s p) p.nodes.members
    (SortedMap.nodup_keys p.nodes) fun _ _ => rfl
  refine ⟨schedule, fun node => ?_, ?_, ?_⟩
  · by_cases hnode : node ∈ p.nodes.members
    · exact hdone node hnode
    · exact (hsame node hnode).1.trans (not_not.mp (mt Plan.mem_nodes.mpr hnode))
  · rw [Plan.byNode_eq]
    exact hdevice
  · rw [Plan.byNode_eq]
    exact hvalue

theorem isDone_of_count {schedule : List String}
    (h : ∀ node, (p.targetsOf node).length ≤ schedule.count node) :
    ((start s p).run mode schedule).IsDone := by
  intro node
  have hlength := length_pending_run mode (start s p) schedule node
  have hstart : (start s p).pending node = p.targetsOf node := rfl
  rw [hstart, Nat.sub_eq_zero_of_le (h node)] at hlength
  exact List.length_eq_zero_iff.mp (Nat.le_zero.mp hlength)

end Progress

/-- Carrying out a plan changes nothing on nodes that cannot be reached and on nodes without a part in the
plan. On any other node just the lists of its part are revised, by name, up to the first malformed one
if entries are written. Nothing is bound, each list that is tried costs one request, and the outcome is
the failure of the first node that fails. None of this depends on the order in which the nodes get
their turns. -/
theorem sync_isolates_nodes (r : Renderer) (mode : SyncMode) (p : Plan) :
    let before := r.device
    let synced := r.sync mode p
    let after := synced.renderer.device
    let accepted (node : String) := mode.accepted before.unreachable (p.targetsOf node)
    let failure? (node : String) := mode.failure? before.unreachable (p.targetsOf node)
    (∀ t : AclTarget, before.unreachable.mem t.node = true ∨ p.targetsOf t.node = [] →
      after.acls.get? t = before.acls.get? t) ∧
      (∀ node, (p.targetsOf node).Pairwise fun a b => compare a.1.name b.1.name = .lt) ∧
      (∀ node, before.unreachable.mem node = false → accepted node =
        if mode = .write then
          (p.targetsOf node).takeWhile fun piece => (parseAclName piece.1.name).isSome
        else p.targetsOf node) ∧
      (∀ (t : AclTarget) es, (t, es) ∈ accepted t.node →
        after.acls.get? t = mode.revise t es (before.acls.get? t)) ∧
      (∀ t : AclTarget, t ∉ (accepted t.node).map (·.1) → after.acls.get? t = before.acls.get? t) ∧
      after.bindings = before.bindings ∧ after.unreachable = before.unreachable ∧
      (synced.outcome.value = .ok () ↔ ∀ node, failure? node = none) ∧
      (∀ e, synced.outcome.value = .error (.write e) ↔
        p.nodes.members.findSome? failure? = some e) ∧
      after.calls = before.calls + (p.nodes.members.flatMap fun node =>
        mode.tried before.unreachable (p.targetsOf node)).length ∧
      ∀ schedule, let run := (Progress.start before p).run mode schedule
        (run.IsDone → run.device = after ∧ ∀ node, run.failure? node = failure? node) ∧
          ((∀ node, (p.targetsOf node).length ≤ schedule.count node) → run.IsDone) := by
  intro before synced after accepted failure?
  obtain ⟨schedule, hdone, hdevice, hvalue⟩ := Progress.exists_schedule mode before p
  have htrack := (Progress.onTrack_start mode before p).run schedule
  generalize (Progress.start before p).run mode schedule = g at hdone hdevice hvalue htrack
  have hafter : after = g.device := hdevice.symm
  have hacls (t : AclTarget) : after.acls.get? t =
      mode.reviseBy (accepted t.node) t (before.acls.get? t) := by
    rw [hafter]
    exact htrack.acls_of_isDone hdone t
  have hfailures : g.failure? = failure? := funext fun node => htrack.failure_of_isDone hdone node
  have houtcome : synced.outcome.value =
      Except.mapError .write ((p.nodes.members.findSome? failure?).elim (.ok ()) .error) := by
    rw [← hfailures, ← hvalue]
    rfl
  have hnever : p.nodes.members.findSome? failure? = none ↔ ∀ node, failure? node = none :=
    SyncMode.findSome?_failure?_eq_none_iff
  refine ⟨fun t ht => ?_, p.ascending_targetsOf, fun node hnode => SyncMode.accepted_of_reachable hnode,
    fun t es hmem => ?_, fun t ht => ?_, ?_, ?_, ?_, fun e => ?_, ?_, fun schedule => ⟨fun hdone' => ?_,
    fun hturns => Progress.isDone_of_count hturns⟩⟩
  · have hnone : accepted t.node = [] := by
      rcases ht with hnode | hnil
      · exact SyncMode.accepted_of_unreachable hnode
      · change mode.accepted _ (p.targetsOf t.node) = []
        rw [hnil]
        rfl
    rw [hacls, hnone]
    rfl
  · have hnodup : ((accepted t.node).map (·.1)).Nodup :=
      (p.nodup_targetsOf t.node).sublist ((SyncMode.accepted_sublist _ _ _).map _)
    rw [hacls, SyncMode.reviseBy_of_mem hnodup hmem]
  · rw [hacls, SyncMode.reviseBy_of_not_mem ht]
  · rw [hafter]
    exact htrack.bindings_eq
  · rw [hafter]
    exact htrack.unreachable_eq
  · rw [houtcome, ← hnever]
    cases p.nodes.members.findSome? failure? <;> simp [Except.mapError]
  · rw [houtcome]
    cases p.nodes.members.findSome? failure? <;> simp [Except.mapError]
  · rw [hafter]
    exact htrack.calls_of_isDone hdone
  · have htrack' := (Progress.onTrack_start mode before p).run schedule
    rw [hafter]
    exact ⟨htrack.device_eq_of_isDone hdone htrack' hdone', htrack'.failure_of_isDone hdone'⟩

/-- Of three nodes the first cannot be reached, the second comes across a malformed name between two
lists, and the third has one list. The failure of the first is reported, the second gets the first of
its lists only, the third gets its list, and all of it is the same if the third goes first. -/
theorem sync_isolates_nodes_three :
    let entry : AclEntry := ⟨"any", { protocol := .other 0 }, .permit⟩
    let p : Plan := .ofList [(⟨"a", "tap0INGRESS"⟩, [entry]), (⟨"b", "eth0INGRESS"⟩, [entry]),
      (⟨"b", "oops"⟩, [entry]), (⟨"b", "tap0INGRESS"⟩, [entry]), (⟨"c", "tap0EGRESS"⟩, [entry])]
    let r : Renderer := { device := { unreachable := .ofMembers ["a"] } }
    let synced := r.sync .write p
    let device := synced.renderer.device
    synced.outcome.value = .error (.write ⟨"a", "write_entries", "node unreachable"⟩) ∧
      device.calls = 4 ∧
      device.acls.get? ⟨"b", "eth0INGRESS"⟩ = some (.ofInterface "eth0" .ingress [entry]) ∧
      device.acls.get? ⟨"b", "tap0INGRESS"⟩ = none ∧
      device.acls.get? ⟨"c", "tap0EGRESS"⟩ = some (.ofInterface "tap0" .egress [entry]) ∧
      ((Progress.start r.device p).run .write ["c", "b", "b", "b", "a"]).device = device := by
  intro entry p r synced device
  obtain ⟨-, -, -, hrevised, hkept, -, -, -, herror, hcalls, hturns⟩ := sync_isolates_nodes r .write p
  refine ⟨(herror _).mpr (by decide +kernel), hcalls.trans (by decide +kernel), ?_, ?_, ?_, ?_⟩
  · exact (hrevised ⟨"b", "eth0INGRESS"⟩ [entry] (by decide +kernel)).trans (by decide +kernel)
  · exact (hkept ⟨"b", "tap0INGRESS"⟩ (by decide +kernel)).trans (by decide +kernel)
  · exact (hrevised ⟨"c", "tap0EGRESS"⟩ [entry] (by decide +kernel)).trans (by decide +kernel)
  · obtain ⟨hsame, hdone⟩ := hturns ["c", "b", "b", "b", "a"]
    refine (hsame (hdone fun node => ?_)).1
    have hnodes : p.nodes.members = ["a", "b", "c"] := by decide +kernel
    by_cases hnode : node ∈ p.nodes.members
    · rw [hnodes] at hnode
      have hturn : ∀ n ∈ ["a", "b", "c"],
          (p.targetsOf n).length ≤ ["c", "b", "b", "b", "a"].count n := by
        decide +kernel
      exact hturn node hnode
    · rw [not_not.mp (mt Plan.mem_nodes.mpr hnode)]
      exact Nat.zero_le _

end GroupPolicy

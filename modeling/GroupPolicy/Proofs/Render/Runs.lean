import GroupPolicy.Proofs.Render.Colocation
import GroupPolicy.Proofs.Render.Plans

namespace GroupPolicy

/-- A plan that a renderer has made for a change. -/
structure IssuedPlan where
  plan : Plan
  /-- Which renderer has made it, in which context and for which change. -/
  issued : ∃ (r : Renderer) (c : Context) (ch : Change), plan = (r.plan c ch).outcome.value

namespace IssuedPlan

theorem isAddressed (p : IssuedPlan) : p.plan.IsAddressed := by
  obtain ⟨plan, r, c, ch, rfl⟩ := p
  exact Change.isAddressed_plan _ _ _ _

/-- Every planned entry is one of a policy. -/
theorem mem_entries {p : IssuedPlan} {t : AclTarget} {e : AclEntry} (h : e ∈ p.plan.getD t []) :
    ∃ (policy : AppliedPolicy) (owner peer : Endpoint) (d : AclDirection),
      e ∈ policy.entries owner peer d := by
  obtain ⟨plan, r, c, ch, rfl⟩ := p
  obtain ⟨k, -, owner, -, l, -, -, d, -, hselected⟩ := Change.mem_plan.mp h
  obtain ⟨-, peer, -, policy, -, -, he⟩ := Context.mem_selectedEntries.mp hselected
  exact ⟨policy, owner, peer, d, he⟩

end IssuedPlan

/-- What a renderer can be asked to do. -/
inductive Operation where
  /-- To have the grouping of a context in use. -/
  | regroup (c : Context)
  /-- To make the lists of an endpoint without writing them. -/
  | resolve (c : Context) (k : EndpointKey)
  /-- To write the lists of an endpoint. -/
  | update (c : Context) (k : EndpointKey)
  /-- To write the lists of the peers of an endpoint. -/
  | updatePeers (c : Context) (k : EndpointKey)
  /-- To make a plan for a change. -/
  | plan (c : Context) (ch : Change)
  /-- To carry out a plan. -/
  | sync (mode : SyncMode) (p : IssuedPlan)

namespace Renderer

/-- The renderer after an operation. -/
def perform (r : Renderer) : Operation → Renderer
  | .regroup c => (r.regroup c).1
  | .resolve c k => (r.resolveAcls c k).renderer
  | .update c k => (r.update c k).renderer
  | .updatePeers c k => (r.updatePeers c k).renderer
  | .plan c ch => (r.plan c ch).renderer
  | .sync mode p => (r.sync mode p.plan).renderer

/-- The renderer after a run. -/
def run (r : Renderer) (ops : List Operation) : Renderer := ops.foldl perform r

/-- To resolve an endpoint is at most to ask for the grouping of the context. -/
theorem renderer_resolveAcls (r : Renderer) (c : Context) (k : EndpointKey) :
    (r.resolveAcls c k).renderer = r ∨ (r.resolveAcls c k).renderer = (r.regroup c).1 := by
  unfold resolveAcls
  cases c.endpoint? k with
  | none => exact .inl rfl
  | some e =>
    dsimp only
    cases e.resolveLocation with
    | error cause => exact .inl rfl
    | ok l => exact .inr rfl

theorem device_resolveAcls (r : Renderer) (c : Context) (k : EndpointKey) :
    (r.resolveAcls c k).renderer.device = r.device := by
  rcases r.renderer_resolveAcls c k with hsame | hregrouped
  · rw [hsame]
  · rw [hregrouped]
    rfl

/-- Beyond what resolving an endpoint does, an update changes nothing but the devices. -/
theorem renderer_update (r : Renderer) (c : Context) (k : EndpointKey) :
    ∃ device, (r.update c k).renderer = { (r.resolveAcls c k).renderer with device } := by
  unfold update
  dsimp only
  split
  · exact ⟨_, rfl⟩
  · split
    · exact ⟨_, rfl⟩
    · exact ⟨_, rfl⟩

/-- Endpoints are updated one after another, whether or not earlier updates fail. -/
theorem renderer_updateAll (r : Renderer) (c : Context) (ks : List EndpointKey) :
    (r.updateAll c ks).renderer = ks.foldl (fun r k => (r.update c k).renderer) r := by
  induction ks generalizing r with
  | nil => rfl
  | cons k rest ih =>
    rw [List.foldl_cons, ← ih]
    rfl

theorem perform_updatePeers (r : Renderer) (c : Context) (k : EndpointKey) :
    r.perform (.updatePeers c k) =
      ((c.table.peers k).map (·.1)).foldl (fun r j => (r.update c j).renderer) r :=
  r.renderer_updateAll c _

end Renderer

end GroupPolicy

import GroupPolicy.Proofs.Policy.Sample
import GroupPolicy.Proofs.Render.Runs

namespace GroupPolicy

/-- The contexts that an operation is about. -/
def Operation.contexts : Operation → List Context
  | .regroup c => [c]
  | .resolve c _ => [c]
  | .update c _ => [c]
  | .updatePeers c _ => [c]
  | .plan c _ => [c]
  | .sync _ _ => []

namespace Grouping

/-- A grouping that has never been made, or that of one of the contexts that have been seen. -/
def IsOf (seen : Context → Prop) (g : Grouping) : Prop :=
  g = {} ∨ ∃ c, seen c ∧ g = .ofContext c

namespace IsOf

variable {seen : Context → Prop} {g : Grouping} {c : Context}

theorem published_refresh (h : g.IsOf seen) (hc : seen c) : (g.refresh c).published.IsOf seen := by
  rcases g.published_refresh c with hsame | hmade
  · rwa [hsame]
  · exact .inr ⟨c, hc, hmade⟩

/-- What is handed out is the published grouping or a new one, and either was made from a context. -/
theorem current_refresh (h : g.IsOf seen) (hc : seen c) :
    ∃ c', seen c' ∧ c'.version = c.version ∧ (g.refresh c).current = .ofContext c' := by
  rw [Grouping.current_refresh]
  split
  next hversion =>
    rcases h with rfl | ⟨c', hc', rfl⟩
    · cases hversion
    · exact ⟨c', hc', Option.some.inj hversion, rfl⟩
  · exact ⟨c, hc, rfl, rfl⟩

end IsOf

end Grouping

namespace Renderer

/-- A renderer with some settings that has been asked about some contexts. -/
structure HasSeen (settings : Settings) (seen : Context → Prop) (r : Renderer) : Prop where
  settings_eq : r.settings = settings
  grouping : r.grouping.IsOf seen

variable {settings : Settings} {seen : Context → Prop} {r r' : Renderer} {c : Context}

namespace HasSeen

theorem regroup (h : r.HasSeen settings seen) (hc : seen c) :
    (r.regroup c).1.HasSeen settings seen where
  settings_eq := h.settings_eq
  grouping := h.grouping.published_refresh hc

theorem resolveAcls (h : r.HasSeen settings seen) (hc : seen c) (k : EndpointKey) :
    (r.resolveAcls c k).renderer.HasSeen settings seen := by
  rcases r.renderer_resolveAcls c k with hsame | hregrouped
  · rwa [hsame]
  · rw [hregrouped]
    exact h.regroup hc

theorem update (h : r.HasSeen settings seen) (hc : seen c) (k : EndpointKey) :
    (r.update c k).renderer.HasSeen settings seen := by
  obtain ⟨hsettings, hgrouping⟩ := h.resolveAcls hc k
  obtain ⟨device, hupdate⟩ := r.renderer_update c k
  rw [hupdate]
  exact ⟨hsettings, hgrouping⟩

theorem perform (h : r.HasSeen settings seen) (op : Operation) (hseen : ∀ c ∈ op.contexts, seen c) :
    (r.perform op).HasSeen settings seen := by
  cases op with
  | regroup c => exact h.regroup (hseen c List.mem_cons_self)
  | resolve c k => exact h.resolveAcls (hseen c List.mem_cons_self) k
  | update c k => exact h.update (hseen c List.mem_cons_self) k
  | updatePeers c k =>
    rw [perform_updatePeers]
    exact List.foldlRecOn _ _ h fun r hr j _ => hr.update (hseen c List.mem_cons_self) j
  | plan c ch => exact h.regroup (hseen c List.mem_cons_self)
  | sync mode p => exact ⟨h.settings_eq, h.grouping⟩

theorem run (h : r.HasSeen settings seen) (ops : List Operation)
    (hseen : ∀ op ∈ ops, ∀ c ∈ op.contexts, seen c) : (r.run ops).HasSeen settings seen :=
  List.foldlRecOn _ _ h fun _ hr op hop => hr.perform op (hseen op hop)

/-- A context that agrees with those seen of its version gets its own grouping. -/
theorem current_eq (h : r.HasSeen settings seen)
    (hendpoints : ∀ c', seen c' → c'.version = c.version → c'.endpoints = c.endpoints) :
    (r.regroup c).2 = .ofContext c := by
  -- To ask about the context does no harm, since it agrees with itself.
  have hgrouping : r.grouping.IsOf fun c' => seen c' ∨ c' = c :=
    h.grouping.imp_right fun ⟨c', hc', hmade⟩ => ⟨c', .inl hc', hmade⟩
  obtain ⟨c', hc', hversion, hcurrent⟩ := hgrouping.current_refresh (.inr rfl)
  have hsame : c'.endpoints = c.endpoints := by
    rcases hc' with hc' | rfl
    · exact hendpoints c' hc' hversion
    · rfl
  exact hcurrent.trans (Grouping.ofContext_congr hversion.symm hsame.symm).symm

end HasSeen

theorem hasSeen_new (settings : Settings) (device : Device) (seen : Context → Prop) :
    ({ settings, device } : Renderer).HasSeen settings seen where
  settings_eq := rfl
  grouping := .inl rfl

/-- The lists of an endpoint depend on a renderer by its settings and the grouping that it hands out. -/
theorem outcome_resolveAcls_congr (hsettings : r'.settings = r.settings)
    (hcurrent : (r'.regroup c).2 = (r.regroup c).2) (k : EndpointKey) :
    (r'.resolveAcls c k).outcome = (r.resolveAcls c k).outcome := by
  have hkept (r : Renderer) : (r.regroup c).1.settings = r.settings := rfl
  unfold resolveAcls
  cases c.endpoint? k with
  | none => rfl
  | some e =>
    dsimp only
    cases e.resolveLocation with
    | error cause => rfl
    | ok l =>
      dsimp only
      rw [hcurrent, hkept, hkept, hsettings]

end Renderer

/-- Whatever a renderer has been asked before, about contexts of whichever versions and in whichever
order: if those of the version of a context have its endpoints, then the lists and the plans that the
renderer makes in the context, with all notices, are those of a new renderer. -/
theorem grouping_invisible (settings : Settings) (device : Device) (ops : List Operation) {c : Context}
    (hendpoints : ∀ op ∈ ops, ∀ c' ∈ op.contexts, c'.version = c.version → c'.endpoints = c.endpoints) :
    let r := ({ settings, device } : Renderer).run ops
    let new : Renderer := { settings }
    (∀ k, (r.resolveAcls c k).outcome = (new.resolveAcls c k).outcome) ∧
      ∀ ch, (r.plan c ch).outcome = (new.plan c ch).outcome := by
  intro r new
  have hseen : r.HasSeen settings fun c' => ∃ op ∈ ops, c' ∈ op.contexts :=
    (Renderer.hasSeen_new settings device _).run ops fun op hop c' hc' => ⟨op, hop, hc'⟩
  have hcurrent : (r.regroup c).2 = (new.regroup c).2 :=
    hseen.current_eq fun c' ⟨op, hop, hc'⟩ hversion => hendpoints op hop c' hc' hversion
  refine ⟨fun k => Renderer.outcome_resolveAcls_congr hseen.settings_eq hcurrent k, fun ch => ?_⟩
  change ch.plan c (r.regroup c).2 r.settings = ch.plan c (new.regroup c).2 new.settings
  rw [hcurrent, hseen.settings_eq]

/-- Once the second server has moved away, by a later version, the earlier context still has both servers
on one interface. -/
theorem grouping_invisible_outdated :
    let c := (Sample.snapshot [] [Sample.row "10.0.0.1" "10.0.0.9" "http" .provider,
      Sample.row "10.0.0.2" "10.0.0.9" "ssh" .provider]).context
    let moved := (c.addEndpoint (Sample.endpoint "10.0.0.2" "tap1")).withVersion 2
    let r := ({} : Renderer).run [.regroup c, .update moved Sample.server.key]
    let names (c : Context) : List String :=
      match (r.resolveAcls c Sample.server.key).outcome.value with
      | .ok acls => acls.ingress.entries.map AclEntry.name
      | .error _ => []
    r.grouping.version = some 2 ∧ names moved = ["http_10.0.0.1_10.0.0.9"] ∧
      names c = ["http_10.0.0.1_10.0.0.9", "ssh_10.0.0.2_10.0.0.9"] := by
  intro c moved r names
  have hendpoints : ∀ op ∈ [Operation.regroup c, .update moved Sample.server.key],
      ∀ c' ∈ op.contexts, c'.version = c.version → c'.endpoints = c.endpoints := by
    intro op hop c' hc' hversion
    rcases List.mem_cons.mp hop with rfl | hop
    · obtain rfl := List.mem_singleton.mp hc'
      rfl
    · obtain rfl := List.mem_singleton.mp hop
      obtain rfl := List.mem_singleton.mp hc'
      exact absurd hversion (by decide +kernel)
  obtain ⟨hresolved, -⟩ := grouping_invisible {} {} _ hendpoints
  refine ⟨by decide +kernel, by decide +kernel, ?_⟩
  change (match (r.resolveAcls c Sample.server.key).outcome.value with
    | .ok acls => acls.ingress.entries.map AclEntry.name
    | .error _ => []) = _
  rw [hresolved]
  decide +kernel

end GroupPolicy

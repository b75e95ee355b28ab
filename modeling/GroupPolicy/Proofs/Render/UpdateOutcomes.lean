import GroupPolicy.Proofs.Policy.Sample
import GroupPolicy.Proofs.Render.UpdateCases

namespace GroupPolicy

namespace Context

/-- The endpoint whose lists are left on an interface when endpoints are updated in turn. -/
def lastInstalled? (c : Context) (settings : Settings) (unreachable : SortedSet String)
    (ks : List EndpointKey) (l : Location) : Option Endpoint :=
  if unreachable.mem l.node then none else c.lastOn? settings ks l

variable {c : Context} {settings : Settings} {unreachable : SortedSet String} {k : EndpointKey}
  {l : Location}

theorem lastInstalled?_singleton : c.lastInstalled? settings unreachable [k] l =
    if unreachable.mem l.node then none else c.renderedOn? settings l k := by
  have hsingle : c.lastOn? settings [k] l = c.renderedOn? settings l k := by
    rw [← List.nil_append [k], lastOn?_concat]
    exact Option.or_none
  rw [lastInstalled?, hsingle]

theorem lastInstalled?_concat (ks : List EndpointKey) :
    c.lastInstalled? settings unreachable (ks ++ [k]) l =
      (c.lastInstalled? settings unreachable [k] l).or
        (c.lastInstalled? settings unreachable ks l) := by
  rw [lastInstalled?_singleton, lastInstalled?, lastInstalled?]
  split
  · rfl
  · exact lastOn?_concat

/-- An update that installs lists is the last one on its own interface, and on no other. -/
theorem lastInstalled?_of_installed {e : Endpoint} (he : c.endpoint? k = some e)
    (hl : e.location? = some l) (hcase : c.updateCase settings unreachable k = .installed) :
    c.lastInstalled? settings unreachable [k] = fun l' => if l' = l then some e else none := by
  obtain ⟨l'', hlocation, hexcluded, hreach⟩ := updateCase_eq_installed_iff.mp hcase
  rw [locationOf?_of_endpoint? he, hl] at hlocation
  obtain rfl := Option.some.inj hlocation
  have hrendered : c.renderedOn? settings l k = some e :=
    renderedOn?_eq_some_iff.mpr ⟨he, hl, hexcluded⟩
  funext l'
  rw [lastInstalled?_singleton]
  by_cases heq : l' = l
  · subst heq
    rw [hreach, if_neg Bool.false_ne_true, hrendered, if_pos rfl]
  · rw [renderedOn?_eq_none hrendered heq, ite_self, if_neg heq]

theorem lastInstalled?_of_not_installed (hcase : c.updateCase settings unreachable k ≠ .installed) :
    c.lastInstalled? settings unreachable [k] = fun _ => none := by
  funext l
  rw [lastInstalled?_singleton, Option.eq_none_iff_forall_ne_some]
  intro e hrendered
  obtain ⟨hreach, hrendered⟩ := Option.ite_none_left_eq_some.mp hrendered
  obtain ⟨he, hl, hexcluded⟩ := renderedOn?_eq_some_iff.mp hrendered
  refine hcase (updateCase_eq_installed_iff.mpr ⟨l, ?_, hexcluded, Bool.not_eq_true _ ▸ hreach⟩)
  rw [locationOf?_of_endpoint? he, hl]

end Context

namespace Renderer

variable {r : Renderer} {c : Context} {k : EndpointKey}

/-- Whether two renderers have the same settings and cannot reach the same nodes. -/
structure AgreesWith (r r' : Renderer) : Prop where
  settings_eq : r'.settings = r.settings
  unreachable_eq : r'.device.unreachable = r.device.unreachable

namespace AgreesWith

variable {r' r'' : Renderer}

theorem refl (r : Renderer) : r.AgreesWith r := ⟨rfl, rfl⟩

theorem trans (h : r.AgreesWith r') (h' : r'.AgreesWith r'') : r.AgreesWith r'' :=
  ⟨h'.settings_eq.trans h.settings_eq, h'.unreachable_eq.trans h.unreachable_eq⟩

theorem update (h : r.AgreesWith r') (c : Context) (k : EndpointKey) :
    r.AgreesWith (r'.update c k).renderer :=
  h.trans ⟨(r'.settings_current_update c k).1, (r'.edited_update c k).unreachable_eq⟩

theorem perform (h : r.AgreesWith r') (op : Operation) : r.AgreesWith (r'.perform op) := by
  cases op with
  | regroup c => exact h.trans ⟨rfl, rfl⟩
  | resolve c k =>
    change r.AgreesWith (r'.resolveAcls c k).renderer
    rcases r'.renderer_resolveAcls c k with hsame | hregrouped
    · rwa [hsame]
    · rw [hregrouped]
      exact h.trans ⟨rfl, rfl⟩
  | update c k => exact h.update c k
  | updatePeers c k =>
    rw [perform_updatePeers]
    exact List.foldlRecOn _ _ h fun r hr j _ => hr.update c j
  | plan c ch => exact h.trans ⟨rfl, rfl⟩
  | sync mode p => exact h.trans ⟨rfl, (r'.edited_sync mode p.isAddressed).1.unreachable_eq⟩

/-- No run of a renderer changes its settings, or which nodes can be reached. -/
theorem run (h : r.AgreesWith r') (ops : List Operation) : r.AgreesWith (r'.run ops) :=
  List.foldlRecOn _ _ h fun _ hr op _ => hr.perform op

theorem updateAll (h : r.AgreesWith r') (c : Context) (ks : List EndpointKey) :
    r.AgreesWith (r'.updateAll c ks).renderer := by
  rw [renderer_updateAll]
  exact List.foldlRecOn _ _ h fun r hr k _ => hr.update c k

end AgreesWith

theorem listsOf_update (r : Renderer) (c : Context) (k : EndpointKey) :
    (r.update c k).renderer.listsOf c = r.listsOf c := by
  obtain ⟨hsettings, hcurrent⟩ := r.settings_current_update c k
  funext e d
  rw [listsOf, hsettings, hcurrent, listsOf]

/-- An update replaces the lists of at most one interface. -/
theorem overwritten_update (r : Renderer) (c : Context) (k : EndpointKey) :
    r.device.Overwritten (r.update c k).renderer.device fun l =>
      (c.lastInstalled? r.settings r.device.unreachable [k] l).map (r.listsOf c) := by
  have hcomes := r.comesTo_updateCase c k
  generalize hcase : c.updateCase r.settings r.device.unreachable k = x at hcomes
  by_cases hinstalled : x = .installed
  · subst hinstalled
    obtain ⟨-, -, e, l, he, hl, hoverwritten⟩ := hcomes
    rw [Context.lastInstalled?_of_installed he hl hcase]
    simpa only [apply_ite, Option.map_some, Option.map_none] using hoverwritten
  · rw [Context.lastInstalled?_of_not_installed (hcase ▸ hinstalled)]
    have hdevice : ∃ calls, (r.update c k).renderer.device = { r.device with calls } := by
      cases x with
      | unresolved => exact ⟨_, hcomes.1⟩
      | leftAlone => exact ⟨_, hcomes.1⟩
      | refused => exact ⟨_, hcomes.1⟩
      | installed => exact absurd rfl hinstalled
    obtain ⟨calls, hdevice⟩ := hdevice
    rw [hdevice]
    exact .of_none _ calls

theorem renderer_updateAll_concat (r : Renderer) (c : Context) (ks : List EndpointKey)
    (k : EndpointKey) :
    (r.updateAll c (ks ++ [k])).renderer = ((r.updateAll c ks).renderer.update c k).renderer := by
  rw [renderer_updateAll, renderer_updateAll, List.foldl_append]
  rfl

theorem listsOf_updateAll (r : Renderer) (c : Context) (ks : List EndpointKey) :
    (r.updateAll c ks).renderer.listsOf c = r.listsOf c := by
  induction ks using List.reverseRecOn with
  | nil => rfl
  | append_singleton ks k ih => rw [renderer_updateAll_concat, listsOf_update, ih]

/-- Endpoints that are updated in turn leave every interface with the lists of the last of them that
is installed there. -/
theorem overwritten_updateAll (r : Renderer) (c : Context) (ks : List EndpointKey) :
    r.device.Overwritten (r.updateAll c ks).renderer.device fun l =>
      (c.lastInstalled? r.settings r.device.unreachable ks l).map (r.listsOf c) := by
  induction ks using List.reverseRecOn with
  | nil =>
    have hnone : c.lastInstalled? r.settings r.device.unreachable [] = fun _ => none :=
      funext fun l => ite_self none
    rw [hnone]
    exact .of_none r.device _
  | append_singleton ks k ih =>
    have hlast := (r.updateAll c ks).renderer.overwritten_update c k
    have hagrees := (AgreesWith.refl r).updateAll c ks
    rw [hagrees.settings_eq, hagrees.unreachable_eq, listsOf_updateAll] at hlast
    rw [renderer_updateAll_concat]
    simpa only [Context.lastInstalled?_concat, Option.map_or] using ih.trans hlast

/-- One request for each endpoint that is refused, and four for each that is installed. -/
theorem calls_updateAll (r : Renderer) (c : Context) (ks : List EndpointKey) :
    (r.updateAll c ks).renderer.device.calls = r.device.calls +
      ks.countP (fun k => c.updateCase r.settings r.device.unreachable k = .refused) +
      4 * ks.countP (fun k => c.updateCase r.settings r.device.unreachable k = .installed) := by
  induction ks using List.reverseRecOn with
  | nil => rfl
  | append_singleton ks k ih =>
    have hagrees := (AgreesWith.refl r).updateAll c ks
    have hlast := ((r.updateAll c ks).renderer.comesTo_updateCase c k).calls_eq
    rw [hagrees.settings_eq, hagrees.unreachable_eq] at hlast
    rw [renderer_updateAll_concat, hlast, ih, List.countP_append, List.countP_append,
      List.countP_singleton, List.countP_singleton]
    cases c.updateCase r.settings r.device.unreachable k <;> simp [UpdateCase.calls] <;> omega

/-- The failures of updates in turn are those of the single updates. -/
theorem mem_updateAll {ks : List EndpointKey} {cause : RenderError} :
    (k, cause) ∈ (r.updateAll c ks).outcome.value ↔
      k ∈ ks ∧ c.UpdateFails r.settings r.device.unreachable k cause := by
  induction ks generalizing r with
  | nil => simp [updateAll]
  | cons j rest ih =>
    have hagrees := (AgreesWith.refl r).update c j
    have hrest := ih (r := (r.update c j).renderer)
    rw [hagrees.settings_eq, hagrees.unreachable_eq] at hrest
    unfold updateAll
    dsimp only
    cases hvalue : (r.update c j).outcome.value with
    | ok =>
      have hnot (hj : k = j) : ¬c.UpdateFails r.settings r.device.unreachable k cause := by
        rw [hj, ← update_eq_error_iff, hvalue]
        intro hsame
        cases hsame
      rw [hrest, List.mem_cons]
      tauto
    | error cause' =>
      have hfirst : (k, cause) = (j, cause') ↔
          k = j ∧ c.UpdateFails r.settings r.device.unreachable k cause := by
        rw [Prod.mk.injEq]
        refine and_congr_right fun hj => ?_
        rw [hj, ← update_eq_error_iff, hvalue, Except.error.injEq, eq_comm]
      rw [List.mem_cons, hrest, hfirst, List.mem_cons]
      tauto

theorem keys_updateAll_sublist (r : Renderer) (c : Context) (ks : List EndpointKey) :
    ((r.updateAll c ks).outcome.value.map (·.1)).Sublist ks := by
  induction ks generalizing r with
  | nil => exact List.Sublist.refl _
  | cons j rest ih =>
    unfold updateAll
    dsimp only
    split
    · exact (ih _).cons j
    · exact (ih _).cons_cons j

end Renderer

/-- Whatever a renderer has been asked to do before, what an update comes to depends on nothing but the
key, the context, the settings and the nodes that cannot be reached. So of the peers of an endpoint
exactly those fail, by key, that are not known, attached nowhere, or attached to an interface in use of
a node that cannot be reached. Every other peer on an interface in use is installed in its turn, whichever
endpoints have been updated before, and each interface is left with the lists of the last peer installed
on it. -/
theorem updates_independent (r : Renderer) (ops : List Operation) (c : Context) (k : EndpointKey) :
    let outcome := c.updateCase r.settings r.device.unreachable
    let before := r.run ops
    let peers := (c.table.peers k).map (·.1)
    let updated := before.updatePeers c k
    (∀ x, before.ComesTo c k x ↔ x = outcome k) ∧
      ((updated.outcome.value.map (·.1)).Pairwise fun p q => compare p q = .lt) ∧
      (∀ p cause, (p, cause) ∈ updated.outcome.value ↔
        p ∈ peers ∧ c.UpdateFails r.settings r.device.unreachable p cause) ∧
      (∀ done p x, (before.updateAll c done).renderer.ComesTo c p x ↔ x = outcome p) ∧
      before.device.Overwritten updated.renderer.device (fun l =>
        (c.lastInstalled? r.settings r.device.unreachable peers l).map (before.listsOf c)) ∧
      updated.renderer.device.calls = before.device.calls +
        peers.countP (fun p => outcome p = .refused) +
        4 * peers.countP (fun p => outcome p = .installed) := by
  intro outcome before peers updated
  have hagrees : r.AgreesWith before := (Renderer.AgreesWith.refl r).run ops
  have hcomes {r' : Renderer} (h : r.AgreesWith r') (p : EndpointKey) (x : UpdateCase) :
      r'.ComesTo c p x ↔ x = outcome p := by
    rw [Renderer.comesTo_iff, h.settings_eq, h.unreachable_eq]
  refine ⟨hcomes hagrees k, ?_, fun p cause => ?_, fun done p => ?_, ?_, ?_⟩
  · exact (c.table.row k).ascending_keys.sublist (before.keys_updateAll_sublist c peers)
  · rw [← hagrees.settings_eq, ← hagrees.unreachable_eq]
    exact Renderer.mem_updateAll
  · exact hcomes (hagrees.updateAll c done) p
  · rw [← hagrees.settings_eq, ← hagrees.unreachable_eq]
    exact before.overwritten_updateAll c peers
  · have hcalls := before.calls_updateAll c peers
    rwa [hagrees.settings_eq, hagrees.unreachable_eq] at hcalls

/-- A server with four peers, of which one shares its excluded interface, one is not known, one is on a
node that cannot be reached, and one is a client that has been updated before. The second and the third
fail, the first does not, and the client comes last and is installed once more. -/
theorem updates_independent_four_peers :
    let remote : Endpoint :=
      { Sample.endpoint "10.0.0.8" "tap0" with location := some ⟨some "other", some "tap0"⟩ }
    let rows := ["10.0.0.2", "10.0.0.7", "10.0.0.8", "10.0.0.9"].map fun peer =>
      Sample.row "10.0.0.1" peer "http" .provider
    let c := (Sample.snapshot [Sample.subnet] rows).context.addEndpoint remote
    let r : Renderer :=
      { settings := { excluded := [⟨"node", "tap0"⟩] }
        device := { unreachable := .ofMembers ["other"] } }
    let before := r.run [.update c (Sample.key "10.0.0.9")]
    let updated := before.updatePeers c Sample.server.key
    (∀ cause, (Sample.key "10.0.0.2", cause) ∉ updated.outcome.value) ∧
      (Sample.key "10.0.0.7", .resolve (.unknownEndpoint (Sample.key "10.0.0.7"))) ∈
        updated.outcome.value ∧
      (Sample.key "10.0.0.8", .write ⟨"other", "write_acl", "node unreachable"⟩) ∈
        updated.outcome.value ∧
      (before.updateAll c (["10.0.0.2", "10.0.0.7", "10.0.0.8"].map Sample.key)).renderer.ComesTo c
        (Sample.key "10.0.0.9") .installed := by
  intro remote rows c r before updated
  have hpeers : (c.table.peers Sample.server.key).map (·.1) =
      ["10.0.0.2", "10.0.0.7", "10.0.0.8", "10.0.0.9"].map Sample.key := by
    decide +kernel
  have hleft : c.updateCase r.settings r.device.unreachable (Sample.key "10.0.0.2") = .leftAlone := by
    decide +kernel
  have hunknown : c.endpoint? (Sample.key "10.0.0.7") = none := by decide +kernel
  have hremote : c.locationOf? (Sample.key "10.0.0.8") = some ⟨"other", "tap0"⟩ := by decide +kernel
  have hclient : c.updateCase r.settings r.device.unreachable (Sample.key "10.0.0.9") =
      .installed := by
    decide +kernel
  obtain ⟨-, -, hfailures, hturn, -⟩ :=
    updates_independent r [.update c (Sample.key "10.0.0.9")] c Sample.server.key
  -- All that is to be computed about the context has been; from here on it is any context.
  clear_value c
  rw [hpeers] at hfailures
  refine ⟨fun cause hmem => ?_, (hfailures _ _).mpr ⟨by simp, .unknown hunknown⟩,
    (hfailures _ _).mpr ⟨by simp, .refused hremote rfl rfl⟩, (hturn _ _ _).mpr hclient.symm⟩
  have hfails := ((hfailures _ cause).mp hmem).2.fails_updateCase
  rw [hleft] at hfails
  cases hfails

/-- A peer on an excluded interface does not fail, but nothing is written for it either. -/
theorem excluded_peer_not_written :
    let settings : Settings := { excluded := [⟨"node", "tap1"⟩] }
    let updated := ({ settings := settings } : Renderer).updatePeers Sample.before Sample.server.key
    Sample.key "10.0.0.9" ∈ (Sample.before.table.peers Sample.server.key).map (·.1) ∧
      Sample.before.locationOf? (Sample.key "10.0.0.9") = some ⟨"node", "tap1"⟩ ∧
      updated.outcome.value = [] ∧ updated.renderer.device = {} := by
  intro settings updated
  exact ⟨by decide +kernel, by decide +kernel, by decide +kernel, by decide +kernel⟩

end GroupPolicy

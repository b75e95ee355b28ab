import GroupPolicy.Proofs.Policy.Sample
import GroupPolicy.Proofs.Render.NodeIsolation
import GroupPolicy.Proofs.Render.Plans
import GroupPolicy.Proofs.Render.Upsert

namespace GroupPolicy

namespace Acl

/-- Entries of other names do not notice that an entry is put into their list. -/
theorem filter_putEntry (keep : String → Bool) {e : AclEntry} (h : keep e.name = false)
    (l : List AclEntry) :
    (putEntry e l).filter (fun x => keep x.name) = l.filter fun x => keep x.name := by
  rcases putEntry_cases e l with ⟨-, hput⟩ | ⟨front, x, back, rfl, -, hx, hput⟩
  · rw [hput, List.filter_append, List.filter_cons_of_neg (by simp [h]), List.filter_nil,
      List.append_nil]
  · rw [hput, List.filter_append, List.filter_append, List.filter_cons_of_neg (by simp [h]),
      List.filter_cons_of_neg (by simp [hx, h])]

end Acl

namespace SyncMode

variable {es l : List AclEntry}

/-- After entries have been written, taking them out leaves what taking them out would have left before. -/
theorem remove_write (es l : List AclEntry) :
    SyncMode.remove.edit es (SyncMode.write.edit es l) = SyncMode.remove.edit es l := by
  -- The names that are taken out stay the same while the entries are written one by one.
  have hwritten (part : List AclEntry) (hpart : ∀ e ∈ part, e ∈ es) (l : List AclEntry) :
      SyncMode.remove.edit es (SyncMode.write.edit part l) = SyncMode.remove.edit es l := by
    induction part generalizing l with
    | nil => rfl
    | cons e rest ih =>
      obtain ⟨he, hrest⟩ := List.forall_mem_cons.mp hpart
      have hdropped : (!(es.map AclEntry.name).contains e.name) = false := by
        simpa using ⟨e, he, rfl⟩
      have hput := Acl.filter_putEntry (fun n => !(es.map AclEntry.name).contains n) hdropped l
      exact (ih hrest (Acl.putEntry e l)).trans hput
  exact hwritten es (fun _ he => he) l

theorem remove_eq_self (h : ∀ e ∈ es, ∀ x ∈ l, x.name ≠ e.name) : SyncMode.remove.edit es l = l := by
  apply List.filter_eq_self.mpr
  intro x hx
  simp only [Bool.not_eq_true', List.contains_eq_mem, decide_eq_false_iff_not]
  intro hmem
  obtain ⟨e, he, hname⟩ := List.mem_map.mp hmem
  exact h e he x hx hname.symm

end SyncMode

namespace Acl

theorem dropEntries_putEntries (l : Acl) (es : List AclEntry) :
    (l.putEntries es).dropEntries (es.map AclEntry.name) = l.dropEntries (es.map AclEntry.name) :=
  congrArg (fun entries => { l with entries := entries }) (SyncMode.remove_write es l.entries)

theorem dropEntries_eq_self {l : Acl} {es : List AclEntry}
    (h : ∀ e ∈ es, ∀ x ∈ l.entries, x.name ≠ e.name) : l.dropEntries (es.map AclEntry.name) = l :=
  congrArg (fun entries => { l with entries := entries }) (SyncMode.remove_eq_self h)

end Acl

/-- A list that is revised both ways is left as it was, and a new one is left empty. -/
theorem SyncMode.revise_remove_revise_write {t : AclTarget} {interface : String} {d : AclDirection}
    {es : List AclEntry} {old : Option Acl} (hname : parseAclName t.name = some (interface, d))
    (hfresh : ∀ l, old = some l → ∀ e ∈ es, ∀ x ∈ l.entries, x.name ≠ e.name) :
    SyncMode.remove.revise t es (SyncMode.write.revise t es old) =
      some (old.getD (.ofInterface interface d [])) := by
  have hentries : ∀ e ∈ es, ∀ x ∈ (old.getD (.ofInterface interface d [])).entries,
      x.name ≠ e.name := by
    intro e he x hx
    cases old with
    | none => cases hx
    | some l => exact hfresh l rfl e he x hx
  have hwritten : SyncMode.write.revise t es old =
      some ((old.getD (.ofInterface interface d [])).putEntries es) := by
    rw [revise, hname]
  rw [hwritten, revise, Option.map_some, Acl.dropEntries_putEntries, Acl.dropEntries_eq_self hentries]

namespace Plan

variable {p : Plan} {t : AclTarget} {es : List AclEntry}

theorem mem_targetsOf_iff_getD :
    (t, es) ∈ p.targetsOf t.node ↔ p.getD t [] = es ∧ es ≠ [] := by
  rw [mem_targetsOf, SortedMap.getD]
  cases p.get? t with
  | none => simp [eq_comm]
  | some es' => simp

end Plan

namespace Renderer

variable {r : Renderer} {mode : SyncMode} {p : Plan}

/-- A plan of which no part is refused is carried out as a whole: the lists that it has entries for are
revised, and all else stays. -/
theorem sync_of_accepted
    (h : ∀ t, p.getD t [] ≠ [] → mode.refusal? r.device.unreachable t = none) :
    let synced := r.sync mode p
    let after := synced.renderer.device
    synced.outcome.value = .ok () ∧ after.bindings = r.device.bindings ∧
      after.unreachable = r.device.unreachable ∧
      (∀ t, p.getD t [] ≠ [] →
        after.acls.get? t = mode.revise t (p.getD t []) (r.device.acls.get? t)) ∧
      ∀ t, p.getD t [] = [] → after.acls.get? t = r.device.acls.get? t := by
  intro synced after
  obtain ⟨schedule, hdone, hdevice, hvalue⟩ := Progress.exists_schedule mode r.device p
  have htrack := (Progress.onTrack_start mode r.device p).run schedule
  generalize (Progress.start r.device p).run mode schedule = g at hdone hdevice hvalue htrack
  have hafter : after = g.device := hdevice.symm
  have hnone (node : String) : ∀ piece ∈ p.targetsOf node,
      mode.refusal? r.device.unreachable piece.1 = none := by
    rintro ⟨t, es⟩ hpiece
    obtain rfl : t.node = node := Plan.node_of_mem_targetsOf hpiece
    obtain ⟨rfl, hne⟩ := Plan.mem_targetsOf_iff_getD.mp hpiece
    exact h t hne
  have haccepted (node : String) :
      mode.accepted r.device.unreachable (p.targetsOf node) = p.targetsOf node := by
    apply List.takeWhile_eq_self_iff.mpr
    intro piece hpiece
    rw [hnone node piece hpiece, Option.isNone_none]
  have hacls (t : AclTarget) : after.acls.get? t =
      mode.reviseBy (p.targetsOf t.node) t (r.device.acls.get? t) := by
    rw [hafter, htrack.acls_of_isDone hdone, haccepted]
  refine ⟨?_, ?_, ?_, fun t ht => ?_, fun t ht => ?_⟩
  · have hfailures : p.nodes.members.findSome? g.failure? = none := by
      apply List.findSome?_eq_none_iff.mpr
      intro node _
      rw [htrack.failure_of_isDone hdone]
      exact List.findSome?_eq_none_iff.mpr (hnone node)
    change (r.device.syncNodes mode p.byNode).2.value.mapError RenderError.write = _
    rw [hvalue, hfailures]
    rfl
  · rw [hafter]
    exact htrack.bindings_eq
  · rw [hafter]
    exact htrack.unreachable_eq
  · rw [hacls]
    exact SyncMode.reviseBy_of_mem (p.nodup_targetsOf t.node)
      (Plan.mem_targetsOf_iff_getD.mpr ⟨rfl, ht⟩) _
  · rw [hacls]
    apply SyncMode.reviseBy_of_not_mem
    intro hmem
    obtain ⟨⟨t', es⟩, hpiece, rfl⟩ := List.mem_map.mp hmem
    obtain ⟨hes, hne⟩ := Plan.mem_targetsOf_iff_getD.mp hpiece
    exact hne (hes.symm.trans ht)

end Renderer

/-- If none of the nodes that a plan has entries for is out of reach, and none of the lists holds one of the
names planned for it, then writing the plan and taking it out again both succeed. Every list that was
there is left with what it held before, every list that the writing has made is left empty, and no other
list and no binding has changed in between or afterwards. -/
theorem plan_undone (planner r : Renderer) (c : Context) (ch : Change)
    (hreach : ∀ t, (planner.plan c ch).outcome.value.getD t [] ≠ [] →
      r.device.unreachable.mem t.node = false)
    (hfresh : ∀ t l, r.device.acls.get? t = some l →
      ∀ e ∈ (planner.plan c ch).outcome.value.getD t [], ∀ x ∈ l.entries, x.name ≠ e.name) :
    let p := (planner.plan c ch).outcome.value
    let written := r.sync .write p
    let undone := written.renderer.sync .remove p
    let before := r.device
    let between := written.renderer.device
    let after := undone.renderer.device
    written.outcome.value = .ok () ∧ undone.outcome.value = .ok () ∧
      (∀ t l, before.acls.get? t = some l → after.acls.get? t = some l) ∧
      (∀ t l, before.acls.get? t = none → between.acls.get? t = some l →
        after.acls.get? t = some { l with entries := [] }) ∧
      (∀ t, p.getD t [] = [] → between.acls.get? t = before.acls.get? t ∧
        after.acls.get? t = before.acls.get? t) ∧
      between.bindings = before.bindings ∧ after.bindings = before.bindings := by
  intro p written undone before between after
  have haddressed : p.IsAddressed := Change.isAddressed_plan _ _ _ _
  have hname (t : AclTarget) (ht : p.getD t [] ≠ []) :
      ∃ interface d, parseAclName t.name = some (interface, d) := by
    obtain ⟨hmem, -⟩ := (Plan.mem_targetsOf.mp (Plan.mem_targetsOf_iff_getD.mpr ⟨rfl, ht⟩)).2
    obtain ⟨l, d, rfl⟩ := haddressed t (SortedMap.mem_keys_iff.mpr ⟨_, hmem⟩)
    exact ⟨l.interface, d, parseAclName_aclName l.interface d⟩
  have haccepted (mode : SyncMode) (t : AclTarget) (ht : p.getD t [] ≠ []) :
      mode.refusal? r.device.unreachable t = none := by
    obtain ⟨interface, d, hparse⟩ := hname t ht
    simp [SyncMode.refusal?, hreach t ht, hparse]
  obtain ⟨hwritten, hbindings, hunreachable, hplanned, hothers⟩ :=
    Renderer.sync_of_accepted (haccepted .write)
  have haccepted' (t : AclTarget) (ht : p.getD t [] ≠ []) :
      SyncMode.remove.refusal? between.unreachable t = none := by
    rw [hunreachable]
    exact haccepted .remove t ht
  obtain ⟨hundone, hbindings', -, hplanned', hothers'⟩ := Renderer.sync_of_accepted haccepted'
  have hback (t : AclTarget) (ht : p.getD t [] ≠ []) : ∃ interface d,
      after.acls.get? t = some ((before.acls.get? t).getD (.ofInterface interface d [])) ∧
      between.acls.get? t =
        some (((before.acls.get? t).getD (.ofInterface interface d [])).putEntries (p.getD t [])) := by
    obtain ⟨interface, d, hparse⟩ := hname t ht
    refine ⟨interface, d, ?_, ?_⟩
    · rw [hplanned' t ht, hplanned t ht]
      exact SyncMode.revise_remove_revise_write hparse fun l hl => hfresh t l hl
    · rw [hplanned t ht, SyncMode.revise, hparse]
  refine ⟨hwritten, hundone, fun t l hl => ?_, fun t l hnone hl => ?_, fun t ht => ?_, hbindings,
    hbindings'.trans hbindings⟩
  · by_cases ht : p.getD t [] = []
    · rw [hothers' t ht, hothers t ht, hl]
    · obtain ⟨interface, d, hafter, -⟩ := hback t ht
      rw [hafter, hl, Option.getD_some]
  · have ht : p.getD t [] ≠ [] := by
      intro ht
      rw [hothers t ht, hnone] at hl
      cases hl
    obtain ⟨interface, d, hafter, hbetween⟩ := hback t ht
    rw [hnone, Option.getD_none] at hafter hbetween
    rw [hbetween, Option.some.injEq] at hl
    rw [hafter, ← hl]
    rfl
  · exact ⟨hothers t ht, (hothers' t ht).trans (hothers t ht)⟩

/-- Two rule groups have a rule of one name, so the plan gives this name twice for a list. Writing it to a
list with an entry of its own and taking it out again leaves that entry, and the list of the other
direction, which was not there before, is left empty. -/
theorem plan_undone_repeated :
    let web (subject : String) (port : Int64) : RuleGroup :=
      { Sample.group subject port with rules := [Sample.rule "web" port] }
    let s : Snapshot := { Sample.snapshot [] [Sample.row "10.0.0.1" "10.0.0.9" "http" .provider,
      Sample.row "10.0.0.1" "10.0.0.9" "ssh" .provider] with ruleGroups := [web "http" 80, web "ssh" 22] }
    let ingress := AclTarget.ofLocation Sample.serverLocation .ingress
    let egress := AclTarget.ofLocation Sample.serverLocation .egress
    let old := Acl.ofInterface "tap0" .ingress [⟨"own", { protocol := .other 0 }, .permit⟩]
    let r : Renderer := { device := { acls := .ofList [(ingress, old)] } }
    let p := (r.plan s.context { endpoints := .ofMembers [Sample.server.key] }).outcome.value
    let written := r.sync .write p
    let after := (written.renderer.sync .remove p).renderer.device
    (p.getD ingress []).map AclEntry.name = ["web_10.0.0.1_10.0.0.9", "web_10.0.0.1_10.0.0.9"] ∧
      (written.renderer.device.entriesAt ingress).map AclEntry.name = ["own", "web_10.0.0.1_10.0.0.9"] ∧
      after.acls.get? ingress = some old ∧
      after.acls.get? egress = some (.ofInterface "tap0" .egress []) := by
  intro web s ingress egress old r p written after
  have hplanned : (p.getD ingress []).map AclEntry.name =
      ["web_10.0.0.1_10.0.0.9", "web_10.0.0.1_10.0.0.9"] := by decide +kernel
  have hheld : r.device.acls.toList = [(ingress, old)] := by decide +kernel
  have hfresh : ∀ t l, r.device.acls.get? t = some l →
      ∀ e ∈ p.getD t [], ∀ x ∈ l.entries, x.name ≠ e.name := by
    intro t l hl e he x hx
    rw [SortedMap.get?_eq_some_iff, hheld, List.mem_singleton] at hl
    obtain ⟨rfl, rfl⟩ := Prod.mk.inj hl
    have hname := List.mem_map_of_mem (f := AclEntry.name) he
    have hown : x.name = "own" := congrArg AclEntry.name (List.mem_singleton.mp hx)
    rw [hplanned] at hname
    rw [hown]
    intro heq
    rw [← heq] at hname
    exact absurd hname (by decide)
  have hmadeAs : (written.renderer.device.acls.get? egress).map (fun l => (l.name, l.direction)) =
      some ("tap0EGRESS", .egress) := by decide +kernel
  obtain ⟨⟨name, d, entries⟩, hl, hsame⟩ := Option.map_eq_some_iff.mp hmadeAs
  obtain ⟨rfl, rfl⟩ := Prod.mk.inj hsame
  obtain ⟨-, -, hkept, hmade, -⟩ := plan_undone r r s.context
    { endpoints := .ofMembers [Sample.server.key] } (fun _ _ => rfl) hfresh
  refine ⟨hplanned, by decide +kernel, ?_, ?_⟩
  · have hthere : r.device.acls.get? ingress = some old := by decide +kernel
    with_reducible exact hkept ingress old hthere
  · have hnone : r.device.acls.get? egress = none := by decide +kernel
    have hname : aclName "tap0" .egress = "tap0EGRESS" := by decide
    rw [Acl.ofInterface, hname]
    with_reducible exact hmade egress _ hnone hl

end GroupPolicy

import GroupPolicy.Proofs.Policy.Sample
import GroupPolicy.Proofs.Render.GroupingInUse
import GroupPolicy.Proofs.Render.Plans

namespace GroupPolicy

/-- Whether lists are made for an interface: it has a name, and it is not left alone. -/
def Settings.Serves (settings : Settings) (l : Location) : Prop :=
  l.interface ≠ "" ∧ settings.excludes l = false

/-- Whether a plan names only lists of interfaces that lists are made for. -/
def Plan.IsFor (settings : Settings) (p : Plan) : Prop :=
  ∀ t ∈ p.keys, ∃ l d, t = .ofLocation l d ∧ settings.Serves l

/-- The plan that a renderer makes for a change, with the proof that it is one. -/
def Renderer.issue (r : Renderer) (c : Context) (ch : Change) : IssuedPlan :=
  ⟨(r.plan c ch).outcome.value, r, c, ch, rfl⟩

/-- Whether a plan is one that a renderer of some settings makes at some moment of a run. -/
def IssuedPlan.IsOf (settings : Settings) (p : IssuedPlan) : Prop :=
  ∃ (device : Device) (ops : List Operation) (c : Context) (ch : Change),
    p = (({ settings, device } : Renderer).run ops).issue c ch

/-- No endpoint is attached to an interface without a name. -/
theorem Endpoint.interface_ne_of_location? {e : Endpoint} {l : Location} (h : e.location? = some l) :
    l.interface ≠ "" := by
  obtain ⟨paths, -, hpaths⟩ := Option.bind_eq_some_iff.mp h
  obtain ⟨mountPoint, -, hnode⟩ := Option.bind_eq_some_iff.mp hpaths
  obtain ⟨nodeConnector, -, hinterface⟩ := Option.bind_eq_some_iff.mp hnode
  dsimp only at hinterface
  split at hinterface
  · cases hinterface
  next hnamed =>
    obtain rfl := Option.some.inj hinterface
    exact (not_or.mp hnamed).2

/-- A plan goes by a grouping that was made from a context, so it is for interfaces of endpoints. -/
theorem IssuedPlan.IsOf.isFor {settings : Settings} {p : IssuedPlan} (h : p.IsOf settings) :
    p.plan.IsFor settings := by
  obtain ⟨device, ops, c, ch, rfl⟩ := h
  let r := ({ settings, device } : Renderer).run ops
  have hseen : r.HasSeen settings fun _ => True :=
    (Renderer.hasSeen_new settings device _).run ops fun _ _ _ _ => trivial
  obtain ⟨c', -, -, hcurrent⟩ := hseen.grouping.current_refresh (c := c) trivial
  intro t ht
  have hkeys : t ∈ (ch.plan c (r.grouping.refresh c).current r.settings).value.keys := ht
  rw [hcurrent, hseen.settings_eq] at hkeys
  obtain ⟨k, l, d, hl, hexcluded, htarget⟩ := Change.exists_interface_of_mem_keys_plan hkeys
  rw [Grouping.interfacesOf_ofContext, Option.mem_toList] at hl
  obtain ⟨e, -, hlocation⟩ := Option.bind_eq_some_iff.mp hl
  exact ⟨l, d, htarget, Endpoint.interface_ne_of_location? hlocation, hexcluded⟩

namespace Device

/-- Whether devices hold nothing but lists of interfaces that lists are made for, each in its place on a
node that can be reached, and no binding but to lists that are there. -/
structure IsSound (settings : Settings) (failing : SortedSet String) (s : Device) : Prop where
  unreachable_eq : s.unreachable = failing
  placed : ∀ t acl, s.acls.get? t = some acl → ∃ l d, t = .ofLocation l d ∧
    acl.name = aclName l.interface d ∧ acl.direction = d ∧
      settings.Serves l ∧ failing.mem l.node = false
  bound : ∀ l d name, s.bindings.get? ⟨l, d⟩ = some name →
    name = aclName l.interface d ∧ s.acls.contains (.ofLocation l d) = true

namespace IsSound

variable {settings : Settings} {failing : SortedSet String} {s : Device} {l : Location}
  {d : AclDirection} {acl : Acl} {mode : SyncMode} {es : List AclEntry}

theorem of_get? (h : s.IsSound settings failing) (hget : s.acls.get? (.ofLocation l d) = some acl) :
    acl.name = aclName l.interface d ∧ acl.direction = d ∧
      settings.Serves l ∧ failing.mem l.node = false := by
  obtain ⟨l', d', htarget, hplaced⟩ := h.placed _ _ hget
  obtain ⟨rfl, rfl⟩ := AclTarget.ofLocation_inj.mp htarget
  exact hplaced

theorem of_bound (h : s.IsSound settings failing) {name : String}
    (hbound : s.bindings.get? ⟨l, d⟩ = some name) :
    ∃ acl, s.acls.get? (.ofLocation l d) = some acl := by
  obtain ⟨-, hheld⟩ := h.bound l d name hbound
  exact Option.isSome_iff_exists.mp hheld

/-- A list may be put in its place, with whatever entries. -/
theorem putAcl (h : s.IsSound settings failing) (hserved : settings.Serves l)
    (hreach : failing.mem l.node = false) (acl : Acl) (hname : acl.name = aclName l.interface d)
    (hdirection : acl.direction = d) :
    ({ s with acls := s.acls.insert (.ofLocation l d) acl } : Device).IsSound settings failing where
  unreachable_eq := h.unreachable_eq
  placed t acl' hget := by
    by_cases ht : t = .ofLocation l d
    · subst ht
      rw [SortedMap.get?_insert_self] at hget
      obtain rfl := Option.some.inj hget
      exact ⟨l, d, rfl, hname, hdirection, hserved, hreach⟩
    · rw [SortedMap.get?_insert_of_ne _ _ ht] at hget
      exact h.placed t acl' hget
  bound l' d' name hbound := by
    obtain ⟨hname', hheld⟩ := h.bound l' d' name hbound
    exact ⟨hname', SortedMap.contains_insert_of_contains hheld _ _⟩

/-- An interface may be bound to its list, if that is there. -/
theorem bind (h : s.IsSound settings failing) (hheld : s.acls.contains (.ofLocation l d) = true) :
    ({ s with bindings := s.bindings.insert ⟨l, d⟩ (aclName l.interface d) } : Device).IsSound
      settings failing where
  unreachable_eq := h.unreachable_eq
  placed := h.placed
  bound l' d' name hbound := by
    by_cases hp : (⟨l', d'⟩ : Attachment) = ⟨l, d⟩
    · obtain ⟨rfl, rfl⟩ := Attachment.mk.inj hp
      rw [SortedMap.get?_insert_self] at hbound
      exact ⟨(Option.some.inj hbound).symm, hheld⟩
    · rw [SortedMap.get?_insert_of_ne _ _ hp] at hbound
      exact h.bound l' d' name hbound

/-- A request keeps devices sound if carrying it out on a node that can be reached does. -/
theorem ask {act : Device → Except String Device} {node : String} (h : s.IsSound settings failing)
    (operation : String)
    (hact : ∀ s s' : Device, s.IsSound settings failing → failing.mem node = false →
      act s = .ok s' → s'.IsSound settings failing) :
    (s.ask node operation act).device.IsSound settings failing := by
  have hcounted : ({ s with calls := s.calls + 1 } : Device).IsSound settings failing :=
    ⟨h.unreachable_eq, h.placed, h.bound⟩
  have hmem : s.unreachable.mem node = failing.mem node := by rw [h.unreachable_eq]
  unfold Device.ask
  dsimp only
  cases hreach : failing.mem node with
  | true =>
    rw [if_pos (hmem.trans hreach)]
    exact hcounted
  | false =>
    rw [if_neg (by rw [hmem, hreach]; exact Bool.false_ne_true)]
    cases hdone : act { s with calls := s.calls + 1 } with
    | error reason => exact hcounted
    | ok s' => exact hact _ s' hcounted hreach hdone

theorem writeAcl (h : s.IsSound settings failing) (hserved : settings.Serves l) (d : AclDirection)
    (es : List AclEntry) :
    (s.writeAcl l.node (.ofInterface l.interface d es)).device.IsSound settings failing := by
  refine h.ask "write_acl" fun s s' hs hreach hdone => ?_
  obtain rfl := Except.ok.inj hdone
  exact hs.putAcl hserved hreach _ rfl rfl

theorem bindAcl (h : s.IsSound settings failing) (l : Location) (d : AclDirection)
    (es : List AclEntry) :
    (s.bindAcl l (.ofInterface l.interface d es)).device.IsSound settings failing := by
  refine h.ask "bind_acl" fun s s' hs _ hdone => ?_
  split at hdone
  next hheld =>
    obtain rfl := Except.ok.inj hdone
    exact hs.bind hheld
  next => cases hdone

/-- Entries are written to the list of an interface, which is made if it is not there. -/
theorem writeEntries (h : s.IsSound settings failing) (hserved : settings.Serves l) (d : AclDirection)
    (es : List AclEntry) :
    (s.writeEntries l.node (aclName l.interface d) es).device.IsSound settings failing := by
  refine h.ask "write_entries" fun s s' hs hreach hdone => ?_
  rw [parseAclName_aclName] at hdone
  obtain rfl := Except.ok.inj hdone
  let old := s.acls.getD (.ofLocation l d) (.ofInterface l.interface d [])
  -- A list that is there already has the name and the direction of its place.
  have hold : old.name = aclName l.interface d ∧ old.direction = d := by
    change (s.acls.getD _ _).name = _ ∧ (s.acls.getD _ _).direction = _
    rw [SortedMap.getD]
    cases hget : s.acls.get? (.ofLocation l d) with
    | none => exact ⟨rfl, rfl⟩
    | some acl =>
      obtain ⟨hname, hdirection, -⟩ := hs.of_get? hget
      exact ⟨hname, hdirection⟩
  exact hs.putAcl hserved hreach (old.putEntries es) hold.1 hold.2

theorem removeEntries (h : s.IsSound settings failing) (l : Location) (d : AclDirection)
    (names : List String) :
    (s.removeEntries l.node (aclName l.interface d) names).device.IsSound settings failing := by
  refine h.ask "remove_entries" fun s s' hs _ hdone => ?_
  split at hdone
  next acl hget =>
    obtain rfl := Except.ok.inj hdone
    obtain ⟨hname, hdirection, hserved, hreach⟩ := hs.of_get? hget
    exact hs.putAcl hserved hreach (acl.dropEntries names) hname hdirection
  next =>
    obtain rfl := Except.ok.inj hdone
    exact hs

theorem install (h : s.IsSound settings failing) (hserved : settings.Serves l) (d : AclDirection)
    (es : List AclEntry) :
    (s.install l (.ofInterface l.interface d es)).1.IsSound settings failing := by
  have hwritten := h.writeAcl hserved d es
  have hbound := hwritten.bindAcl l d es
  unfold Device.install
  dsimp only
  split
  · exact hwritten
  · split
    · exact hbound
    · exact hbound

theorem installAll (h : s.IsSound settings failing) (hserved : settings.Serves l)
    (lists : AclDirection → List AclEntry) (ds : List AclDirection) :
    (s.installAll l (ds.map fun d => .ofInterface l.interface d (lists d))).1.IsSound
      settings failing := by
  induction ds generalizing s with
  | nil => exact h
  | cons d rest ih =>
    have hfirst := h.install hserved d (lists d)
    rw [List.map_cons, Device.installAll]
    split
    next s' _ _ hinstall =>
      rw [hinstall] at hfirst
      exact hfirst
    next s' _ hinstall =>
      rw [hinstall] at hfirst
      exact ih hfirst

theorem syncTarget (h : s.IsSound settings failing) (hserved : settings.Serves l) (mode : SyncMode)
    (d : AclDirection) (es : List AclEntry) :
    (s.syncTarget mode (.ofLocation l d) es).device.IsSound settings failing := by
  cases mode with
  | write => exact h.writeEntries hserved d es
  | remove => exact h.removeEntries l d _

theorem syncNode (h : s.IsSound settings failing) {pieces : List (AclTarget × List AclEntry)}
    (hpieces : ∀ piece ∈ pieces, ∃ l d, piece.1 = .ofLocation l d ∧ settings.Serves l) :
    (s.syncNode mode pieces).1.IsSound settings failing := by
  induction pieces generalizing s with
  | nil => exact h
  | cons piece rest ih =>
    obtain ⟨target, es⟩ := piece
    obtain ⟨l, d, rfl, hserved⟩ := hpieces _ List.mem_cons_self
    have hfirst := h.syncTarget hserved mode d es
    unfold Device.syncNode
    dsimp only
    split
    · exact hfirst
    · exact ih hfirst fun piece hpiece => hpieces piece (List.mem_cons_of_mem _ hpiece)

theorem syncNodes (h : s.IsSound settings failing) {nodes : List (List (AclTarget × List AclEntry))}
    (hnodes : ∀ piece ∈ nodes.flatten, ∃ l d, piece.1 = .ofLocation l d ∧ settings.Serves l) :
    (s.syncNodes mode nodes).1.IsSound settings failing := by
  induction nodes generalizing s with
  | nil => exact h
  | cons pieces rest ih =>
    rw [List.flatten_cons] at hnodes
    have hfirst : (s.syncNode mode pieces).1.IsSound settings failing :=
      h.syncNode fun piece hpiece => hnodes piece (List.mem_append_left _ hpiece)
    exact ih hfirst fun piece hpiece => hnodes piece (List.mem_append_right _ hpiece)

end IsSound

theorem isSound_new (settings : Settings) (failing : SortedSet String) :
    ({ unreachable := failing } : Device).IsSound settings failing where
  unreachable_eq := rfl
  placed _ _ h := nomatch h
  bound _ _ _ h := nomatch h

end Device

namespace Renderer

variable {settings : Settings} {failing : SortedSet String} {r : Renderer}

theorem isSound_update (hsettings : r.settings = settings) (h : r.device.IsSound settings failing)
    (c : Context) (k : EndpointKey) :
    (r.update c k).renderer.device.IsSound settings failing := by
  by_cases hlocated : ∃ e l, c.endpoint? k = some e ∧ e.location? = some l ∧
      r.settings.excludes l = false
  · obtain ⟨e, l, he, hl, hexcluded⟩ := hlocated
    have hserved : settings.Serves l :=
      ⟨Endpoint.interface_ne_of_location? hl, hsettings ▸ hexcluded⟩
    rw [(update_of_located he hl hexcluded).1]
    exact h.installAll hserved _ _
  · rwa [device_update_of_not hlocated]

theorem isSound_perform (hseen : r.HasSeen settings fun _ => True)
    (h : r.device.IsSound settings failing) (op : Operation)
    (hplans : ∀ mode p, op = .sync mode p → p.IsOf settings) :
    (r.perform op).device.IsSound settings failing := by
  cases op with
  | regroup c => exact h
  | resolve c k =>
    rw [perform, device_resolveAcls]
    exact h
  | update c k => exact isSound_update hseen.settings_eq h c k
  | updatePeers c k =>
    have hall := List.foldlRecOn ((c.table.peers k).map (·.1)) (fun r j => (r.update c j).renderer)
      (motive := fun r : Renderer => r.HasSeen settings (fun _ => True) ∧
        r.device.IsSound settings failing) ⟨hseen, h⟩
      fun r ⟨hr, hsound⟩ j _ => ⟨hr.update trivial j, isSound_update hr.settings_eq hsound c j⟩
    rw [perform_updatePeers]
    exact hall.2
  | plan c ch => exact h
  | sync mode p =>
    have hp := (hplans mode p rfl).isFor
    exact h.syncNodes fun piece hpiece => hp piece.1 (Plan.mem_keys_of_mem_byNode hpiece)

/-- Devices are sound at every moment of a run that starts with none of them holding anything. -/
theorem isSound_run (settings : Settings) (failing : SortedSet String) (ops : List Operation)
    (hplans : ∀ mode p, Operation.sync mode p ∈ ops → p.IsOf settings) :
    (({ settings, device := { unreachable := failing } } : Renderer).run ops).device.IsSound
      settings failing := by
  have hall := List.foldlRecOn ops Renderer.perform
    (motive := fun r : Renderer => r.HasSeen settings (fun _ => True) ∧
      r.device.IsSound settings failing)
    ⟨hasSeen_new settings _ _, Device.isSound_new settings failing⟩
    fun r ⟨hr, hsound⟩ op hop => ⟨hr.perform op fun _ _ => trivial,
      isSound_perform hr hsound op fun mode p heq => hplans mode p (heq ▸ hop)⟩
  exact hall.2

end Renderer

/-- The devices after any run that starts with none of them holding anything and carries out plans of
renderers with its settings only. Every list stands under its own name, which is that of an interface;
every interface is bound to its own list, and its node holds that list in the direction of the binding;
nothing is held for interfaces that are left alone, and nothing by the nodes that cannot be reached. -/
theorem devices_sound (settings : Settings) (failing : SortedSet String) (ops : List Operation)
    (hplans : ∀ mode p, Operation.sync mode p ∈ ops → p.IsOf settings) :
    let s := (({ settings, device := { unreachable := failing } } : Renderer).run ops).device
    (∀ node name acl, s.acl? node name = some acl → acl.name = name ∧
        ∃ interface, interface ≠ "" ∧ acl.name = aclName interface acl.direction) ∧
      (∀ l d name, s.bindings.get? ⟨l, d⟩ = some name → name = aclName l.interface d ∧
        ∃ acl, s.acl? l.node name = some acl ∧ acl.direction = d) ∧
      (∀ l, settings.excludes l = true → ∀ d,
        s.acl? l.node (aclName l.interface d) = none ∧ s.bindings.get? ⟨l, d⟩ = none) ∧
      ∀ node, failing.mem node = true →
        (∀ name, s.acl? node name = none) ∧ ∀ interface d, s.bindings.get? ⟨⟨node, interface⟩, d⟩ = none := by
  intro s
  have hsound : s.IsSound settings failing := Renderer.isSound_run settings failing ops hplans
  -- What is held for an interface tells that it is in use, on a node that can be reached.
  have hacl (l : Location) (d : AclDirection) (acl : Acl)
      (hget : s.acls.get? (.ofLocation l d) = some acl) :
      settings.excludes l = false ∧ failing.mem l.node = false := by
    obtain ⟨-, -, ⟨-, hexcluded⟩, hreach⟩ := hsound.of_get? hget
    exact ⟨hexcluded, hreach⟩
  have hbinding (l : Location) (d : AclDirection) (name : String)
      (hbound : s.bindings.get? ⟨l, d⟩ = some name) :
      settings.excludes l = false ∧ failing.mem l.node = false := by
    obtain ⟨acl, hget⟩ := hsound.of_bound hbound
    exact hacl l d acl hget
  refine ⟨fun node name acl hget => ?_, fun l d name hbound => ?_, fun l hexcluded d => ⟨?_, ?_⟩,
    fun node hfailing => ⟨fun name => ?_, fun interface d => ?_⟩⟩
  · obtain ⟨l, d, htarget, hname, rfl, ⟨hnamed, -⟩, -⟩ := hsound.placed _ _ hget
    have hplace : name = aclName l.interface acl.direction := congrArg AclTarget.name htarget
    exact ⟨hname.trans hplace.symm, l.interface, hnamed, hname⟩
  · obtain ⟨rfl, -⟩ := hsound.bound l d name hbound
    obtain ⟨acl, hget⟩ := hsound.of_bound hbound
    obtain ⟨-, hdirection, -⟩ := hsound.of_get? hget
    exact ⟨rfl, acl, hget, hdirection⟩
  · refine Option.eq_none_iff_forall_ne_some.mpr fun acl hget => ?_
    rw [(hacl l d acl hget).1] at hexcluded
    cases hexcluded
  · refine Option.eq_none_iff_forall_ne_some.mpr fun name hbound => ?_
    rw [(hbinding l d name hbound).1] at hexcluded
    cases hexcluded
  · refine Option.eq_none_iff_forall_ne_some.mpr fun acl hget => ?_
    obtain ⟨l, d, htarget, -, -, -, hreach⟩ := hsound.placed _ _ hget
    have hnode : node = l.node := congrArg AclTarget.node htarget
    rw [hnode, hreach] at hfailing
    cases hfailing
  · refine Option.eq_none_iff_forall_ne_some.mpr fun name hbound => ?_
    rw [(hbinding _ d name hbound).2] at hfailing
    cases hfailing

/-- A server, its client on an interface that is left alone, and another server on a node that cannot be
reached: of all that is rendered and planned for them, the lists of the first server are there. -/
theorem devices_sound_mixed :
    let remote : Endpoint := { key := Sample.key "10.0.0.7", location := some ⟨some "remote", some "tap0"⟩ }
    let c := ((Sample.before.addEndpoint remote).addPolicies
      [Sample.row "10.0.0.7" "10.0.0.9" "http" .provider]).1
    let ch : Change := { ruleGroups := .ofMembers [Sample.groupKey "http"] }
    let settings : Settings := { excluded := [⟨"node", "tap1"⟩] }
    let failing : SortedSet String := .ofMembers ["remote"]
    let p := (({ settings, device := { unreachable := failing } } : Renderer).run
      [.update c remote.key]).issue c ch
    let ops : List Operation := [.update c remote.key, .plan c ch, .sync .write p,
      .update c Sample.server.key, .updatePeers c Sample.server.key, .sync .remove p]
    let s := (({ settings, device := { unreachable := failing } } : Renderer).run ops).device
    p.plan.keys.map AclTarget.node = ["node", "node", "remote", "remote"] ∧
      s.bindings.get? ⟨⟨"node", "tap0"⟩, .ingress⟩ = some (aclName "tap0" .ingress) ∧
      (∃ acl, s.acl? "node" (aclName "tap0" .ingress) = some acl ∧ acl.direction = .ingress) ∧
      s.acl? "node" (aclName "tap1" .ingress) = none ∧ ∀ name, s.acl? "remote" name = none := by
  intro remote c ch settings failing p ops s
  have hplans : ∀ mode q, Operation.sync mode q ∈ ops → q.IsOf settings := by
    intro mode q hq
    have hmade : p.IsOf settings := ⟨{ unreachable := failing }, [.update c remote.key], c, ch, rfl⟩
    simp only [ops, List.mem_cons, Operation.sync.injEq, List.not_mem_nil, or_false, false_or,
      reduceCtorEq] at hq
    rcases hq with ⟨-, hq⟩ | ⟨-, hq⟩
    · rwa [hq]
    · rwa [hq]
  have hsound := devices_sound settings failing ops hplans
  extract_lets at hsound
  obtain ⟨-, hbindings, hexcluded, hfailing⟩ := hsound
  have hbound : s.bindings.get? ⟨⟨"node", "tap0"⟩, .ingress⟩ = some (aclName "tap0" .ingress) := by
    decide +kernel
  obtain ⟨-, hacl⟩ := hbindings ⟨"node", "tap0"⟩ .ingress _ hbound
  obtain ⟨hnone, -⟩ := hexcluded ⟨"node", "tap1"⟩ (by decide +kernel) .ingress
  obtain ⟨hempty, -⟩ := hfailing "remote" (by decide +kernel)
  exact ⟨by decide +kernel, hbound, hacl, hnone, hempty⟩

end GroupPolicy

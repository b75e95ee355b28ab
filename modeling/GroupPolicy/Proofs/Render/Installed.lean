import GroupPolicy.Proofs.Render.Attached
import GroupPolicy.Proofs.Render.Effects
import GroupPolicy.Proofs.Render.Runs

namespace GroupPolicy

namespace Device

variable {s : Device} {location : Location}

/-- The devices with a list on a node, bound to its interface. -/
def withInstalled (s : Device) (location : Location) (l : Acl) : Device :=
  { s with
    acls := s.acls.insert ⟨location.node, l.name⟩ l
    bindings := s.bindings.insert ⟨location, l.direction⟩ l.name
    calls := s.calls + 2 }

theorem install_of_reachable (hreach : s.unreachable.mem location.node = false) (l : Acl) :
    s.install location l = (s.withInstalled location l, ⟨.ok (), []⟩) := by
  simp [install, writeAcl, bindAcl, ask, hreach, SortedMap.contains, withInstalled]

theorem installAll_of_reachable (hreach : s.unreachable.mem location.node = false) (ls : List Acl) :
    (s.installAll location ls).1 = ls.foldl (fun s l => s.withInstalled location l) s := by
  induction ls generalizing s with
  | nil => rfl
  | cons l rest ih =>
    rw [installAll, install_of_reachable hreach]
    exact ih hreach

/-- The devices with the lists of both directions installed on an interface. -/
def withLists (s : Device) (location : Location) (lists : AclDirection → List AclEntry) : Device :=
  (AclDirection.all.map fun d => Acl.ofInterface location.interface d (lists d)).foldl
    (fun s l => s.withInstalled location l) s

section Lists

variable (s : Device) (location : Location) (lists : AclDirection → List AclEntry)

theorem acls_withLists (d : AclDirection) :
    (s.withLists location lists).acls.get? (.ofLocation location d) =
      some (.ofInterface location.interface d (lists d)) := by
  have htargets : AclTarget.ofLocation location .ingress ≠ .ofLocation location .egress := by
    simp [AclTarget.ofLocation_inj]
  cases d with
  | ingress => exact (SortedMap.get?_insert_of_ne _ _ htargets).trans (SortedMap.get?_insert_self _ _ _)
  | egress => exact SortedMap.get?_insert_self _ _ _

theorem acls_withLists_of_ne {t : AclTarget} (ht : ∀ d, t ≠ .ofLocation location d) :
    (s.withLists location lists).acls.get? t = s.acls.get? t :=
  (SortedMap.get?_insert_of_ne _ _ (ht .egress)).trans (SortedMap.get?_insert_of_ne _ _ (ht .ingress))

theorem bindings_withLists (d : AclDirection) :
    (s.withLists location lists).bindings.get? ⟨location, d⟩ = some (aclName location.interface d) := by
  have hplaces : (⟨location, .ingress⟩ : Attachment) ≠ ⟨location, .egress⟩ := by simp
  cases d with
  | ingress => exact (SortedMap.get?_insert_of_ne _ _ hplaces).trans (SortedMap.get?_insert_self _ _ _)
  | egress => exact SortedMap.get?_insert_self _ _ _

theorem bindings_withLists_of_ne {p : Attachment} (hp : p.location ≠ location) :
    (s.withLists location lists).bindings.get? p = s.bindings.get? p := by
  have hne (d : AclDirection) : p ≠ ⟨location, d⟩ := fun heq => hp (heq ▸ rfl)
  exact (SortedMap.get?_insert_of_ne _ _ (hne _)).trans (SortedMap.get?_insert_of_ne _ _ (hne _))

end Lists

end Device

namespace Grouping

/-- Asking for a grouping once more gets the same one. -/
theorem current_refresh_refresh (g : Grouping) (c : Context) :
    ((g.refresh c).published.refresh c).current = (g.refresh c).current := by
  by_cases hversion : g.version = some c.version
  · have hsame : (g.refresh c).published = g := by rw [refresh, if_pos hversion]
    rw [hsame]
  · rw [current_refresh g, if_neg hversion]
    rcases g.published_refresh c with h | h
    · rw [h, current_refresh, if_neg hversion]
    · rw [h, current_refresh, ite_self]

end Grouping

namespace Context

/-- The endpoint of a key, if rendering it writes to an interface: it is attached there, and the
interface is in use. -/
def renderedOn? (c : Context) (settings : Settings) (l : Location) (k : EndpointKey) :
    Option Endpoint :=
  (c.endpoint? k).filter fun e => e.location? = some l && !settings.excludes l

/-- The last endpoint that writes to an interface when endpoints are rendered in turn. -/
def lastOn? (c : Context) (settings : Settings) (ks : List EndpointKey) (l : Location) :
    Option Endpoint :=
  (ks.filterMap (c.renderedOn? settings l)).getLast?

variable {c : Context} {settings : Settings} {k : EndpointKey} {l : Location} {e : Endpoint}
  {ks ks' : List EndpointKey}

theorem renderedOn?_eq_some_iff : c.renderedOn? settings l k = some e ↔
    c.endpoint? k = some e ∧ e.location? = some l ∧ settings.excludes l = false := by
  rw [renderedOn?, Option.filter_eq_some_iff]
  simp

/-- An endpoint writes to one interface only. -/
theorem renderedOn?_eq_none {l' : Location} (h : c.renderedOn? settings l k = some e) (hne : l' ≠ l) :
    c.renderedOn? settings l' k = none := by
  refine Option.eq_none_iff_forall_ne_some.mpr fun e' h' => hne ?_
  obtain ⟨he, hl, -⟩ := renderedOn?_eq_some_iff.mp h
  obtain ⟨he', hl', -⟩ := renderedOn?_eq_some_iff.mp h'
  obtain rfl := Option.some.inj (he.symm.trans he')
  exact Option.some.inj (hl'.symm.trans hl)

theorem lastOn?_concat : c.lastOn? settings (ks ++ [k]) l =
    (c.renderedOn? settings l k).or (c.lastOn? settings ks l) := by
  rw [lastOn?, List.filterMap_append, List.getLast?_append, lastOn?]
  cases hrendered : c.renderedOn? settings l k <;> simp [hrendered]

theorem exists_of_lastOn? (h : c.lastOn? settings ks l = some e) :
    ∃ k ∈ ks, c.endpoint? k = some e ∧ e.location? = some l := by
  obtain ⟨k, hk, hrendered⟩ := List.mem_filterMap.mp (List.mem_of_getLast? h)
  obtain ⟨hknown, hlocation, -⟩ := renderedOn?_eq_some_iff.mp hrendered
  exact ⟨k, hk, hknown, hlocation⟩

/-- Whether an interface is written to does not depend on the order of the endpoints. -/
theorem isSome_lastOn?_of_perm (h : ks.Perm ks') (l : Location) :
    (c.lastOn? settings ks l).isSome = (c.lastOn? settings ks' l).isSome := by
  rw [Bool.eq_iff_iff, lastOn?, lastOn?, List.getLast?_isSome, List.getLast?_isSome, ne_eq, ne_eq,
    ← List.length_eq_zero_iff, ← List.length_eq_zero_iff, (h.filterMap _).length_eq]

end Context

namespace Renderer

/-- Whether the devices of a renderer hold, for every interface, the lists of one endpoint, if any
has been rendered there, bound to the interface, and nothing else. -/
structure Shows (r : Renderer) (c : Context) (settings : Settings)
    (shown : Location → Option Endpoint) : Prop where
  settings_eq : r.settings = settings
  current_eq : (r.regroup c).2 = .ofContext c
  unreachable_eq : r.device.unreachable = ∅
  acls_eq : ∀ l d, r.device.acls.get? (.ofLocation l d) = (shown l).map fun e =>
    .ofInterface l.interface d (c.listEntries (.ofContext c) settings.acl e d).value
  isAddressed : ∀ t, r.device.acls.contains t = true → ∃ l d, t = .ofLocation l d
  bindings_eq : ∀ l d, r.device.bindings.get? ⟨l, d⟩ =
    (shown l).map fun _ => aclName l.interface d

variable {c : Context} {settings : Settings} {k : EndpointKey} {l : Location} {e : Endpoint}
  {r : Renderer} {shown : Location → Option Endpoint}

theorem shows_new (c : Context) (settings : Settings) :
    ({ settings := settings } : Renderer).Shows c settings fun _ => none where
  settings_eq := rfl
  current_eq := rfl
  unreachable_eq := rfl
  acls_eq _ _ := rfl
  isAddressed _ h := nomatch h
  bindings_eq _ _ := rfl

/-- An update changes no setting, and the grouping only as asking for that of the context does. -/
theorem settings_current_update (r : Renderer) (c : Context) (k : EndpointKey) :
    (r.update c k).renderer.settings = r.settings ∧
      ((r.update c k).renderer.regroup c).2 = (r.regroup c).2 := by
  have hregroup : ((r.regroup c).1.regroup c).2 = (r.regroup c).2 :=
    r.grouping.current_refresh_refresh c
  obtain ⟨device, hupdate⟩ := r.renderer_update c k
  rw [hupdate]
  rcases r.renderer_resolveAcls c k with hsame | hregrouped
  · rw [hsame]
    exact ⟨rfl, rfl⟩
  · rw [hregrouped]
    exact ⟨rfl, hregroup⟩

namespace Shows

theorem device_update (h : r.Shows c settings shown) (hrendered : c.renderedOn? settings l k = some e) :
    (r.update c k).renderer.device = r.device.withLists l fun d =>
      (c.listEntries (.ofContext c) settings.acl e d).value := by
  obtain ⟨he, hl, hexcluded⟩ := Context.renderedOn?_eq_some_iff.mp hrendered
  rw [(update_of_located he hl (h.settings_eq ▸ hexcluded)).1, rendered, h.current_eq, h.settings_eq]
  exact Device.installAll_of_reachable (by rw [h.unreachable_eq]; rfl) _

theorem device_update_of_none (h : r.Shows c settings shown)
    (hnone : ∀ l, c.renderedOn? settings l k = none) : (r.update c k).renderer.device = r.device := by
  refine device_update_of_not ?_
  rintro ⟨e, l, he, hl, hexcluded⟩
  have hrendered := Context.renderedOn?_eq_some_iff.mpr ⟨he, hl, h.settings_eq ▸ hexcluded⟩
  rw [hnone] at hrendered
  cases hrendered

/-- An update of an endpoint shows it on its interface, if that is in use. -/
theorem update (h : r.Shows c settings shown) (k : EndpointKey) :
    (r.update c k).renderer.Shows c settings fun l => (c.renderedOn? settings l k).or (shown l) := by
  obtain ⟨hsettings, hcurrent⟩ := r.settings_current_update c k
  by_cases hrendered : ∃ l e, c.renderedOn? settings l k = some e
  · obtain ⟨l, e, hrendered⟩ := hrendered
    have hdevice := h.device_update hrendered
    -- The interface of the endpoint gets its lists, and no other interface is written to.
    refine ⟨hsettings.trans h.settings_eq, hcurrent.trans h.current_eq, ?_, fun l' d => ?_,
      fun t ht => ?_, fun l' d => ?_⟩
    · rw [hdevice]
      exact h.unreachable_eq
    · rw [hdevice]
      by_cases heq : l' = l
      · subst heq
        rw [Device.acls_withLists, hrendered]
        rfl
      · have ht (d' : AclDirection) : AclTarget.ofLocation l' d ≠ .ofLocation l d' :=
          fun htarget => heq (AclTarget.ofLocation_inj.mp htarget).1
        rw [Device.acls_withLists_of_ne _ _ _ ht, Context.renderedOn?_eq_none hrendered heq, h.acls_eq]
        rfl
    · by_cases hnew : ∃ d, t = .ofLocation l d
      · exact ⟨l, hnew⟩
      · rw [hdevice, SortedMap.contains, Device.acls_withLists_of_ne _ _ _ (not_exists.mp hnew)] at ht
        exact h.isAddressed t ht
    · rw [hdevice]
      by_cases heq : l' = l
      · subst heq
        rw [Device.bindings_withLists, hrendered]
        rfl
      · rw [Device.bindings_withLists_of_ne _ _ _ heq, Context.renderedOn?_eq_none hrendered heq,
          h.bindings_eq]
        rfl
  · have hnone (l : Location) : c.renderedOn? settings l k = none :=
      Option.eq_none_iff_forall_ne_some.mpr fun e he => hrendered ⟨l, e, he⟩
    have hdevice := h.device_update_of_none hnone
    have hshown : (fun l => (c.renderedOn? settings l k).or (shown l)) = shown := by
      funext l
      rw [hnone, Option.none_or]
    rw [hshown]
    exact ⟨hsettings.trans h.settings_eq, hcurrent.trans h.current_eq, hdevice ▸ h.unreachable_eq,
      hdevice ▸ h.acls_eq, hdevice ▸ h.isAddressed, hdevice ▸ h.bindings_eq⟩

/-- Rendering endpoints in turn shows the last of them on every interface. -/
theorem updateAll (h : r.Shows c settings shown) (ks : List EndpointKey) :
    (r.updateAll c ks).renderer.Shows c settings fun l => (c.lastOn? settings ks l).or (shown l) := by
  rw [renderer_updateAll]
  induction ks using List.reverseRecOn with
  | nil => exact h
  | append_singleton ks k ih =>
    have hlast : (fun l => (c.lastOn? settings (ks ++ [k]) l).or (shown l)) =
        fun l => (c.renderedOn? settings l k).or ((c.lastOn? settings ks l).or (shown l)) := by
      funext l
      rw [Context.lastOn?_concat, Option.or_assoc]
    rw [List.foldl_append, hlast]
    exact ih.update k

/-- A list that is there is the one of the endpoint that is shown on its interface. -/
theorem get?_acls_eq_some_iff (h : r.Shows c settings shown) {t : AclTarget} {acl : Acl} :
    r.device.acls.get? t = some acl ↔ ∃ l d e, t = .ofLocation l d ∧ shown l = some e ∧
      acl = .ofInterface l.interface d (c.listEntries (.ofContext c) settings.acl e d).value := by
  constructor
  · intro hacl
    have hthere : r.device.acls.contains t = true := by rw [SortedMap.contains, hacl]; rfl
    obtain ⟨l, d, rfl⟩ := h.isAddressed t hthere
    rw [h.acls_eq] at hacl
    obtain ⟨e, he, rfl⟩ := Option.map_eq_some_iff.mp hacl
    exact ⟨l, d, e, rfl, he, rfl⟩
  · rintro ⟨l, d, e, rfl, he, rfl⟩
    rw [h.acls_eq, he, Option.map_some]

theorem get?_bindings_eq_some_iff (h : r.Shows c settings shown) {p : Attachment} {name : String} :
    r.device.bindings.get? p = some name ↔
      (∃ e, shown p.location = some e) ∧ name = aclName p.location.interface p.direction := by
  obtain ⟨l, d⟩ := p
  rw [h.bindings_eq, Option.map_eq_some_iff]
  constructor
  · rintro ⟨e, he, rfl⟩
    exact ⟨⟨e, he⟩, rfl⟩
  · rintro ⟨⟨e, he⟩, rfl⟩
    exact ⟨e, he, rfl⟩

end Shows

/-- A new renderer that has rendered endpoints in turn shows the last of them on every interface. -/
theorem shows_updateAll (c : Context) (settings : Settings) (ks : List EndpointKey) :
    (({ settings := settings } : Renderer).updateAll c ks).renderer.Shows c settings
      (c.lastOn? settings ks) := by
  have hshows := (shows_new c settings).updateAll ks
  simpa only [Option.or_none] using hshows

end Renderer

end GroupPolicy

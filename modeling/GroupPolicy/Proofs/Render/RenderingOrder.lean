import GroupPolicy.Proofs.Policy.Sample
import GroupPolicy.Proofs.Render.Installed

namespace GroupPolicy

namespace Context

variable {c : Context} {j k : EndpointKey} {e e' : Endpoint} {l : Location}

/-- The entry for an endpoint outside that stands last in an endpoint's list, if there is one. -/
def outsideEntry? (c : Context) (settings : AclSettings) (owner : Endpoint) (d : AclDirection) :
    Option AclEntry :=
  if settings.allowExternal then c.externalEntry? owner d else none

/-- The entries of an endpoint's list in front of the one for an endpoint outside. -/
def insideEntries (c : Context) (settings : AclSettings) (owner : Endpoint) (d : AclDirection) :
    List AclEntry :=
  (c.interfaceEntries (.ofContext c) owner d).value ++
    if settings.denyTenantSubnets then c.denyEntries d else []

theorem value_listEntries (c : Context) (settings : AclSettings) (owner : Endpoint)
    (d : AclDirection) : (c.listEntries (.ofContext c) settings owner d).value =
      c.insideEntries settings owner d ++ (c.outsideEntry? settings owner d).toList := by
  have hlast : (if settings.allowExternal then (c.externalEntry? owner d).toList else []) =
      (c.outsideEntry? settings owner d).toList := by
    unfold outsideEntry?
    split <;> rfl
  rw [listEntries, defaultEntries, hlast, insideEntries, List.append_assoc]

/-- Endpoints on one interface have the same list, up to its order and to the last entry. -/
theorem insideEntries_perm (he : c.endpoint? j = some e) (he' : c.endpoint? k = some e')
    (hl : e.location? = some l) (hl' : e'.location? = some l) (settings : AclSettings)
    (d : AclDirection) : (c.insideEntries settings e d).Perm (c.insideEntries settings e' d) :=
  (interfaceEntries_perm he he' hl hl' d).append_right _

end Context

theorem toList_perm_toList_iff {α : Type} {a b : Option α} : a.toList.Perm b.toList ↔ a = b := by
  cases a <;> cases b <;> simp

namespace Renderer.Shows

variable {c : Context} {settings : Settings} {r r' : Renderer} {shown shown' : Location → Option Endpoint}

theorem contains_ofLocation (h : r.Shows c settings shown) (l : Location) (d : AclDirection) :
    r.device.acls.contains (.ofLocation l d) = (shown l).isSome := by
  rw [SortedMap.contains, h.acls_eq, Option.isSome_map]

/-- Renderers that show endpoints on the same interfaces have the same lists, apart from what stands
in them, bound to the same interfaces. -/
theorem same_places (h : r.Shows c settings shown) (h' : r'.Shows c settings shown')
    (hsome : ∀ l, (shown l).isSome = (shown' l).isSome) :
    r.device.bindings = r'.device.bindings ∧
      ∀ t, r.device.acls.contains t = true → r'.device.acls.contains t = true := by
  refine ⟨SortedMap.ext_get? fun ⟨l, d⟩ => ?_, fun t ht => ?_⟩
  · rw [h.bindings_eq, h'.bindings_eq]
    have hl := hsome l
    cases hshown : shown l with
    | none =>
      rw [hshown, Option.isSome_none, eq_comm, Option.isSome_eq_false_iff, Option.isNone_iff_eq_none] at hl
      rw [hl]
    | some e =>
      rw [hshown, Option.isSome_some, eq_comm, Option.isSome_iff_exists] at hl
      obtain ⟨e', he'⟩ := hl
      rw [he']
      rfl
  · obtain ⟨l, d, rfl⟩ := h.isAddressed t ht
    rwa [h'.contains_ofLocation, ← hsome, ← h.contains_ofLocation]

end Renderer.Shows

/-- Rendering endpoints in any two orders on new devices leaves the same bindings, and lists of the same
names for the same directions: those of all interfaces that an endpoint has been rendered on. In each
list the last endpoint that was rendered on the interface decides: the lists agree, up to their order,
in everything but the entry for an endpoint outside, and so they agree exactly if in both orders the
last endpoints have the same such entry. -/
theorem rendering_order {c : Context} {ks ks' : List EndpointKey} (hperm : ks.Perm ks')
    (settings : Settings) :
    let s := (({ settings := settings } : Renderer).updateAll c ks).renderer.device
    let s' := (({ settings := settings } : Renderer).updateAll c ks').renderer.device
    s.bindings = s'.bindings ∧ (∀ t, s.acls.contains t = true ↔ s'.acls.contains t = true) ∧
      (∀ t, s.acls.contains t = true ↔
        ∃ l d, t = .ofLocation l d ∧ (c.lastOn? settings ks l).isSome = true) ∧
      ∀ t acl acl', s.acls.get? t = some acl → s'.acls.get? t = some acl' →
        acl.name = acl'.name ∧ acl.direction = acl'.direction ∧
        ∃ l d e e', t = .ofLocation l d ∧ c.lastOn? settings ks l = some e ∧
          c.lastOn? settings ks' l = some e' ∧
          acl.entries = c.insideEntries settings.acl e d ++ (c.outsideEntry? settings.acl e d).toList ∧
          acl'.entries =
            c.insideEntries settings.acl e' d ++ (c.outsideEntry? settings.acl e' d).toList ∧
          (c.insideEntries settings.acl e d).Perm (c.insideEntries settings.acl e' d) ∧
          (acl.entries.Perm acl'.entries ↔
            c.outsideEntry? settings.acl e d = c.outsideEntry? settings.acl e' d) := by
  intro s s'
  have hs := Renderer.shows_updateAll c settings ks
  have hs' := Renderer.shows_updateAll c settings ks'
  have hsome (l : Location) : (c.lastOn? settings ks l).isSome = (c.lastOn? settings ks' l).isSome :=
    Context.isSome_lastOn?_of_perm hperm l
  obtain ⟨hbindings, hthere⟩ := hs.same_places hs' hsome
  obtain ⟨-, hthere'⟩ := hs'.same_places hs fun l => (hsome l).symm
  refine ⟨hbindings, fun t => ⟨hthere t, hthere' t⟩, fun t => ⟨fun ht => ?_, ?_⟩,
    fun t acl acl' hacl hacl' => ?_⟩
  · obtain ⟨l, d, rfl⟩ := hs.isAddressed t ht
    exact ⟨l, d, rfl, hs.contains_ofLocation l d ▸ ht⟩
  · rintro ⟨l, d, rfl, hshown⟩
    exact (hs.contains_ofLocation l d).trans hshown
  obtain ⟨l, d, e, rfl, he, rfl⟩ := hs.get?_acls_eq_some_iff.mp hacl
  obtain ⟨l', d', e', htarget, he', rfl⟩ := hs'.get?_acls_eq_some_iff.mp hacl'
  obtain ⟨rfl, rfl⟩ := AclTarget.ofLocation_inj.mp htarget
  obtain ⟨k, -, hk, hl⟩ := Context.exists_of_lastOn? he
  obtain ⟨k', -, hk', hl'⟩ := Context.exists_of_lastOn? he'
  -- Both endpoints are attached to the interface, so they differ in the last entry at most.
  have hinside := Context.insideEntries_perm hk hk' hl hl' settings.acl d
  have hname (es : List AclEntry) : (Acl.ofInterface l.interface d es).name = aclName l.interface d := rfl
  have hdirection (es : List AclEntry) : (Acl.ofInterface l.interface d es).direction = d := rfl
  have hentries (es : List AclEntry) : (Acl.ofInterface l.interface d es).entries = es := rfl
  refine ⟨(hname _).trans (hname _).symm, (hdirection _).trans (hdirection _).symm, l, d, e, e', rfl, he,
    he', ?_, ?_, hinside, ?_⟩
  · rw [hentries, c.value_listEntries]
  · rw [hentries, c.value_listEntries]
  rw [hentries, hentries, c.value_listEntries, c.value_listEntries]
  calc (c.insideEntries settings.acl e d ++ (c.outsideEntry? settings.acl e d).toList).Perm
        (c.insideEntries settings.acl e' d ++ (c.outsideEntry? settings.acl e' d).toList)
      ↔ (c.insideEntries settings.acl e d ++ (c.outsideEntry? settings.acl e d).toList).Perm
        (c.insideEntries settings.acl e d ++ (c.outsideEntry? settings.acl e' d).toList) :=
        (hinside.append_right _).symm.congr_right _
    _ ↔ (c.outsideEntry? settings.acl e d).toList.Perm (c.outsideEntry? settings.acl e' d).toList :=
        List.perm_append_left_iff _
    _ ↔ c.outsideEntry? settings.acl e d = c.outsideEntry? settings.acl e' d := toList_perm_toList_iff

/-- Two servers on one interface, each of them behind a gateway outside, and a client that both let
in. -/
def Sample.gateways (first second : String) : Context :=
  let rows := [row "10.0.0.1" "10.0.0.9" "http" .provider, row "10.0.0.2" "10.0.0.9" "http" .provider]
  let behind (address gateway : String) : Endpoint :=
    { endpoint address "tap0" with parents := [key gateway] }
  ({ snapshot [] rows with endpoints := [behind "10.0.0.1" first, behind "10.0.0.2" second,
      endpoint "10.0.0.9" "tap1"] } : Snapshot).context

/-- Servers behind one gateway: the order changes that of the pairwise entries only. -/
theorem rendering_order_one_gateway :
    let c := Sample.gateways "192.168.1.1" "192.168.1.1"
    let listed (ks : List EndpointKey) := (({} : Renderer).updateAll c ks).renderer.device.acls.get?
      (.ofLocation Sample.serverLocation .ingress)
    ∃ acl acl', listed [Sample.key "10.0.0.1", Sample.key "10.0.0.2"] = some acl ∧
      listed [Sample.key "10.0.0.2", Sample.key "10.0.0.1"] = some acl' ∧
      acl.entries.map AclEntry.name =
        ["http_10.0.0.2_10.0.0.9", "http_10.0.0.1_10.0.0.9", "permit_external_ingress"] ∧
      acl'.entries.map AclEntry.name =
        ["http_10.0.0.1_10.0.0.9", "http_10.0.0.2_10.0.0.9", "permit_external_ingress"] ∧
      acl.entries.Perm acl'.entries := by
  intro c listed
  have hswap : [Sample.key "10.0.0.1", Sample.key "10.0.0.2"].Perm
      [Sample.key "10.0.0.2", Sample.key "10.0.0.1"] := List.Perm.swap _ _ _
  have hnames : ((listed [Sample.key "10.0.0.1", Sample.key "10.0.0.2"]).map fun acl =>
      acl.entries.map AclEntry.name) = some ["http_10.0.0.2_10.0.0.9", "http_10.0.0.1_10.0.0.9",
        "permit_external_ingress"] := by decide +kernel
  have hnames' : ((listed [Sample.key "10.0.0.2", Sample.key "10.0.0.1"]).map fun acl =>
      acl.entries.map AclEntry.name) = some ["http_10.0.0.1_10.0.0.9", "http_10.0.0.2_10.0.0.9",
        "permit_external_ingress"] := by decide +kernel
  obtain ⟨acl, hacl, hnames⟩ := Option.map_eq_some_iff.mp hnames
  obtain ⟨acl', hacl', hnames'⟩ := Option.map_eq_some_iff.mp hnames'
  obtain ⟨-, -, -, hlists⟩ := rendering_order (c := c) hswap {}
  obtain ⟨-, -, l, d, e, e', htarget, he, he', -, -, -, hiff⟩ := hlists _ acl acl' hacl hacl'
  obtain ⟨rfl, rfl⟩ := AclTarget.ofLocation_inj.mp htarget
  have hsame : ((c.lastOn? {} [Sample.key "10.0.0.1", Sample.key "10.0.0.2"] Sample.serverLocation).map
      fun e => c.outsideEntry? {} e .ingress) =
        (c.lastOn? {} [Sample.key "10.0.0.2", Sample.key "10.0.0.1"] Sample.serverLocation).map
          fun e => c.outsideEntry? {} e .ingress := by decide +kernel
  rw [he, he'] at hsame
  exact ⟨acl, acl', hacl, hacl', hnames, hnames', hiff.mpr (Option.some.inj hsame)⟩

/-- Servers behind different gateways: the order decides which of the gateways is let in. -/
theorem not_rendering_order_free : ¬ ∀ (c : Context) (settings : Settings) (ks ks' : List EndpointKey),
    c.Reachable → ks.Perm c.rendererEndpoints → ks'.Perm c.rendererEndpoints →
      let s := (({ settings := settings } : Renderer).updateAll c ks).renderer.device
      let s' := (({ settings := settings } : Renderer).updateAll c ks').renderer.device
      s.bindings = s'.bindings ∧ (∀ t, s.acls.contains t = true ↔ s'.acls.contains t = true) ∧
        ∀ t acl acl', s.acls.get? t = some acl → s'.acls.get? t = some acl' →
          acl.entries.Perm acl'.entries := by
  intro hfree
  let c := Sample.gateways "192.168.1.1" "192.168.1.2"
  let listed (ks : List EndpointKey) := (({} : Renderer).updateAll c ks).renderer.device.acls.get?
    (.ofLocation Sample.serverLocation .ingress)
  have hkeys : c.rendererEndpoints = [Sample.key "10.0.0.1", Sample.key "10.0.0.2"] := by decide +kernel
  obtain ⟨-, -, hlists⟩ := hfree c {} [Sample.key "10.0.0.1", Sample.key "10.0.0.2"]
    [Sample.key "10.0.0.2", Sample.key "10.0.0.1"] (Snapshot.reachable_context _)
    (hkeys ▸ List.Perm.refl _) (hkeys ▸ List.Perm.swap _ _ _)
  let gateway : Option Cidr := some (.host (.v4 ⟨192, 168, 1, 1⟩))
  have habsent : ((listed [Sample.key "10.0.0.1", Sample.key "10.0.0.2"]).map fun acl =>
      decide (gateway ∈ acl.entries.map AclEntry.source)) = some false := by decide +kernel
  have hpresent : ((listed [Sample.key "10.0.0.2", Sample.key "10.0.0.1"]).map fun acl =>
      decide (gateway ∈ acl.entries.map AclEntry.source)) = some true := by decide +kernel
  obtain ⟨acl, hacl, habsent⟩ := Option.map_eq_some_iff.mp habsent
  obtain ⟨acl', hacl', hpresent⟩ := Option.map_eq_some_iff.mp hpresent
  have hperm := hlists _ acl acl' hacl hacl'
  exact of_decide_eq_false habsent ((hperm.map AclEntry.source).mem_iff.mpr (of_decide_eq_true hpresent))

end GroupPolicy

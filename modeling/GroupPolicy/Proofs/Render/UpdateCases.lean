import GroupPolicy.Proofs.Render.Installed

namespace GroupPolicy

/-- What an update of an endpoint can come to. -/
inductive UpdateCase where
  /-- The endpoint is not known, or it is attached nowhere. -/
  | unresolved
  /-- Its interface is excluded. -/
  | leftAlone
  /-- The node of its interface cannot be reached. -/
  | refused
  /-- Its lists are installed. -/
  | installed
  deriving DecidableEq

/-- How often an update asks a device to do something. -/
def UpdateCase.calls : UpdateCase → Nat
  | .unresolved => 0
  | .leftAlone => 0
  | .refused => 1
  | .installed => 4

def UpdateCase.fails : UpdateCase → Bool
  | .unresolved => true
  | .leftAlone => false
  | .refused => true
  | .installed => false

namespace Context

/-- What an update of an endpoint comes to if some nodes cannot be reached. -/
def updateCase (c : Context) (settings : Settings) (unreachable : SortedSet String)
    (k : EndpointKey) : UpdateCase :=
  match c.locationOf? k with
  | none => .unresolved
  | some l =>
    if settings.excludes l then .leftAlone
    else if unreachable.mem l.node then .refused
    else .installed

/-- The failures of an update: the endpoint is not known, it is attached nowhere, or it is attached to
an interface in use whose node cannot be reached. -/
inductive UpdateFails (c : Context) (settings : Settings) (unreachable : SortedSet String)
    (k : EndpointKey) : RenderError → Prop
  | unknown (he : c.endpoint? k = none) :
      UpdateFails c settings unreachable k (.resolve (.unknownEndpoint k))
  | unlocated {e : Endpoint} (he : c.endpoint? k = some e) (hl : e.location? = none) :
      UpdateFails c settings unreachable k (.resolve (.noLocation k))
  | refused {l : Location} (hl : c.locationOf? k = some l) (hexcluded : settings.excludes l = false)
      (hnode : unreachable.mem l.node = true) :
      UpdateFails c settings unreachable k (.write ⟨l.node, "write_acl", "node unreachable"⟩)

variable {c : Context} {settings : Settings} {unreachable : SortedSet String} {k : EndpointKey}
  {l : Location} {cause cause' : RenderError}

theorem updateCase_eq_installed_iff : c.updateCase settings unreachable k = .installed ↔
    ∃ l, c.locationOf? k = some l ∧ settings.excludes l = false ∧
      unreachable.mem l.node = false := by
  unfold updateCase
  cases c.locationOf? k with
  | none => simp
  | some l =>
    cases hexcluded : settings.excludes l <;> cases hreach : unreachable.mem l.node <;>
      simp [hexcluded, hreach]

theorem UpdateFails.unique (h : c.UpdateFails settings unreachable k cause)
    (h' : c.UpdateFails settings unreachable k cause') : cause = cause' := by
  -- The reasons exclude one another by whether the endpoint is known and where it is attached.
  have hunlocated {e : Endpoint} {l : Location} (he : c.endpoint? k = some e)
      (hl : e.location? = none) : c.locationOf? k ≠ some l := by
    rw [locationOf?_of_endpoint? he, hl]
    exact (Option.some_ne_none l).symm
  have hunknown {l : Location} (he : c.endpoint? k = none) : c.locationOf? k ≠ some l := by
    rw [locationOf?, he]
    exact (Option.some_ne_none l).symm
  cases h with
  | unknown he =>
    cases h' with
    | unknown => rfl
    | unlocated he' => cases he.symm.trans he'
    | refused hl' => exact absurd hl' (hunknown he)
  | unlocated he hl =>
    cases h' with
    | unknown he' => cases he'.symm.trans he
    | unlocated => rfl
    | refused hl' => exact absurd hl' (hunlocated he hl)
  | refused hl =>
    cases h' with
    | unknown he' => exact absurd hl (hunknown he')
    | unlocated he' hl' => exact absurd hl (hunlocated he' hl')
    | refused hl' =>
      obtain rfl := Option.some.inj (hl.symm.trans hl')
      rfl

theorem UpdateFails.fails_updateCase (h : c.UpdateFails settings unreachable k cause) :
    (c.updateCase settings unreachable k).fails = true := by
  cases h with
  | unknown he =>
    rw [updateCase, locationOf?, he]
    rfl
  | unlocated he hl =>
    rw [updateCase, locationOf?_of_endpoint? he, hl]
    rfl
  | refused hl hexcluded hnode =>
    rw [updateCase, hl]
    dsimp only
    rw [hexcluded, if_neg Bool.false_ne_true, if_pos hnode]
    rfl

end Context

namespace Device

/-- The devices after the lists of some interfaces have been replaced: these are there, bound to their
interfaces, and everything else is what it was. -/
structure Overwritten (s s' : Device) (lists? : Location → Option (AclDirection → List AclEntry)) :
    Prop where
  unreachable_eq : s'.unreachable = s.unreachable
  acls_eq : ∀ l d, s'.acls.get? (.ofLocation l d) =
    ((lists? l).map fun lists => Acl.ofInterface l.interface d (lists d)).or
      (s.acls.get? (.ofLocation l d))
  acls_others : ∀ t, (∀ l d, t ≠ .ofLocation l d) → s'.acls.get? t = s.acls.get? t
  bindings_eq : ∀ l d, s'.bindings.get? ⟨l, d⟩ =
    ((lists? l).map fun _ => aclName l.interface d).or (s.bindings.get? ⟨l, d⟩)

variable {s s' s'' : Device} {location : Location}
  {first second : Location → Option (AclDirection → List AclEntry)}

namespace Overwritten

theorem of_none (s : Device) (calls : Nat) : s.Overwritten { s with calls } fun _ => none where
  unreachable_eq := rfl
  acls_eq _ _ := rfl
  acls_others _ _ := rfl
  bindings_eq _ _ := rfl

/-- What is replaced twice holds what came second. -/
theorem trans (h : s.Overwritten s' first) (h' : s'.Overwritten s'' second) :
    s.Overwritten s'' fun l => (second l).or (first l) where
  unreachable_eq := h'.unreachable_eq.trans h.unreachable_eq
  acls_eq l d := by
    rw [h'.acls_eq, h.acls_eq, Option.map_or, Option.or_assoc]
  acls_others t ht := (h'.acls_others t ht).trans (h.acls_others t ht)
  bindings_eq l d := by
    rw [h'.bindings_eq, h.bindings_eq, Option.map_or, Option.or_assoc]

end Overwritten

theorem overwritten_withLists (s : Device) (location : Location)
    (lists : AclDirection → List AclEntry) :
    s.Overwritten (s.withLists location lists)
      fun l => if l = location then some lists else none where
  unreachable_eq := rfl
  acls_eq l d := by
    by_cases heq : l = location
    · subst heq
      rw [if_pos rfl, acls_withLists]
      rfl
    · have ht (d' : AclDirection) : AclTarget.ofLocation l d ≠ .ofLocation location d' :=
        fun htarget => heq (AclTarget.ofLocation_inj.mp htarget).1
      rw [if_neg heq, acls_withLists_of_ne _ _ _ ht]
      rfl
  acls_others t ht := acls_withLists_of_ne _ _ _ (ht location)
  bindings_eq l d := by
    by_cases heq : l = location
    · subst heq
      rw [if_pos rfl, bindings_withLists]
      rfl
    · rw [if_neg heq, bindings_withLists_of_ne _ _ _ heq]
      rfl

/-- A node that cannot be reached refuses the first list, and no other is tried. -/
theorem installAll_of_unreachable (hreach : s.unreachable.mem location.node = true) (l : Acl)
    (rest : List Acl) :
    (s.installAll location (l :: rest)).1 = { s with calls := s.calls + 1 } ∧
      (s.installAll location (l :: rest)).2.value =
        .error ⟨location.node, "write_acl", "node unreachable"⟩ := by
  simp [installAll, install, writeAcl, ask, hreach]

end Device

namespace Renderer

/-- The entries that an update puts into the lists of an endpoint. -/
def listsOf (r : Renderer) (c : Context) (e : Endpoint) (d : AclDirection) : List AclEntry :=
  (c.listEntries (r.regroup c).2 r.settings.acl e d).value

/-- Whether an update comes to some case: what it returns, how often it asks a device to do something,
and what the devices hold after it. -/
def ComesTo (r : Renderer) (c : Context) (k : EndpointKey) : UpdateCase → Prop
  | .unresolved => (r.update c k).renderer.device = r.device ∧
      ∃ cause, c.UpdateFails r.settings r.device.unreachable k (.resolve cause) ∧
        (r.update c k).outcome.value = .error (.resolve cause)
  | .leftAlone => (r.update c k).renderer.device = r.device ∧ (r.update c k).outcome.value = .ok ()
  | .refused => (r.update c k).renderer.device = { r.device with calls := r.device.calls + 1 } ∧
      ∃ cause, c.UpdateFails r.settings r.device.unreachable k (.write cause) ∧
        (r.update c k).outcome.value = .error (.write cause)
  | .installed => (r.update c k).outcome.value = .ok () ∧
      (r.update c k).renderer.device.calls = r.device.calls + 4 ∧
      ∃ e l, c.endpoint? k = some e ∧ e.location? = some l ∧
        r.device.Overwritten (r.update c k).renderer.device
          fun l' => if l' = l then some (r.listsOf c e) else none

variable {r : Renderer} {c : Context} {k : EndpointKey} {e : Endpoint} {l : Location}

theorem comesTo_of_unknown (he : c.endpoint? k = none) : r.ComesTo c k .unresolved := by
  refine ⟨device_update_of_not ?_, _, .unknown he, ?_⟩
  · rintro ⟨e, l, he', -⟩
    cases he.symm.trans he'
  · simp only [update, resolveAcls, he]

theorem comesTo_of_unlocated (he : c.endpoint? k = some e) (hl : e.location? = none) :
    r.ComesTo c k .unresolved := by
  have hcause : e.resolveLocation = .error (.noLocation k) := by
    rw [Endpoint.resolveLocation, hl, Context.key_of_endpoint? he]
  refine ⟨device_update_of_not ?_, _, .unlocated he hl, ?_⟩
  · rintro ⟨e', l, he', hl', -⟩
    obtain rfl := Option.some.inj (he.symm.trans he')
    cases hl.symm.trans hl'
  · simp only [update, resolveAcls, he, hcause]

theorem comesTo_of_excluded (he : c.endpoint? k = some e) (hl : e.location? = some l)
    (hexcluded : r.settings.excludes l = true) : r.ComesTo c k .leftAlone := by
  have hresolve : e.resolveLocation = .ok l := by rw [Endpoint.resolveLocation, hl]
  have hkept : (r.regroup c).1.settings.excludes l = true := hexcluded
  refine ⟨device_update_of_not ?_, ?_⟩
  · rintro ⟨e', l', he', hl', hin⟩
    obtain rfl := Option.some.inj (he.symm.trans he')
    obtain rfl := Option.some.inj (hl.symm.trans hl')
    cases hexcluded.symm.trans hin
  · simp only [update, resolveAcls, he, hresolve, hkept, if_true]

theorem comesTo_of_unreachable (he : c.endpoint? k = some e) (hl : e.location? = some l)
    (hexcluded : r.settings.excludes l = false)
    (hreach : r.device.unreachable.mem l.node = true) : r.ComesTo c k .refused := by
  obtain ⟨hrenderer, hvalue⟩ := update_of_located he hl hexcluded
  obtain ⟨hdevice, herror⟩ := Device.installAll_of_unreachable hreach
    (.ofInterface l.interface .ingress (r.listsOf c e .ingress))
    [.ofInterface l.interface .egress (r.listsOf c e .egress)]
  have hlocation : c.locationOf? k = some l := (Context.locationOf?_of_endpoint? he).trans hl
  refine ⟨?_, _, .refused hlocation hexcluded hreach, ?_⟩
  · rw [hrenderer]
    exact hdevice
  · rw [hvalue]
    exact congrArg (Except.mapError RenderError.write) herror

theorem comesTo_of_reachable (he : c.endpoint? k = some e) (hl : e.location? = some l)
    (hexcluded : r.settings.excludes l = false)
    (hreach : r.device.unreachable.mem l.node = false) : r.ComesTo c k .installed := by
  have hdevice : (r.update c k).renderer.device = r.device.withLists l (r.listsOf c e) := by
    rw [(update_of_located he hl hexcluded).1]
    exact Device.installAll_of_reachable hreach _
  rw [ComesTo, hdevice]
  exact ⟨(update_of_reachable he hl hexcluded hreach).1, rfl, e, l, he, hl,
    r.device.overwritten_withLists l _⟩

theorem comesTo_updateCase (r : Renderer) (c : Context) (k : EndpointKey) :
    r.ComesTo c k (c.updateCase r.settings r.device.unreachable k) := by
  unfold Context.updateCase Context.locationOf?
  cases he : c.endpoint? k with
  | none => exact comesTo_of_unknown he
  | some e =>
    rw [Option.bind_some]
    cases hl : e.location? with
    | none => exact comesTo_of_unlocated he hl
    | some l =>
      dsimp only
      cases hexcluded : r.settings.excludes l with
      | true => exact comesTo_of_excluded he hl hexcluded
      | false =>
        cases hreach : r.device.unreachable.mem l.node with
        | true => exact comesTo_of_unreachable he hl hexcluded hreach
        | false => exact comesTo_of_reachable he hl hexcluded hreach

namespace ComesTo

variable {x y : UpdateCase}

theorem calls_eq (h : r.ComesTo c k x) :
    (r.update c k).renderer.device.calls = r.device.calls + x.calls := by
  cases x with
  | unresolved =>
    rw [h.1]
    rfl
  | leftAlone =>
    rw [h.1]
    rfl
  | refused =>
    rw [h.1]
    rfl
  | installed => exact h.2.1

theorem isOk_eq (h : r.ComesTo c k x) : (r.update c k).outcome.value.isOk = !x.fails := by
  cases x with
  | unresolved =>
    obtain ⟨-, cause, -, hvalue⟩ := h
    rw [hvalue]
    rfl
  | leftAlone =>
    rw [h.2]
    rfl
  | refused =>
    obtain ⟨-, cause, -, hvalue⟩ := h
    rw [hvalue]
    rfl
  | installed =>
    rw [h.1]
    rfl

theorem exists_failure (h : r.ComesTo c k x) (hx : x.fails = true) :
    ∃ cause, c.UpdateFails r.settings r.device.unreachable k cause ∧
      (r.update c k).outcome.value = .error cause := by
  cases x with
  | unresolved =>
    obtain ⟨-, cause, hfails, hvalue⟩ := h
    exact ⟨_, hfails, hvalue⟩
  | leftAlone => cases hx
  | refused =>
    obtain ⟨-, cause, hfails, hvalue⟩ := h
    exact ⟨_, hfails, hvalue⟩
  | installed => cases hx

/-- Different cases differ in the outcome of the update, or in how often it asks a device. -/
theorem unique (hx : r.ComesTo c k x) (hy : r.ComesTo c k y) : x = y := by
  have hcalls : x.calls = y.calls := Nat.add_left_cancel (hx.calls_eq.symm.trans hy.calls_eq)
  have hfails : x.fails = y.fails := Bool.not_inj (hx.isOk_eq.symm.trans hy.isOk_eq)
  cases x <;> cases y <;> simp_all [UpdateCase.calls, UpdateCase.fails]

end ComesTo

/-- An update comes to exactly one case, and to which one depends on the devices only by the nodes that
cannot be reached. -/
theorem comesTo_iff {x : UpdateCase} :
    r.ComesTo c k x ↔ x = c.updateCase r.settings r.device.unreachable k := by
  constructor
  · exact fun h => h.unique (r.comesTo_updateCase c k)
  · rintro rfl
    exact r.comesTo_updateCase c k

theorem update_eq_error_iff {cause : RenderError} :
    (r.update c k).outcome.value = .error cause ↔
      c.UpdateFails r.settings r.device.unreachable k cause := by
  have hcase := r.comesTo_updateCase c k
  constructor
  · intro hvalue
    have hfailed := hcase.isOk_eq
    rw [hvalue, eq_comm, Bool.not_eq_eq_eq_not] at hfailed
    obtain ⟨cause', hfails, hvalue'⟩ := hcase.exists_failure hfailed
    rw [hvalue] at hvalue'
    exact Except.error.inj hvalue' ▸ hfails
  · intro hfails
    obtain ⟨cause', hfails', hvalue⟩ := hcase.exists_failure hfails.fails_updateCase
    rw [hvalue, hfails'.unique hfails]

end Renderer

end GroupPolicy

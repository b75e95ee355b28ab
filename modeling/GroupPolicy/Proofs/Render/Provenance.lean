import GroupPolicy.Proofs.Render.Runs

namespace GroupPolicy

/-- What an entry is rendered for. -/
inductive Origin where
  /-- A rule of a policy between two endpoints. -/
  | policy
  /-- A subnet of a tenant, whose traffic is denied by default. -/
  | subnet
  /-- An endpoint outside, whose traffic is permitted by default. -/
  | outside
  deriving DecidableEq, Repr

/-- An entry with its origin. -/
structure SourcedEntry where
  entry : AclEntry
  origin : Origin
  deriving DecidableEq

namespace SourcedEntry

/-- Whether an entry is one that is rendered for what it is said to be rendered for. -/
def IsGenuine (x : SourcedEntry) : Prop :=
  match x.origin with
  | .policy => ∃ (policy : AppliedPolicy) (owner peer : Endpoint) (d : AclDirection),
      x.entry ∈ policy.entries owner peer d
  | .subnet => ∃ (s : ForwardingSubnet) (d : AclDirection),
      s.isTenant = true ∧ x.entry = Context.denyEntry d s
  | .outside => ∃ (p : Cidr) (d : AclDirection), x.entry = Context.permitEntry d p

/-- A list with one more entry: it replaces the first entry of its name, or comes last. -/
def put (e : SourcedEntry) : List SourcedEntry → List SourcedEntry
  | [] => [e]
  | x :: r => if x.entry.name = e.entry.name then e :: r else x :: put e r

theorem map_entry_put (e : SourcedEntry) (l : List SourcedEntry) :
    (put e l).map entry = Acl.putEntry e.entry (l.map entry) := by
  induction l with
  | nil => rfl
  | cons x r ih =>
    rw [put, List.map_cons, Acl.putEntry]
    by_cases hname : x.entry.name = e.entry.name
    · rw [if_pos hname, if_pos hname, List.map_cons]
    · rw [if_neg hname, if_neg hname, List.map_cons, ih]

theorem mem_put {e x : SourcedEntry} {l : List SourcedEntry} (h : x ∈ put e l) : x = e ∨ x ∈ l := by
  induction l with
  | nil => exact .inl (List.mem_singleton.mp h)
  | cons y r ih =>
    rw [put] at h
    split at h
    · rcases List.mem_cons.mp h with rfl | h
      · exact .inl rfl
      · exact .inr (List.mem_cons_of_mem y h)
    · rcases List.mem_cons.mp h with rfl | h
      · exact .inr List.mem_cons_self
      · rcases ih h with rfl | h
        · exact .inl rfl
        · exact .inr (List.mem_cons_of_mem y h)

theorem mem_put_self (e : SourcedEntry) (l : List SourcedEntry) : e ∈ put e l := by
  induction l with
  | nil => exact List.mem_singleton_self e
  | cons x r ih =>
    rw [put]
    split
    · exact List.mem_cons_self
    · exact List.mem_cons_of_mem x ih

/-- A list after planned entries have been written to it: all of them come from policies. -/
def write (es : List AclEntry) (l : List SourcedEntry) : List SourcedEntry :=
  es.foldl (fun l e => put ⟨e, .policy⟩ l) l

/-- A list after planned entries have been taken out of it. -/
def remove (es : List AclEntry) (l : List SourcedEntry) : List SourcedEntry :=
  l.filter fun x => !(es.map AclEntry.name).contains x.entry.name

theorem map_entry_write (es : List AclEntry) (l : List SourcedEntry) :
    (write es l).map entry = SyncMode.write.edit es (l.map entry) := by
  induction es generalizing l with
  | nil => rfl
  | cons e rest ih =>
    have hstep : write (e :: rest) l = write rest (put ⟨e, .policy⟩ l) := rfl
    rw [hstep, ih, map_entry_put]
    rfl

theorem map_entry_remove (es : List AclEntry) (l : List SourcedEntry) :
    (remove es l).map entry = SyncMode.remove.edit es (l.map entry) := by
  rw [remove, SyncMode.edit, List.filter_map]
  rfl

theorem mem_write {es : List AclEntry} {l : List SourcedEntry} {x : SourcedEntry}
    (h : x ∈ write es l) : x ∈ l ∨ ∃ e ∈ es, x = ⟨e, .policy⟩ := by
  induction es generalizing l with
  | nil => exact .inl h
  | cons e rest ih =>
    rcases ih (l := put ⟨e, .policy⟩ l) h with h | ⟨e', he', rfl⟩
    · rcases mem_put h with rfl | h
      · exact .inr ⟨e, List.mem_cons_self, rfl⟩
      · exact .inl h
    · exact .inr ⟨e', List.mem_cons_of_mem e he', rfl⟩

end SourcedEntry

namespace Context

/-- The entries of a list with their origins. -/
def sourcedEntries (c : Context) (g : Grouping) (settings : AclSettings) (owner : Endpoint)
    (d : AclDirection) : List SourcedEntry :=
  (c.interfaceEntries g owner d).value.map (⟨·, .policy⟩) ++
    ((if settings.denyTenantSubnets then c.denyEntries d else []).map (⟨·, .subnet⟩) ++
      (if settings.allowExternal then (c.externalEntry? owner d).toList else []).map (⟨·, .outside⟩))

variable {c : Context} {g : Grouping} {settings : AclSettings} {owner : Endpoint} {d : AclDirection}

theorem map_entry_sourcedEntries (c : Context) (g : Grouping) (settings : AclSettings)
    (owner : Endpoint) (d : AclDirection) :
    (c.sourcedEntries g settings owner d).map SourcedEntry.entry =
      (c.listEntries g settings owner d).value := by
  have hid (origin : Origin) (l : List AclEntry) :
      (l.map (fun e => SourcedEntry.mk e origin)).map SourcedEntry.entry = l := by
    rw [List.map_map]
    exact List.map_id l
  rw [sourcedEntries, List.map_append, List.map_append, hid, hid, hid]
  rfl

theorem isGenuine_sourcedEntries {x : SourcedEntry} (h : x ∈ c.sourcedEntries g settings owner d) :
    x.IsGenuine := by
  rw [sourcedEntries, List.mem_append, List.mem_append] at h
  rcases h with h | h | h
  · obtain ⟨e, he, rfl⟩ := List.mem_map.mp h
    rw [interfaceEntries, Logged.append, Logged.value_gather, List.mem_append, List.mem_flatMap] at he
    rcases he with he | ⟨j, -, he⟩
    · obtain ⟨-, peer, -, policy, -, -, he⟩ := mem_selectedEntries.mp he
      exact ⟨policy, owner, peer, d, he⟩
    · obtain ⟨neighbour, -, -, peer, -, policy, -, he⟩ := mem_sharedEntries.mp he
      exact ⟨policy, neighbour, peer, d, he⟩
  · obtain ⟨e, he, rfl⟩ := List.mem_map.mp h
    split at he
    · obtain ⟨s, hs, rfl⟩ := List.mem_map.mp he
      exact ⟨s, d, (List.mem_filter.mp hs).2, rfl⟩
    · cases he
  · obtain ⟨e, he, rfl⟩ := List.mem_map.mp h
    split at he
    · obtain ⟨p, -, rfl⟩ := Option.map_eq_some_iff.mp (Option.mem_toList.mp he)
      exact ⟨p, d, rfl⟩
    · cases he

end Context

/-- A renderer with a ledger of the entries on its devices. -/
structure Tracked where
  renderer : Renderer
  /-- The entries of every list with their origins. -/
  ledger : AclTarget → List SourcedEntry

namespace Tracked

/-- A renderer that has not done anything yet, with some settings and some nodes out of reach. -/
def fresh (settings : Settings) (unreachable : SortedSet String) : Tracked where
  renderer := { settings, device := { unreachable } }
  ledger _ := []

/-- Carries over what an operation changes to the lists of the nodes that can be reached. -/
def amend (s : Tracked) (r : Renderer)
    (change : AclTarget → List SourcedEntry → List SourcedEntry) : Tracked where
  renderer := r
  ledger t :=
    if s.renderer.device.unreachable.mem t.node then s.ledger t else change t (s.ledger t)

/-- Follows the update of an endpoint. -/
def update (c : Context) (s : Tracked) (k : EndpointKey) : Tracked :=
  s.amend (s.renderer.update c k).renderer fun t old =>
    match s.renderer.subject? c k t with
    | some (e, d) => c.sourcedEntries (s.renderer.regroup c).2 s.renderer.settings.acl e d
    | none => old

/-- Follows an operation. -/
def perform (s : Tracked) : Operation → Tracked
  | .regroup c => { s with renderer := (s.renderer.regroup c).1 }
  | .resolve c k => { s with renderer := (s.renderer.resolveAcls c k).renderer }
  | .update c k => s.update c k
  | .updatePeers c k => ((c.table.peers k).map (·.1)).foldl (update c) s
  | .plan c ch => { s with renderer := (s.renderer.plan c ch).renderer }
  | .sync .write p =>
    s.amend (s.renderer.sync .write p.plan).renderer fun t =>
      SourcedEntry.write (p.plan.getD t [])
  | .sync .remove p =>
    s.amend (s.renderer.sync .remove p.plan).renderer fun t =>
      SourcedEntry.remove (p.plan.getD t [])

/-- Follows a run. -/
def run (s : Tracked) (ops : List Operation) : Tracked := ops.foldl perform s

/-- The ledger lists exactly what the devices hold, and tells the truth about it. -/
structure Faithful (s : Tracked) : Prop where
  erases : ∀ t, (s.ledger t).map SourcedEntry.entry = s.renderer.device.entriesAt t
  genuine : ∀ t, ∀ x ∈ s.ledger t, x.IsGenuine

variable {s : Tracked}

theorem renderer_perform (s : Tracked) (op : Operation) :
    (s.perform op).renderer = s.renderer.perform op := by
  cases op with
  | updatePeers c k =>
    have hfold (ks : List EndpointKey) (s : Tracked) : (ks.foldl (update c) s).renderer =
        ks.foldl (fun r k => (r.update c k).renderer) s.renderer := by
      induction ks generalizing s with
      | nil => rfl
      | cons k rest ih => exact ih (s.update c k)
    rw [Renderer.perform_updatePeers, perform, hfold]
  | sync mode p => cases mode <;> rfl
  | _ => rfl

theorem renderer_run (s : Tracked) (ops : List Operation) :
    (s.run ops).renderer = s.renderer.run ops := by
  induction ops generalizing s with
  | nil => rfl
  | cons op rest ih =>
    rw [run, List.foldl_cons]
    refine (ih (s.perform op)).trans ?_
    rw [renderer_perform]
    rfl

namespace Faithful

theorem fresh (settings : Settings) (unreachable : SortedSet String) :
    (Tracked.fresh settings unreachable).Faithful where
  erases _ := rfl
  genuine _ _ hx := nomatch hx

theorem carry (h : s.Faithful) {r : Renderer} (hdevice : r.device = s.renderer.device) :
    ({ s with renderer := r } : Tracked).Faithful where
  erases t := by
    rw [hdevice]
    exact h.erases t
  genuine := h.genuine

/-- The ledger stays faithful if it is changed in the way in which the devices are. -/
theorem amend (h : s.Faithful) {r : Renderer}
    {change : AclTarget → List SourcedEntry → List SourcedEntry}
    {change' : AclTarget → List AclEntry → List AclEntry}
    (hedited : s.renderer.device.Edited r.device change')
    (herases : ∀ t l, (change t l).map SourcedEntry.entry = change' t (l.map SourcedEntry.entry))
    (hgenuine : ∀ t l, (∀ x ∈ l, x.IsGenuine) → ∀ x ∈ change t l, x.IsGenuine) :
    (s.amend r change).Faithful where
  erases t := by
    rw [Tracked.amend, hedited.entries]
    dsimp only
    split
    · exact h.erases t
    · rw [herases, h.erases]
  genuine t x hx := by
    rw [Tracked.amend] at hx
    dsimp only at hx
    split at hx
    · exact h.genuine t x hx
    · exact hgenuine t _ (h.genuine t) x hx

theorem update (h : s.Faithful) (c : Context) (k : EndpointKey) : (s.update c k).Faithful := by
  refine h.amend (s.renderer.edited_update c k) (fun t l => ?_) fun t l hl x hx => ?_
  · cases s.renderer.subject? c k t with
    | none => rfl
    | some found => exact c.map_entry_sourcedEntries _ _ found.1 found.2
  · cases hsubject : s.renderer.subject? c k t with
    | none =>
      rw [hsubject] at hx
      exact hl x hx
    | some found =>
      rw [hsubject] at hx
      exact Context.isGenuine_sourcedEntries hx

theorem perform (h : s.Faithful) (op : Operation) : (s.perform op).Faithful := by
  cases op with
  | regroup c => exact h.carry rfl
  | resolve c k => exact h.carry (s.renderer.device_resolveAcls c k)
  | update c k => exact h.update c k
  | updatePeers c k =>
    exact List.foldlRecOn _ _ h fun s hs j _ => hs.update c j
  | plan c ch => exact h.carry rfl
  | sync mode p =>
    have hedited := (s.renderer.edited_sync mode p.isAddressed).1
    cases mode with
    | write =>
      refine h.amend hedited (fun t l => SourcedEntry.map_entry_write _ l) fun t l hl x hx => ?_
      rcases SourcedEntry.mem_write hx with hx | ⟨e, he, rfl⟩
      · exact hl x hx
      · exact p.mem_entries he
    | remove =>
      refine h.amend hedited (fun t l => SourcedEntry.map_entry_remove _ l) fun t l hl x hx => ?_
      exact hl x (List.mem_filter.mp hx).1

end Faithful

/-- The ledger lists at every moment of a run what the devices hold, with the true origins. -/
theorem faithful_run (h : s.Faithful) (ops : List Operation) : (s.run ops).Faithful :=
  List.foldlRecOn _ _ h fun _ hs op _ => hs.perform op

end Tracked

end GroupPolicy

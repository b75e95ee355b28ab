import GroupPolicy.Proofs.Acl.Names
import GroupPolicy.Proofs.Ordered.Map
import GroupPolicy.Render.Renderer
import Mathlib.Data.List.SplitBy

namespace GroupPolicy

/-- The entries of a list after some have been written to it or taken out of it. -/
def SyncMode.edit (mode : SyncMode) (es l : List AclEntry) : List AclEntry :=
  match mode with
  | .write => es.foldl (fun l e => Acl.putEntry e l) l
  | .remove => l.filter fun e => !(es.map AclEntry.name).contains e.name

namespace SyncMode

@[simp]
theorem edit_nil (mode : SyncMode) (l : List AclEntry) : mode.edit [] l = l := by
  cases mode with
  | write => rfl
  | remove => simp [edit]

/-- Entries that are planned one after another are all planned. -/
theorem edit_append (mode : SyncMode) (es fs l : List AclEntry) :
    mode.edit (es ++ fs) l = mode.edit fs (mode.edit es l) := by
  cases mode with
  | write => simp only [edit, List.foldl_append]
  | remove =>
    simp only [edit, List.filter_filter, List.map_append]
    refine List.filter_congr fun e _ => ?_
    rw [List.contains_append, Bool.not_or, Bool.and_comm]

/-- If the names of a list tell its entries apart, taking entries out by their names takes out just
these. -/
theorem remove_edit_eq_filter {planned full : List AclEntry} (hnames : (full.map AclEntry.name).Nodup)
    (hplanned : ∀ e ∈ planned, e ∈ full) :
    SyncMode.remove.edit planned full = full.filter fun e => e ∉ planned := by
  refine List.filter_congr fun e he => ?_
  have hsame : e.name ∈ planned.map AclEntry.name ↔ e ∈ planned := by
    constructor
    · intro hname
      obtain ⟨x, hx, hxe⟩ := List.mem_map.mp hname
      rwa [← List.inj_on_of_nodup_map hnames (hplanned x hx) he hxe]
    · exact fun hmem => List.mem_map_of_mem hmem
  rw [Bool.eq_iff_iff, Bool.not_eq_true', ← Bool.not_eq_true, List.contains_iff_mem, hsame,
    decide_eq_true_eq]

end SyncMode

/-- The entries that pieces of a plan hold for one list. -/
def plannedAt (pieces : List (AclTarget × List AclEntry)) (t : AclTarget) : List AclEntry :=
  (pieces.filter fun piece => piece.1 = t).flatMap (·.2)

theorem plannedAt_append (pieces pieces' : List (AclTarget × List AclEntry)) (t : AclTarget) :
    plannedAt (pieces ++ pieces') t = plannedAt pieces t ++ plannedAt pieces' t := by
  simp [plannedAt]

theorem plannedAt_singleton (piece : AclTarget × List AclEntry) (t : AclTarget) :
    plannedAt [piece] t = if piece.1 = t then piece.2 else [] := by
  by_cases h : piece.1 = t <;> simp [plannedAt, h]

theorem plannedAt_cons (piece : AclTarget × List AclEntry) (rest : List (AclTarget × List AclEntry))
    (t : AclTarget) : plannedAt (piece :: rest) t = plannedAt [piece] t ++ plannedAt rest t :=
  plannedAt_append [piece] rest t

/-- Nothing is planned for a list without a piece of its own. -/
theorem plannedAt_eq_nil {pieces : List (AclTarget × List AclEntry)} {t : AclTarget}
    (h : ∀ piece ∈ pieces, piece.1 ≠ t) : plannedAt pieces t = [] := by
  have hnone : (pieces.filter fun piece => piece.1 = t) = [] := by
    rw [List.filter_eq_nil_iff]
    intro piece hpiece
    simpa using h piece hpiece
  rw [plannedAt, hnone, List.flatMap_nil]

namespace Device

/-- The entries of a list; a list that is not there has none. -/
def entriesAt (s : Device) (t : AclTarget) : List AclEntry :=
  ((s.acls.get? t).map Acl.entries).getD []

/-- The devices after an operation hold what they held before, except that the entries of the lists
on nodes that can be reached have changed in some way. -/
structure Edited (s s' : Device) (change : AclTarget → List AclEntry → List AclEntry) : Prop where
  unreachable_eq : s'.unreachable = s.unreachable
  kept : ∀ t, s.acls.contains t = true → s'.acls.contains t = true
  entries : ∀ t, s'.entriesAt t =
    if s.unreachable.mem t.node then s.entriesAt t else change t (s.entriesAt t)

variable {s s' s'' : Device} {change change' : AclTarget → List AclEntry → List AclEntry}
  {t : AclTarget} {node : String}

namespace Edited

theorem of_acls_eq (hunreachable : s'.unreachable = s.unreachable) (hacls : s'.acls = s.acls)
    (h : ∀ t, s.unreachable.mem t.node = false → change t (s.entriesAt t) = s.entriesAt t) :
    s.Edited s' change where
  unreachable_eq := hunreachable
  kept t ht := by rwa [hacls]
  entries t := by
    have heq : s'.entriesAt t = s.entriesAt t := by rw [entriesAt, hacls, entriesAt]
    rw [heq]
    cases hreach : s.unreachable.mem t.node with
    | true => rfl
    | false => exact (h t hreach).symm

/-- Putting a list on a node that can be reached changes this list only. -/
theorem of_insert {l : Acl} (hunreachable : s'.unreachable = s.unreachable)
    (hacls : s'.acls = s.acls.insert t l) (hreach : s.unreachable.mem t.node = false)
    (hself : change t (s.entriesAt t) = l.entries)
    (hothers : ∀ t', t' ≠ t → change t' (s.entriesAt t') = s.entriesAt t') : s.Edited s' change where
  unreachable_eq := hunreachable
  kept t' ht := by
    rw [hacls]
    exact SortedMap.contains_insert_of_contains ht t l
  entries t' := by
    rw [entriesAt, hacls]
    by_cases heq : t' = t
    · subst heq
      rw [SortedMap.get?_insert_self, hreach, hself]
      rfl
    · rw [SortedMap.get?_insert_of_ne _ _ heq, hothers t' heq]
      exact (ite_self _).symm

theorem trans (h : s.Edited s' change) (h' : s'.Edited s'' change') :
    s.Edited s'' fun t l => change' t (change t l) where
  unreachable_eq := h'.unreachable_eq.trans h.unreachable_eq
  kept t ht := h'.kept t (h.kept t ht)
  entries t := by
    rw [h'.entries, h.entries, h.unreachable_eq]
    cases s.unreachable.mem t.node <;> rfl

theorem congr (h : s.Edited s' change)
    (heq : ∀ t, s.unreachable.mem t.node = false → ∀ l, change t l = change' t l) :
    s.Edited s' change' where
  unreachable_eq := h.unreachable_eq
  kept := h.kept
  entries t := by
    rw [h.entries]
    cases hreach : s.unreachable.mem t.node with
    | true => rfl
    | false => exact heq t hreach _

end Edited

/-- A request to a node changes lists of this node only. Only a node that cannot be reached refuses
it. -/
theorem edited_ask {act : Device → Except String Device} (operation : String)
    (hothers : ∀ t : AclTarget, t.node ≠ node → ∀ l, change t l = l)
    (hact : s.unreachable.mem node = false →
      ∃ s', act { s with calls := s.calls + 1 } = .ok s' ∧ s.Edited s' change) :
    s.Edited (s.ask node operation act).device change ∧
      (s.unreachable.mem node = false → (s.ask node operation act).result = .ok ()) := by
  unfold ask
  dsimp only
  cases hreach : s.unreachable.mem node with
  | true =>
    rw [if_pos rfl]
    refine ⟨.of_acls_eq rfl rfl fun t ht => hothers t ?_ _, fun h => nomatch h⟩
    rintro rfl
    rw [hreach] at ht
    cases ht
  | false =>
    obtain ⟨s', hs', hedited⟩ := hact hreach
    rw [if_neg Bool.false_ne_true, hs']
    exact ⟨hedited, fun _ => rfl⟩

/-- A list that is written takes the place of what was there. -/
theorem edited_writeAcl (s : Device) (node : String) (l : Acl) :
    s.Edited (s.writeAcl node l).device (fun t old => if t = ⟨node, l.name⟩ then l.entries else old) ∧
      (s.unreachable.mem node = false → (s.writeAcl node l).result = .ok () ∧
        (s.writeAcl node l).device.acls.contains ⟨node, l.name⟩ = true) := by
  have hdone : s.Edited (s.writeAcl node l).device
        (fun t old => if t = ⟨node, l.name⟩ then l.entries else old) ∧
      (s.unreachable.mem node = false → (s.writeAcl node l).result = .ok ()) := by
    refine s.edited_ask "write_acl" (fun t ht old => if_neg fun heq => ?_) fun hreach => ?_
    · exact ht (congrArg AclTarget.node heq)
    · exact ⟨_, rfl, .of_insert rfl rfl hreach (if_pos rfl) fun t ht => if_neg ht⟩
  refine ⟨hdone.1, fun hreach => ⟨hdone.2 hreach, ?_⟩⟩
  simp [writeAcl, ask, hreach, SortedMap.contains]

/-- An interface can be bound to a list that its node holds, and no list changes by it. -/
theorem edited_bindAcl (s : Device) (location : Location) (l : Acl)
    (hheld : s.unreachable.mem location.node = false →
      s.acls.contains ⟨location.node, l.name⟩ = true) :
    s.Edited (s.bindAcl location l).device (fun _ old => old) ∧
      (s.unreachable.mem location.node = false → (s.bindAcl location l).result = .ok ()) := by
  refine s.edited_ask "bind_acl" (fun _ _ _ => rfl) fun hreach => ⟨_, if_pos (hheld hreach), ?_⟩
  exact .of_acls_eq rfl rfl fun _ _ => rfl

/-- A list that is installed takes the place of what was there. -/
theorem edited_install (s : Device) (location : Location) (l : Acl) :
    s.Edited (s.install location l).1
        (fun t old => if t = ⟨location.node, l.name⟩ then l.entries else old) ∧
      (s.unreachable.mem location.node = false → (s.install location l).2.value = .ok () ∧
        (s.install location l).1.acls.contains ⟨location.node, l.name⟩ = true) := by
  obtain ⟨hwritten, hok⟩ := s.edited_writeAcl location.node l
  obtain ⟨hbound, hboundOk⟩ := (s.writeAcl location.node l).device.edited_bindAcl location l
    fun hreach => (hok (hwritten.unreachable_eq ▸ hreach)).2
  rw [hwritten.unreachable_eq] at hboundOk
  unfold install
  dsimp only
  cases hresult : (s.writeAcl location.node l).result with
  | error e =>
    refine ⟨hwritten, fun hreach => ?_⟩
    rw [(hok hreach).1] at hresult
    cases hresult
  | ok =>
    dsimp only
    cases hresult' : ((s.writeAcl location.node l).device.bindAcl location l).result with
    | error e =>
      refine ⟨hwritten.trans hbound, fun hreach => ?_⟩
      rw [hboundOk hreach] at hresult'
      cases hresult'
    | ok => exact ⟨hwritten.trans hbound, fun hreach => ⟨rfl, hbound.kept _ (hok hreach).2⟩⟩

/-- Lists are installed one after another. -/
theorem edited_installAll (s : Device) (location : Location) (ls : List Acl) :
    s.Edited (s.installAll location ls).1
        (fun t old =>
          ls.foldl (fun old l => if t = ⟨location.node, l.name⟩ then l.entries else old) old) ∧
      (s.unreachable.mem location.node = false → (s.installAll location ls).2.value = .ok () ∧
        ∀ l ∈ ls, (s.installAll location ls).1.acls.contains ⟨location.node, l.name⟩ = true) := by
  induction ls generalizing s with
  | nil => exact ⟨.of_acls_eq rfl rfl fun t _ => rfl, fun _ => ⟨rfl, fun _ h => nomatch h⟩⟩
  | cons l rest ih =>
    obtain ⟨hfirst, hok⟩ := s.edited_install location l
    obtain ⟨hrest, hrestOk⟩ := ih (s.install location l).1
    rw [hfirst.unreachable_eq] at hrestOk
    unfold installAll
    split
    next s' e notices hinstall =>
      rw [hinstall] at hfirst hok
      cases hreach : s.unreachable.mem location.node with
      | false => cases (hok hreach).1
      -- The lists that are left out belong to the same node, which refuses them too.
      | true =>
        refine ⟨hfirst.congr fun t ht old => ?_, fun h => nomatch h⟩
        have hne (l : Acl) : t ≠ ⟨location.node, l.name⟩ := by
          rintro rfl
          rw [hreach] at ht
          cases ht
        simp [hne]
    next s' notices hinstall =>
      rw [hinstall] at hfirst hok hrest hrestOk
      refine ⟨hfirst.trans hrest, fun hreach => ⟨(hrestOk hreach).1, fun m hm => ?_⟩⟩
      rcases List.mem_cons.mp hm with rfl | hm
      · exact hrest.kept _ (hok hreach).2
      · exact (hrestOk hreach).2 m hm

/-- Planned entries change their own list only. -/
theorem edited_syncTarget (s : Device) (mode : SyncMode) (target : AclTarget) (es : List AclEntry)
    (hname : (parseAclName target.name).isSome = true) :
    s.Edited (s.syncTarget mode target es).device (fun t => mode.edit (plannedAt [(target, es)] t)) ∧
      (s.unreachable.mem target.node = false → (s.syncTarget mode target es).result = .ok ()) := by
  have hself (l : List AclEntry) : mode.edit (plannedAt [(target, es)] target) l = mode.edit es l := by
    rw [plannedAt_singleton, if_pos rfl]
  have hothers (t : AclTarget) (ht : t ≠ target) (l : List AclEntry) :
      mode.edit (plannedAt [(target, es)] t) l = l := by
    rw [plannedAt_singleton, if_neg (Ne.symm ht), SyncMode.edit_nil]
  have hnode (t : AclTarget) (ht : t.node ≠ target.node) (l : List AclEntry) :
      mode.edit (plannedAt [(target, es)] t) l = l :=
    hothers t (fun heq => ht (congrArg AclTarget.node heq)) l
  cases mode with
  | write =>
    obtain ⟨⟨interface, direction⟩, hparse⟩ := Option.isSome_iff_exists.mp hname
    have hheld : (s.acls.getD target (.ofInterface interface direction [])).entries =
        s.entriesAt target := by
      rw [SortedMap.getD, entriesAt]
      cases s.acls.get? target with
      | none => rfl
      | some l => rfl
    refine s.edited_ask "write_entries" hnode fun hreach => ?_
    rw [hparse]
    refine ⟨_, rfl, .of_insert rfl rfl hreach ?_ fun t ht => hothers t ht _⟩
    rw [hself, ← hheld]
    rfl
  | remove =>
    refine s.edited_ask "remove_entries" hnode fun hreach => ?_
    dsimp only
    cases hheld : s.acls.get? target with
    | none =>
      refine ⟨_, rfl, .of_acls_eq rfl rfl fun t _ => ?_⟩
      by_cases ht : t = target
      · subst ht
        rw [hself, entriesAt, hheld]
        rfl
      · exact hothers t ht _
    | some l =>
      refine ⟨_, rfl, .of_insert rfl rfl hreach ?_ fun t ht => hothers t ht _⟩
      rw [hself, entriesAt, hheld]
      rfl

/-- The planned lists of one node are edited one after another. -/
theorem edited_syncNode (s : Device) (mode : SyncMode) (pieces : List (AclTarget × List AclEntry))
    (hnode : ∀ piece ∈ pieces, piece.1.node = node)
    (hnames : ∀ piece ∈ pieces, (parseAclName piece.1.name).isSome = true) :
    s.Edited (s.syncNode mode pieces).1 (fun t => mode.edit (plannedAt pieces t)) ∧
      (s.unreachable.mem node = false → (s.syncNode mode pieces).2.value = .ok ()) := by
  induction pieces generalizing s with
  | nil => exact ⟨.of_acls_eq rfl rfl fun t _ => mode.edit_nil _, fun _ => rfl⟩
  | cons piece rest ih =>
    obtain ⟨target, es⟩ := piece
    have htarget : target.node = node := hnode (target, es) List.mem_cons_self
    have hname : (parseAclName target.name).isSome = true := hnames (target, es) List.mem_cons_self
    obtain ⟨hfirst, hok⟩ := s.edited_syncTarget mode target es hname
    obtain ⟨hrest, hrestOk⟩ := ih (s.syncTarget mode target es).device
      (fun piece hpiece => hnode piece (List.mem_cons_of_mem _ hpiece))
      (fun piece hpiece => hnames piece (List.mem_cons_of_mem _ hpiece))
    rw [hfirst.unreachable_eq] at hrestOk
    rw [htarget] at hok
    unfold syncNode
    dsimp only
    cases hresult : (s.syncTarget mode target es).result with
    | error e =>
      dsimp only
      cases hreach : s.unreachable.mem node with
      | false =>
        rw [hok hreach] at hresult
        cases hresult
      | true =>
        refine ⟨hfirst.congr fun t ht l => ?_, fun h => nomatch h⟩
        have hnone : plannedAt rest t = [] := by
          refine plannedAt_eq_nil fun piece hpiece heq => ?_
          rw [← heq, hnode piece (List.mem_cons_of_mem _ hpiece), hreach] at ht
          cases ht
        rw [plannedAt_cons (target, es) rest, hnone, List.append_nil]
    | ok =>
      dsimp only
      refine ⟨(hfirst.trans hrest).congr fun t _ l => ?_, hrestOk⟩
      rw [plannedAt_cons (target, es) rest, SyncMode.edit_append]

/-- The nodes of a plan are gone through one after another, whether or not earlier ones fail. -/
theorem edited_syncNodes (s : Device) (mode : SyncMode)
    (nodes : List (List (AclTarget × List AclEntry)))
    (hnodes : ∀ pieces ∈ nodes, ∃ node, ∀ piece ∈ pieces, piece.1.node = node)
    (hnames : ∀ piece ∈ nodes.flatten, (parseAclName piece.1.name).isSome = true) :
    s.Edited (s.syncNodes mode nodes).1 (fun t => mode.edit (plannedAt nodes.flatten t)) ∧
      ((∀ piece ∈ nodes.flatten, s.unreachable.mem piece.1.node = false) →
        (s.syncNodes mode nodes).2.value = .ok ()) := by
  induction nodes generalizing s with
  | nil => exact ⟨.of_acls_eq rfl rfl fun t _ => mode.edit_nil _, fun _ => rfl⟩
  | cons pieces rest ih =>
    rw [List.flatten_cons] at hnames ⊢
    obtain ⟨node, hnode⟩ := hnodes pieces List.mem_cons_self
    obtain ⟨hfirst, hok⟩ := s.edited_syncNode mode pieces hnode
      fun piece hpiece => hnames piece (List.mem_append_left _ hpiece)
    obtain ⟨hrest, hrestOk⟩ := ih (s.syncNode mode pieces).1
      (fun pieces hpieces => hnodes pieces (List.mem_cons_of_mem _ hpieces))
      (fun piece hpiece => hnames piece (List.mem_append_right _ hpiece))
    rw [hfirst.unreachable_eq] at hrestOk
    unfold syncNodes
    refine ⟨(hfirst.trans hrest).congr fun t _ l => ?_, fun hreach => ?_⟩
    · rw [plannedAt_append, SyncMode.edit_append]
    · have hlater := hrestOk fun piece hpiece => hreach piece (List.mem_append_right _ hpiece)
      have hnow : (s.syncNode mode pieces).2.value = .ok () := by
        cases pieces with
        | nil => rfl
        | cons piece r =>
          refine hok ?_
          rw [← hnode piece List.mem_cons_self]
          exact hreach piece (List.mem_append_left _ List.mem_cons_self)
      dsimp only
      rw [hnow, hlater]
      rfl

end Device

namespace Renderer

variable {r : Renderer} {c : Context} {k : EndpointKey} {e : Endpoint} {l : Location}

/-- The lists that an update makes for an endpoint. -/
def rendered (r : Renderer) (c : Context) (e : Endpoint) (l : Location) : List Acl :=
  AclDirection.all.map fun d =>
    .ofInterface l.interface d (c.listEntries (r.regroup c).2 r.settings.acl e d).value

/-- The endpoint and the direction of the list that an update puts in some place, if it puts one
there. -/
def subject? (r : Renderer) (c : Context) (k : EndpointKey) (t : AclTarget) :
    Option (Endpoint × AclDirection) :=
  (c.endpoint? k).bind fun e =>
    e.location?.bind fun l =>
      if r.settings.excludes l then none
      else (AclDirection.all.find? fun d => t = .ofLocation l d).map fun d => (e, d)

theorem subject?_ofLocation (he : c.endpoint? k = some e) (hl : e.location? = some l)
    (hexcluded : r.settings.excludes l = false) (d : AclDirection) :
    r.subject? c k (.ofLocation l d) = some (e, d) := by
  rw [subject?, he, Option.bind_some, hl, Option.bind_some, if_neg (by simp [hexcluded])]
  cases d <;> simp [AclDirection.all, AclTarget.ofLocation_inj]

/-- An update of an endpoint that is attached to an interface in use installs its lists. -/
theorem update_of_located (he : c.endpoint? k = some e) (hl : e.location? = some l)
    (hexcluded : r.settings.excludes l = false) :
    (r.update c k).renderer =
        { (r.regroup c).1 with device := (r.device.installAll l (r.rendered c e l)).1 } ∧
      (r.update c k).outcome.value =
        (r.device.installAll l (r.rendered c e l)).2.value.mapError .write := by
  have hresolve : e.resolveLocation = .ok l := by rw [Endpoint.resolveLocation, hl]
  have hsettings : (r.regroup c).1.settings = r.settings := rfl
  simp only [update, resolveAcls, he, hresolve, hsettings, hexcluded]
  exact ⟨rfl, rfl⟩

/-- Any other update leaves the devices alone. -/
theorem device_update_of_not (h : ¬∃ e l, c.endpoint? k = some e ∧ e.location? = some l ∧
    r.settings.excludes l = false) : (r.update c k).renderer.device = r.device := by
  unfold update resolveAcls
  cases he : c.endpoint? k with
  | none => rfl
  | some e =>
    dsimp only
    cases hl : e.location? with
    | none =>
      have hresolve : e.resolveLocation = .error (.noLocation e.key) := by
        rw [Endpoint.resolveLocation, hl]
      rw [hresolve]
    | some l =>
      have hresolve : e.resolveLocation = .ok l := by rw [Endpoint.resolveLocation, hl]
      rw [hresolve]
      dsimp only
      have hexcluded : (r.regroup c).1.settings.excludes l = true := by
        by_contra hin
        exact h ⟨e, l, he, hl, Bool.not_eq_true _ ▸ hin⟩
      rw [if_pos hexcluded]
      rfl

/-- An update puts the lists of an endpoint in place of what was there, and changes nothing else. -/
theorem edited_update (r : Renderer) (c : Context) (k : EndpointKey) :
    r.device.Edited (r.update c k).renderer.device fun t old =>
      match r.subject? c k t with
      | some (e, d) => (c.listEntries (r.regroup c).2 r.settings.acl e d).value
      | none => old := by
  by_cases hlocated : ∃ e l, c.endpoint? k = some e ∧ e.location? = some l ∧
      r.settings.excludes l = false
  · obtain ⟨e, l, he, hl, hexcluded⟩ := hlocated
    rw [(update_of_located he hl hexcluded).1]
    refine (r.device.edited_installAll l (r.rendered c e l)).1.congr fun t _ old => ?_
    simp only [rendered, AclDirection.all, List.map_cons, List.map_nil, List.foldl_cons,
      List.foldl_nil]
    by_cases hegress : t = .ofLocation l .egress
    · subst hegress
      rw [subject?_ofLocation he hl hexcluded]
      exact if_pos rfl
    · by_cases hingress : t = .ofLocation l .ingress
      · subst hingress
        rw [subject?_ofLocation he hl hexcluded]
        exact (if_neg hegress).trans (if_pos rfl)
      · have hnone : r.subject? c k t = none := by
          simp [subject?, he, hl, hexcluded, AclDirection.all, hegress, hingress]
        rw [hnone]
        exact (if_neg hegress).trans (if_neg hingress)
  · have hnone (t : AclTarget) : r.subject? c k t = none := by
      unfold subject?
      cases he : c.endpoint? k with
      | none => rfl
      | some e =>
        rw [Option.bind_some]
        cases hl : e.location? with
        | none => rfl
        | some l =>
          rw [Option.bind_some, if_pos]
          by_contra hexcluded
          exact hlocated ⟨e, l, he, hl, Bool.not_eq_true _ ▸ hexcluded⟩
    have hdevice := device_update_of_not hlocated
    refine .of_acls_eq (by rw [hdevice]) (by rw [hdevice]) fun t _ => ?_
    rw [hnone]

/-- An update of an endpoint on a node that can be reached succeeds, and leaves both of its lists
there. -/
theorem update_of_reachable (he : c.endpoint? k = some e) (hl : e.location? = some l)
    (hexcluded : r.settings.excludes l = false)
    (hreach : r.device.unreachable.mem l.node = false) :
    (r.update c k).outcome.value = .ok () ∧ ∀ d,
      (r.update c k).renderer.device.acls.contains (.ofLocation l d) = true ∧
        (r.update c k).renderer.device.entriesAt (.ofLocation l d) =
          (c.listEntries (r.regroup c).2 r.settings.acl e d).value := by
  obtain ⟨hrenderer, hvalue⟩ := update_of_located he hl hexcluded
  obtain ⟨hok, hheld⟩ := (r.device.edited_installAll l (r.rendered c e l)).2 hreach
  refine ⟨?_, fun d => ⟨?_, ?_⟩⟩
  · rw [hvalue, hok]
    rfl
  · rw [hrenderer]
    refine hheld (.ofInterface l.interface d _) (List.mem_map.mpr ⟨d, ?_, rfl⟩)
    cases d <;> decide
  · have hnode : r.device.unreachable.mem (AclTarget.ofLocation l d).node = false := hreach
    rw [(r.edited_update c k).entries, hnode, subject?_ofLocation he hl hexcluded]
    rfl

end Renderer

end GroupPolicy

import GroupPolicy.Proofs.Render.DraftSteps
import GroupPolicy.Proofs.Render.Provenance
import GroupPolicy.Proofs.Render.RuleEntry

namespace GroupPolicy

namespace Draft

variable {x y : Draft}

theorem run_append (x : Draft) (steps more : List Step) : x.run (steps ++ more) = (x.run steps).run more :=
  List.foldl_append ..

/-- A draft that some steps make of another one. -/
def Extends (x y : Draft) : Prop := ∃ steps, y = x.run steps

theorem Extends.refl (x : Draft) : x.Extends x := ⟨[], rfl⟩

theorem Extends.trans {z : Draft} (h : x.Extends y) (h' : y.Extends z) : x.Extends z := by
  obtain ⟨steps, rfl⟩ := h
  obtain ⟨more, rfl⟩ := h'
  exact ⟨steps ++ more, (x.run_append steps more).symm⟩

theorem extends_apply (x : Draft) (s : Step) : x.Extends (x.apply s) := ⟨[s], rfl⟩

theorem Extends.isUniform (h : x.Extends y) (hx : x.IsUniform) : y.IsUniform := by
  obtain ⟨steps, rfl⟩ := h
  exact hx.run steps

theorem extends_assign (role : AddressRole) (d : AclDirection) (owner peer : Endpoint) (x : Draft) :
    x.Extends (x.assign role d owner peer) := by
  unfold assign
  split
  next p hp =>
    unfold withAddress
    split
    · exact .refl x
    · cases role
      · exact x.extends_apply (.cidr .source p)
      · exact x.extends_apply (.cidr .destination p)
  next => exact .refl x

theorem extends_addressed (d : AclDirection) (owner peer : Endpoint) (x : Draft) :
    x.Extends (x.addressed d owner peer) :=
  (x.extends_assign .source d owner peer).trans (extends_assign .destination d owner peer _)

end Draft

namespace ClassifierKind

variable {ps : Parameters} {selected : Bool} {x y : Draft}

theorem extends_constrainLevel {level : ClassifierKind} (h : constrainLevel selected ps x level = .ok y) :
    x.Extends y := by
  cases level with
  | etherType =>
    rw [constrainLevel, constrainEtherType] at h
    split at h
    · split at h
      · cases h
      · obtain rfl := Except.ok.inj h
        exact .refl x
    · split at h
      · obtain rfl := Except.ok.inj h
        exact x.extends_apply (.etherType _)
      · cases h
  | ipProtocol =>
    rw [constrainLevel, constrainProtocol] at h
    split at h
    · split at h
      · cases h
      · obtain rfl := Except.ok.inj h
        exact .refl x
    · split at h
      · obtain rfl := Except.ok.inj h
        exact x.extends_apply (.protocol _)
      · cases h
  | l4 =>
    obtain ⟨source, -, h⟩ := ok_of_bind h
    obtain ⟨destination, -, h⟩ := ok_of_bind h
    split at h
    · obtain rfl := Except.ok.inj h
      exact .refl x
    · split at h
      · obtain rfl := Except.ok.inj h
        exact ⟨[.ports .source source, .ports .destination destination], rfl⟩
      · cases h

theorem extends_foldlM_constrainLevel {selected : ClassifierKind → Bool} {levels : List ClassifierKind}
    (h : levels.foldlM (fun x level => constrainLevel (selected level) ps x level) x = .ok y) :
    x.Extends y := by
  induction levels generalizing x with
  | nil =>
    obtain rfl := Except.ok.inj h
    exact .refl x
  | cons level levels ih =>
    obtain ⟨z, hz, h⟩ := ok_of_bind h
    exact (extends_constrainLevel hz).trans (ih h)

end ClassifierKind

theorem Specialization.extends_constrain {s : Specialization} {x y : Draft} (h : s.constrain x = .ok y) :
    x.Extends y :=
  ClassifierKind.extends_foldlM_constrainLevel h

namespace AclEntry

/-- An entry that some steps make of a new draft. -/
def IsBuilt (e : AclEntry) : Prop := ∃ (name : String) (x : Draft), Draft.Extends { name := name } x ∧ e = x.build

theorem IsBuilt.isUniform {e : AclEntry} (h : e.IsBuilt) {m : IpMatch} (hm : e.traffic.ip = some m) :
    m.IsUniform := by
  obtain ⟨name, x, hx, rfl⟩ := h
  exact (hx.isUniform (Draft.isUniform_new name)).build hm

end AclEntry

theorem AppliedPolicy.isBuilt_of_mem_entries {policy : AppliedPolicy} {owner peer : Endpoint}
    {d : AclDirection} {e : AclEntry} (h : e ∈ policy.entries owner peer d) : e.IsBuilt := by
  rw [entries_eq_filterMap] at h
  obtain ⟨rule, -, hrule⟩ := List.mem_filterMap.mp h
  obtain ⟨-, s, x, -, hx, -, -, rfl⟩ := ruleEntry?_eq_some_iff.mp hrule
  refine ⟨_, _, (Specialization.extends_constrain hx).trans ?_, rfl⟩
  exact (x.extends_apply (.action .permit)).trans (Draft.extends_addressed d owner peer _)

namespace Context

theorem isBuilt_denyEntry (d : AclDirection) (s : ForwardingSubnet) : (denyEntry d s).IsBuilt := by
  cases d with
  | ingress => exact ⟨_, _, ⟨[.cidr .destination s.cidr], rfl⟩, rfl⟩
  | egress => exact ⟨_, _, ⟨[.cidr .source s.cidr], rfl⟩, rfl⟩

theorem isBuilt_permitEntry (d : AclDirection) (p : Cidr) : (permitEntry d p).IsBuilt := by
  cases d with
  | ingress => exact ⟨_, _, ⟨[.action .permit, .cidr .source p], rfl⟩, rfl⟩
  | egress => exact ⟨_, _, ⟨[.action .permit, .cidr .destination p], rfl⟩, rfl⟩

end Context

theorem SourcedEntry.IsGenuine.isBuilt {x : SourcedEntry} (h : x.IsGenuine) : x.entry.IsBuilt := by
  obtain ⟨e, origin⟩ := x
  cases origin with
  | policy =>
    obtain ⟨policy, owner, peer, d, he⟩ := h
    exact AppliedPolicy.isBuilt_of_mem_entries he
  | subnet =>
    obtain ⟨s, d, -, rfl⟩ := h
    exact Context.isBuilt_denyEntry d s
  | outside =>
    obtain ⟨p, d, rfl⟩ := h
    exact Context.isBuilt_permitEntry d p

/-- Whatever a renderer is asked to do, in any contexts: every entry that its devices hold is what steps make
of a new draft, and each of its prefixes is of the version of its match. -/
theorem entries_uniform_run (settings : Settings) (unreachable : SortedSet String) (ops : List Operation)
    (t : AclTarget) {e : AclEntry}
    (he : e ∈ (Renderer.run { settings, device := { unreachable } } ops).device.entriesAt t) :
    e.IsBuilt ∧ ∀ m, e.traffic.ip = some m → m.IsUniform := by
  have hfaithful := Tracked.faithful_run (Tracked.Faithful.fresh settings unreachable) ops
  have herases := hfaithful.erases t
  rw [Tracked.renderer_run] at herases
  obtain ⟨x, hx, rfl⟩ := List.mem_map.mp (herases ▸ he)
  have hbuilt := (hfaithful.genuine t x hx).isBuilt
  exact ⟨hbuilt, fun m => hbuilt.isUniform⟩

end GroupPolicy

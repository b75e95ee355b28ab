import GroupPolicy.Proofs.Policy.Sample
import GroupPolicy.Proofs.Render.RuleEntry
import Mathlib.Data.List.Forall2

namespace GroupPolicy

namespace AclDirection

/-- The endpoint that traffic comes from: what enters was sent by the owner, and what leaves by its
peer. -/
def sender (d : AclDirection) (owner peer : Endpoint) : Endpoint :=
  match d with
  | .ingress => owner
  | .egress => peer

/-- The endpoint that traffic goes to. -/
def receiver (d : AclDirection) (owner peer : Endpoint) : Endpoint :=
  match d with
  | .ingress => peer
  | .egress => owner

end AclDirection

theorem AddressRole.endpoint_source (d : AclDirection) (owner peer : Endpoint) :
    AddressRole.source.endpoint d owner peer = d.sender owner peer := by
  cases d <;> rfl

theorem AddressRole.endpoint_destination (d : AclDirection) (owner peer : Endpoint) :
    AddressRole.destination.endpoint d owner peer = d.receiver owner peer := by
  cases d <;> rfl

/-- The addresses that an entry matches between two ends. If the ends have addresses of both versions,
that of the receiver decides. -/
def IpMatch.between? (source destination : Option Cidr) : Option IpMatch :=
  match destination with
  | some q => some
      { family := q.family, source := source.filter fun p => p.family = q.family, destination := some q }
  | none => source.map fun p => { family := p.family, source := some p }

namespace Draft

/-- The entry that a draft becomes between two ends, each with an address or without. -/
structure IsEntryBetween (source destination : Option Cidr) (x : Draft) (e : AclEntry) : Prop where
  name : e.name = x.name
  protocol : e.traffic.protocol = x.protocolMatch
  action : e.action = .permit
  dhcp : x.isDhcp = true → e.source = none ∧ e.destination = none
  receiver : x.isDhcp = false → ∀ q, destination = some q →
    e.destination = some q ∧ ∀ p, e.source = some p ↔ source = some p ∧ p.family = q.family
  sender : x.isDhcp = false → destination = none → e.destination = none ∧ e.source = source

/-- Whether a draft can become an entry between two ends: it covers the exchange of addresses, or one of
the ends has an address. -/
def isBoundBetween (source destination : Option Cidr) (x : Draft) : Bool :=
  x.isDhcp || source.isSome || destination.isSome

variable {d : AclDirection} {owner peer : Endpoint} {x : Draft}

theorem addressed_of_isDhcp (hdhcp : x.isDhcp = true) : x.addressed d owner peer = x := by
  have hassign (role : AddressRole) : x.assign role d owner peer = x := by
    unfold assign
    split
    · exact if_pos hdhcp
    · rfl
  rw [addressed, hassign, hassign]

theorem addressed_of_not_isDhcp (hdhcp : x.isDhcp = false) (hip : x.ip = none) :
    x.addressed d owner peer = { x with
      ip := IpMatch.between? (d.sender owner peer).routedCidr? (d.receiver owner peer).routedCidr? } := by
  have hwithSource (p : Cidr) : x.withAddress .source p = x.withSource p := if_neg (by simp [hdhcp])
  have hwithDestination (q : Cidr) {y : Draft} (hy : y.isDhcp = false) :
      y.withAddress .destination q = y.withDestination q := if_neg (by simp [hy])
  have hsource (p : Cidr) : (x.withSource p).isDhcp = false := hdhcp
  rw [addressed, assign, assign, AddressRole.endpoint_source, AddressRole.endpoint_destination]
  cases (d.sender owner peer).routedCidr? with
  | none =>
    cases (d.receiver owner peer).routedCidr? with
    | none => simp [IpMatch.between?, ← hip]
    | some q => simp [hwithDestination, hdhcp, withDestination, kept, hip, IpMatch.between?]
  | some p =>
    cases (d.receiver owner peer).routedCidr? with
    | none => simp [hwithSource, withSource, kept, hip, IpMatch.between?]
    | some q =>
      -- The address of the receiver comes second and drops that of the sender if it is of the other version.
      simp only [hwithSource, hwithDestination, hsource]
      simp [withSource, withDestination, kept, Option.filter_some, IpMatch.between?]

theorem isEntryBetween_build (hip : x.ip = none) (haction : x.action = .permit) :
    x.IsEntryBetween (d.sender owner peer).routedCidr? (d.receiver owner peer).routedCidr?
      (x.addressed d owner peer).build := by
  generalize hsource : (d.sender owner peer).routedCidr? = source
  generalize hdestination : (d.receiver owner peer).routedCidr? = destination
  cases hdhcp : x.isDhcp with
  | true =>
    rw [addressed_of_isDhcp hdhcp]
    refine ⟨rfl, rfl, haction, fun _ => ?_, by simp [hdhcp], by simp [hdhcp]⟩
    cases hetherType : x.etherType <;>
      simp [build, AclEntry.source, AclEntry.destination, ipMatch, hip, hetherType]
  | false =>
    rw [addressed_of_not_isDhcp hdhcp hip, hsource, hdestination]
    refine ⟨rfl, rfl, haction, by simp [hdhcp], fun _ => ?_, fun _ => ?_⟩
    · rintro q rfl
      simp [build, AclEntry.source, AclEntry.destination, ipMatch, IpMatch.between?,
        Option.filter_eq_some_iff]
    · rintro rfl
      cases source <;> cases x.etherType <;>
        simp [build, AclEntry.source, AclEntry.destination, ipMatch, IpMatch.between?]

end Draft

namespace AppliedPolicy

variable {policy : AppliedPolicy} {owner peer : Endpoint} {d : AclDirection} {x : Draft}

/-- A draft of a policy is what one of its rules has made of a new draft. -/
theorem exists_constrain_of_mem_drafts (h : x ∈ policy.drafts owner peer d) :
    ∃ (s : Specialization) (name : String) (y : Draft), s.constrain { name := name } = .ok y ∧
      x = y.permit := by
  rw [drafts_eq_filterMap] at h
  obtain ⟨rule, -, hrule⟩ := List.mem_filterMap.mp h
  obtain ⟨-, s, y, -, hy, -, rfl⟩ := ruleDraft?_eq_some_iff.mp hrule
  exact ⟨s, _, y, hy, rfl⟩

theorem ip_action_of_mem_drafts (h : x ∈ policy.drafts owner peer d) :
    x.ip = none ∧ x.action = .permit := by
  obtain ⟨s, name, y, hy, rfl⟩ := exists_constrain_of_mem_drafts h
  exact ⟨(Specialization.frame_of_constrain hy).2.1, rfl⟩

theorem isBound_addressed_of_mem_drafts (h : x ∈ policy.drafts owner peer d) :
    (x.addressed d owner peer).isBound =
      x.isBoundBetween (d.sender owner peer).routedCidr? (d.receiver owner peer).routedCidr? := by
  rw [Bool.eq_iff_iff, Draft.isBound_addressed d owner peer (ip_action_of_mem_drafts h).1]
  cases d <;>
    simp [Draft.isBoundBetween, AclDirection.sender, AclDirection.receiver, or_comm, or_left_comm, or_assoc]

/-- Every entry of a policy comes from a draft, in the order of the drafts. -/
theorem entries_eq_map (policy : AppliedPolicy) (owner peer : Endpoint) (d : AclDirection) :
    policy.entries owner peer d = ((policy.drafts owner peer d).filter
      (Draft.isBoundBetween (d.sender owner peer).routedCidr? (d.receiver owner peer).routedCidr?)).map
        fun x => (x.addressed d owner peer).build := by
  rw [entries, addressed_eq_map, List.filter_map, List.map_map]
  exact congrArg (List.map _) (List.filter_congr fun x hx => isBound_addressed_of_mem_drafts hx)

end AppliedPolicy

end GroupPolicy

import GroupPolicy.Proofs.Render.AcceptedParameters
import GroupPolicy.Proofs.Render.AddressAssignment

namespace GroupPolicy

/-- A range of ports that goes up is kept by the ports that it contains. -/
theorem PortBounds.matchesPort_range (r : PortRange) (port : UInt16) :
    (range r.lower r.upper).matchesPort port = r.contains port := rfl

namespace Draft

variable {b : Draft}

theorem ports_of_protocolMatch {source destination : Option PortRange}
    (h : b.protocolMatch = .tcp source destination ∨ b.protocolMatch = .udp source destination) :
    source = b.sourcePorts.toRange? ∧ destination = b.destinationPorts.toRange? := by
  unfold protocolMatch at h
  split at h
  · rcases h with h | h <;> cases h
  · split_ifs at h <;> rcases h with h | h <;> cases h <;> exact ⟨rfl, rfl⟩

end Draft

namespace ClassifierKind.TakenUp

variable {k : ClassifierKind} {ps : Parameters} {b : Draft}

theorem matchesPort_iff (h : k.TakenUp ps b) (role : AddressRole) (port : UInt16) :
    (b.ports role).matchesPort port = true ↔
      ∃ r, (b.ports role).toRange? = some r ∧ r.contains port = true := by
  cases hempty : (b.ports role).isEmpty with
  | true =>
    rw [isEmpty_iff.mp hempty]
    simp [PortBounds.matchesPort, PortBounds.toRange?]
  | false =>
    obtain ⟨r, hrange, hr⟩ := h.eq_range hempty
    rw [hr, hrange, PortBounds.matchesPort_range]
    simp

/-- A draft covers the exchange of addresses exactly if its ports do, in an entry of TCP or of UDP. -/
theorem isDhcp_iff (h : k.TakenUp ps b) : b.isDhcp = true ↔ ∃ source destination : PortRange,
    (b.protocolMatch = .tcp (some source) (some destination) ∨
      b.protocolMatch = .udp (some source) (some destination)) ∧
    ∃ ports ∈ dhcpPorts, source.contains ports.1 = true ∧ destination.contains ports.2 = true := by
  have hports (ports : UInt16 × UInt16) :
      (b.sourcePorts.matchesPort ports.1 && b.destinationPorts.matchesPort ports.2) = true ↔
        (∃ r, b.sourcePorts.toRange? = some r ∧ r.contains ports.1 = true) ∧
          ∃ r, b.destinationPorts.toRange? = some r ∧ r.contains ports.2 = true := by
    rw [Bool.and_eq_true]
    exact and_congr (h.matchesPort_iff .source ports.1) (h.matchesPort_iff .destination ports.2)
  simp only [Draft.isDhcp, List.any_eq_true, hports]
  constructor
  · rintro ⟨ports, hmem, ⟨source, hsource, hin⟩, destination, hdestination, hin'⟩
    refine ⟨source, destination, ?_, ports, hmem, hin, hin'⟩
    rw [← hsource, ← hdestination]
    -- Ports are taken up beside TCP and UDP only, so the entry keeps both ranges.
    rcases h.transport with hempty | htcp | hudp
    · have hnone : b.sourcePorts = {} := hempty .source
      rw [hnone] at hsource
      cases hsource
    · exact .inl (Draft.protocolMatch_of_tcp htcp)
    · exact .inr (Draft.protocolMatch_of_udp hudp)
  · rintro ⟨source, destination, hmatch, ports, hmem, hin, hin'⟩
    obtain ⟨hsource, hdestination⟩ := Draft.ports_of_protocolMatch hmatch
    exact ⟨ports, hmem, ⟨source, hsource.symm, hin⟩, destination, hdestination.symm, hin'⟩

end ClassifierKind.TakenUp

namespace Draft.IsEntryBetween

variable {source destination : Option Cidr} {x : Draft} {e : AclEntry}

theorem unaddressed_iff_isDhcp (h : x.IsEntryBetween source destination e)
    (hbound : x.isBoundBetween source destination = true) :
    (e.source = none ∧ e.destination = none) ↔ x.isDhcp = true := by
  refine ⟨fun ⟨hsource, hdestination⟩ => ?_, h.dhcp⟩
  by_contra hdhcp
  rw [Bool.not_eq_true] at hdhcp
  cases destination with
  | some q => cases hdestination.symm.trans (h.receiver hdhcp q rfl).1
  | none =>
    obtain rfl := hsource.symm.trans (h.sender hdhcp rfl).2
    simp [isBoundBetween, hdhcp] at hbound

end Draft.IsEntryBetween

namespace AppliedPolicy

/-- An entry of a policy matches traffic between any addresses exactly if it is one of TCP or of UDP that
covers two ports between which addresses are exchanged. -/
theorem unaddressed_iff (policy : AppliedPolicy) (owner peer : Endpoint) (d : AclDirection) {e : AclEntry}
    (he : e ∈ policy.entries owner peer d) :
    (e.source = none ∧ e.destination = none) ↔ ∃ source destination : PortRange,
      (e.traffic.protocol = .tcp (some source) (some destination) ∨
        e.traffic.protocol = .udp (some source) (some destination)) ∧
      ∃ ports ∈ [((67 : UInt16), (68 : UInt16)), (68, 67), (548, 547), (547, 548)],
        source.contains ports.1 = true ∧ destination.contains ports.2 = true := by
  rw [entries_eq_map] at he
  obtain ⟨x, hx, rfl⟩ := List.mem_map.mp he
  obtain ⟨hx, hbound⟩ := List.mem_filter.mp hx
  obtain ⟨hip, haction⟩ := ip_action_of_mem_drafts hx
  have hentry : x.IsEntryBetween _ _ (x.addressed d owner peer).build :=
    Draft.isEntryBetween_build hip haction
  obtain ⟨s, name, y, hy, rfl⟩ := exists_constrain_of_mem_drafts hx
  rw [hentry.unaddressed_iff_isDhcp hbound, hentry.protocol]
  exact (ClassifierKind.takenUp_of_constrain hy).isDhcp_iff

/-- A rule for ranges of ports that happen to hold those of an exchange of addresses. -/
def wideRule : Rule :=
  Sample.ruleOfKind "wide" .l4
    [{ name := protocolParameter, intValue := some 17 },
     { name := sourceParameters.range, rangeValue := some ⟨1, 1023⟩ },
     { name := destinationParameters.range, rangeValue := some ⟨67, 67⟩ }]

theorem unaddressed_iff_wide :
    let entry : AclEntry :=
      { name := "wide_10.0.0.1_10.0.0.9", action := .permit,
        traffic := { protocol := .udp (some ⟨1, 1023⟩) (some ⟨67, 67⟩) } }
    entry ∈ (Sample.policy [wideRule]).entries (Sample.endpoint "10.0.0.1" "tap0")
        (Sample.endpoint "10.0.0.9" "tap1") .egress ∧
      ∃ source destination : PortRange,
        (entry.traffic.protocol = .tcp (some source) (some destination) ∨
          entry.traffic.protocol = .udp (some source) (some destination)) ∧
        ∃ ports ∈ [((67 : UInt16), (68 : UInt16)), (68, 67), (548, 547), (547, 548)],
          source.contains ports.1 = true ∧ destination.contains ports.2 = true := by
  intro entry
  have hentry : entry ∈ (Sample.policy [wideRule]).entries (Sample.endpoint "10.0.0.1" "tap0")
      (Sample.endpoint "10.0.0.9" "tap1") .egress := by
    decide +kernel
  exact ⟨hentry, (unaddressed_iff _ _ _ _ hentry).mp ⟨rfl, rfl⟩⟩

/-- Traffic of TCP between the ports of an exchange of addresses is let through between any addresses, even
if both ends have one. -/
theorem not_udp_of_unaddressed :
    ¬∀ (policy : AppliedPolicy) (owner peer : Endpoint) (d : AclDirection) (e : AclEntry),
      e ∈ policy.entries owner peer d → e.source = none → e.destination = none →
      ∃ source destination : PortRange, e.traffic.protocol = .udp (some source) (some destination) ∧
        ∃ ports ∈ [((67 : UInt16), (68 : UInt16)), (68, 67), (548, 547), (547, 548)],
          source.contains ports.1 = true ∧ destination.contains ports.2 = true := by
  intro h
  let entry : AclEntry :=
    { name := "tcp_10.0.0.1_10.0.0.9", action := .permit,
      traffic := { protocol := .tcp (some (.single 68)) (some (.single 67)) } }
  have hentries : (Sample.policy [Sample.transportRule "tcp" 6 68 67]).entries
      (Sample.endpoint "10.0.0.1" "tap0") (Sample.endpoint "10.0.0.9" "tap1") .ingress = [entry] := by
    decide +kernel
  obtain ⟨_, _, hudp, -⟩ := h _ _ _ _ entry (hentries ▸ List.mem_cons_self) rfl rfl
  cases hudp

end AppliedPolicy

end GroupPolicy

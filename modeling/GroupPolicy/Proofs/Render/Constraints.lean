import GroupPolicy.Proofs.Render.RuleEntry
import GroupPolicy.Render.Addressing

namespace GroupPolicy

/-- What entries tell apart in a packet. Both its addresses are of one version. -/
structure Packet where
  source : Address
  destination : Address
  family_eq : source.family = destination.family
  protocol : UInt8
  icmpType : UInt8
  icmpCode : UInt8
  sourcePort : UInt16
  destinationPort : UInt16

/-- The version of a packet's addresses. -/
def Packet.family (p : Packet) : Family := p.source.family

/-- The port at an end of a packet's way. -/
def Packet.port (p : Packet) : AddressRole → UInt16
  | .source => p.sourcePort
  | .destination => p.destinationPort

/-- Whether a number lies in a range. -/
def IcmpRange.contains (x : IcmpRange) (n : UInt8) : Bool := x.first ≤ n && n ≤ x.last

/-- Whether the transport of a packet is matched. -/
def ProtocolMatch.covers (p : Packet) : ProtocolMatch → Bool
  | .other number => number = anyProtocol ∨ p.protocol = number
  | .icmp types codes =>
    p.protocol = icmpProtocol ∧ types.contains p.icmpType ∧ codes.contains p.icmpCode
  | .tcp source destination => p.protocol = tcpProtocol ∧
    source.all (·.contains p.sourcePort) ∧ destination.all (·.contains p.destinationPort)
  | .udp source destination => p.protocol = udpProtocol ∧
    source.all (·.contains p.sourcePort) ∧ destination.all (·.contains p.destinationPort)

/-- Whether a packet is matched. Which addresses lie within a prefix is left open. -/
def Traffic.covers (within : Cidr → Address → Bool) (p : Packet) (t : Traffic) : Bool :=
  t.protocol.covers p && t.ip.all fun ip => ip.family == p.family &&
    ip.source.all (within · p.source) && ip.destination.all (within · p.destination)

/-- The parameters that hold a port at an end. -/
def AddressRole.portParameters : AddressRole → PortParameters
  | .source => sourceParameters
  | .destination => destinationParameters

/-- The bounds on the port at an end. -/
def Draft.ports (b : Draft) : AddressRole → PortBounds
  | .source => b.sourcePorts
  | .destination => b.destinationPorts

theorem AddressRole.forall_iff {P : AddressRole → Prop} : (∀ role, P role) ↔ P .source ∧ P .destination :=
  ⟨fun h => ⟨h .source, h .destination⟩, fun h role => by cases role <;> simp [h]⟩

/-- The parameters that classifiers are known by. -/
inductive KnownParameter where
  | etherType
  | protocol
  | port (role : AddressRole)
  | portRange (role : AddressRole)
  deriving DecidableEq, Repr

namespace KnownParameter

/-- The name of a parameter. -/
def name : KnownParameter → String
  | .etherType => etherTypeParameter
  | .protocol => protocolParameter
  | .port role => role.portParameters.single
  | .portRange role => role.portParameters.range

/-- The level of the chain that reads a parameter. -/
def level : KnownParameter → ClassifierKind
  | .etherType => .etherType
  | .protocol => .ipProtocol
  | .port _ => .l4
  | .portRange _ => .l4

/-- Whether a draft is constrained in what a parameter speaks about. -/
def constrains (b : Draft) : KnownParameter → Bool
  | .etherType => b.etherType.isSome
  | .protocol => b.protocol.isSome
  | .port role => !(b.ports role).isEmpty
  | .portRange role => !(b.ports role).isEmpty

/-- Whether a value of a parameter lets a packet in. The protocol of number zero is any protocol. -/
def Admits (v : ParamValue) (p : Packet) : KnownParameter → Prop
  | .etherType => v = .int (etherTypeNumber p.family)
  | .protocol => ∃ n, v = .int n ∧ (n.toInt = 0 ∨ n.toInt = p.protocol.toNat)
  | .port role => ∃ n, v = .int n ∧ n.toInt = (p.port role).toNat
  | .portRange role => ∃ r, v = .range r ∧ r.min.toInt ≤ (p.port role).toNat ∧
    (p.port role).toNat ≤ r.max.toInt

end KnownParameter

theorem ok_of_bind {ε α β : Type} {x : Except ε α} {f : α → Except ε β} {b : β}
    (h : x >>= f = .ok b) : ∃ a, x = .ok a ∧ f a = .ok b := by
  cases x with
  | error e => cases h
  | ok a => exact ⟨a, rfl, h⟩

section Values

variable {n : Int64} {v : ParamValue}

theorem toNat_toUInt64 (h : 0 ≤ n.toInt) : (n.toUInt64.toNat : Int) = n.toInt := by
  have hcond : n.toInt = _ := BitVec.toInt_eq_toNat_cond n.toBitVec
  have hlt := n.toBitVec.isLt
  show (n.toBitVec.toNat : Int) = n.toInt
  split at hcond <;> omega

theorem toNat_of_portOfNumber {q : UInt16} (h : portOfNumber n = .ok q) : (q.toNat : Int) = n.toInt := by
  unfold portOfNumber at h
  split at h
  next hbounds =>
    obtain rfl := Except.ok.inj h
    have hlower : 1 ≤ n.toInt := Int64.le_iff_toInt_le.mp hbounds.1
    have hupper : n.toInt ≤ 65535 := Int64.le_iff_toInt_le.mp hbounds.2
    have hword := toNat_toUInt64 (n := n) (by omega)
    rw [UInt64.toNat_toUInt16, Nat.mod_eq_of_lt (by omega)]
    exact hword
  next => cases h

theorem eq_of_protocolOfValue {m : UInt8} (h : protocolOfValue v = .ok m) :
    ∃ n, v = .int n ∧ n.toInt = m.toNat := by
  cases v with
  | text s => cases h
  | range r => cases h
  | int n =>
    simp only [protocolOfValue] at h
    split at h
    next hbounds =>
      obtain rfl := Except.ok.inj h
      have hlower : 0 ≤ n.toInt := Int64.le_iff_toInt_le.mp hbounds.1
      have hupper : n.toInt ≤ 255 := Int64.le_iff_toInt_le.mp hbounds.2
      have hword := toNat_toUInt64 hlower
      refine ⟨n, rfl, ?_⟩
      rw [UInt64.toNat_toUInt8, Nat.mod_eq_of_lt (by omega)]
      exact hword.symm
    next => cases h

theorem eq_of_familyOfValue? {f : Family} (h : familyOfValue? v = some f) :
    v = .int (etherTypeNumber f) := by
  cases v with
  | text s => cases h
  | range r => cases h
  | int n =>
    simp only [familyOfValue?] at h
    split at h
    next heq =>
      obtain rfl := Option.some.inj h
      rw [heq]
    next =>
      split at h
      next heq =>
        obtain rfl := Option.some.inj h
        rw [heq]
      next => cases h

theorem eq_of_boundsOfPort {b : PortBounds} (h : boundsOfPort v = .ok b) :
    ∃ n q, v = .int n ∧ n.toInt = q.toNat ∧ b = .exact q := by
  cases v with
  | text s => cases h
  | range r => cases h
  | int n =>
    simp only [boundsOfPort] at h
    cases hport : portOfNumber n with
    | error fault => simp [hport, Except.map] at h
    | ok q =>
      rw [hport] at h
      exact ⟨n, q, rfl, (toNat_of_portOfNumber hport).symm, (Except.ok.inj h).symm⟩

theorem eq_of_boundsOfRange {b : PortBounds} (h : boundsOfRange v = .ok b) :
    ∃ (r : NumberRange) (lower upper : UInt16), v = .range r ∧ r.min.toInt = lower.toNat ∧
      r.max.toInt = upper.toNat ∧ lower ≤ upper ∧ b = .range lower upper := by
  cases v with
  | int n => cases h
  | text s => cases h
  | range r =>
    simp only [boundsOfRange] at h
    cases hlower : portOfNumber r.min with
    | error fault => simp [hlower, bind, Except.bind] at h
    | ok lower =>
      cases hupper : portOfNumber r.max with
      | error fault => simp [hlower, hupper, bind, Except.bind] at h
      | ok upper =>
        simp only [hlower, hupper, bind, Except.bind] at h
        split at h
        next => cases h
        next hle =>
          exact ⟨r, lower, upper, rfl, (toNat_of_portOfNumber hlower).symm,
            (toNat_of_portOfNumber hupper).symm, UInt16.not_lt.mp hle, (Except.ok.inj h).symm⟩

end Values

section Ports

variable {ps : Parameters} {role : AddressRole} {b : PortBounds}

/-- Bounds on a port come from the parameter of a single port, from that of a range, or from neither. -/
theorem bounds_eq_ok {names : PortParameters} (h : names.bounds ps = .ok b) :
    (ps.get? names.single = none ∧ ps.get? names.range = none ∧ b = {}) ∨
      (∃ n q, ps.get? names.single = some (.int n) ∧ ps.get? names.range = none ∧
        n.toInt = q.toNat ∧ b = .exact q) ∨
      ∃ (r : NumberRange) (lower upper : UInt16), ps.get? names.single = none ∧
        ps.get? names.range = some (.range r) ∧ r.min.toInt = lower.toNat ∧
        r.max.toInt = upper.toNat ∧ lower ≤ upper ∧ b = .range lower upper := by
  unfold PortParameters.bounds at h
  split at h
  next hport hrange => exact .inl ⟨hport, hrange, (Except.ok.inj h).symm⟩
  next => cases h
  next value hport hrange =>
    cases hbounds : boundsOfPort value with
    | error fault =>
      rw [hbounds] at h
      cases h
    | ok bounds =>
      rw [hbounds] at h
      obtain ⟨n, q, rfl, hn, rfl⟩ := eq_of_boundsOfPort hbounds
      exact .inr (.inl ⟨n, q, hport, hrange, hn, (Except.ok.inj h).symm⟩)
  next value hport hrange =>
    cases hbounds : boundsOfRange value with
    | error fault =>
      rw [hbounds] at h
      cases h
    | ok bounds =>
      rw [hbounds] at h
      obtain ⟨r, lower, upper, rfl, hmin, hmax, hle, rfl⟩ := eq_of_boundsOfRange hbounds
      exact .inr (.inr ⟨r, lower, upper, hport, hrange, hmin, hmax, hle, (Except.ok.inj h).symm⟩)

theorem isEmpty_iff : b.isEmpty = true ↔ b = {} := by
  obtain ⟨lower, upper⟩ := b
  simp [PortBounds.isEmpty]

theorem isEmpty_of_bounds {names : PortParameters} (h : names.bounds ps = .ok b) :
    b.isEmpty = true ↔ ps.get? names.single = none ∧ ps.get? names.range = none := by
  rcases bounds_eq_ok h with ⟨hport, hrange, rfl⟩ | ⟨n, q, hport, hrange, -, rfl⟩ |
    ⟨r, lower, upper, hport, hrange, -, -, -, rfl⟩
  · simp [hport, hrange, PortBounds.isEmpty]
  · simp [hport, PortBounds.isEmpty, PortBounds.exact]
  · simp [hrange, PortBounds.isEmpty, PortBounds.range]

/-- A packet within the bounds on a port is let in by the parameter that they come from. -/
theorem admits_of_bounds (h : role.portParameters.bounds ps = .ok b) {p : Packet}
    (hp : b.toRange?.all (·.contains (p.port role)) = true) {q : KnownParameter}
    (hq : q = .port role ∨ q = .portRange role) {v : ParamValue} (hv : ps.get? q.name = some v) :
    q.Admits v p := by
  rcases bounds_eq_ok h with ⟨hport, hrange, rfl⟩ | ⟨n, port, hport, hrange, hn, rfl⟩ |
    ⟨r, lower, upper, hport, hrange, hmin, hmax, hle, rfl⟩
  · rcases hq with rfl | rfl
    · cases hport.symm.trans hv
    · cases hrange.symm.trans hv
  · rcases hq with rfl | rfl
    · obtain rfl := Option.some.inj (hport.symm.trans hv)
      have heq : (PortBounds.exact port).toRange? = some (.single port) := by
        simp [PortBounds.exact, PortBounds.toRange?, PortRange.single]
      rw [heq, Option.all_some, PortRange.contains_single] at hp
      exact ⟨n, rfl, by rw [hp]; exact hn⟩
    · cases hrange.symm.trans hv
  · rcases hq with rfl | rfl
    · cases hport.symm.trans hv
    · obtain rfl := Option.some.inj (hrange.symm.trans hv)
      have heq : (PortBounds.range lower upper).toRange? = some ⟨lower, upper⟩ := if_pos hle
      rw [heq] at hp
      simp only [Option.all_some, PortRange.contains, Bool.and_eq_true, decide_eq_true_eq,
        UInt16.le_iff_toNat_le] at hp
      exact ⟨r, rfl, by omega, by omega⟩

end Ports

namespace Parameters

/-- The version of addresses that the parameters ask for. -/
def etherType? (ps : Parameters) : Option Family := (ps.get? etherTypeParameter).bind familyOfValue?

/-- The protocol that the parameters ask for. -/
def protocol? (ps : Parameters) : Option UInt8 :=
  (ps.get? protocolParameter).bind fun v => (protocolOfValue v).toOption

end Parameters

namespace ClassifierKind

variable {ps : Parameters} {selected : Bool} {x y : Draft}

theorem constrainEtherType_eq_ok (h : constrainEtherType selected ps x = .ok y)
    (hx : x.etherType = none) : y = { x with etherType := ps.etherType? } ∧
      (ps.etherType?.isSome = (ps.get? etherTypeParameter).isSome) := by
  unfold constrainEtherType at h
  unfold Parameters.etherType?
  cases hvalue : ps.get? etherTypeParameter with
  | none =>
    simp only [hvalue] at h
    split at h
    next => cases h
    next =>
      obtain rfl := Except.ok.inj h
      exact ⟨by rw [Option.bind_none, ← hx], rfl⟩
  | some value =>
    simp only [hvalue] at h
    cases hfamily : familyOfValue? value with
    | none => simp [hfamily] at h
    | some f =>
      rw [hfamily] at h
      obtain rfl := Except.ok.inj h
      simp [hfamily]

theorem constrainProtocol_eq_ok (h : constrainProtocol selected ps x = .ok y)
    (hx : x.protocol = none) : y = { x with protocol := ps.protocol? } ∧
      (ps.protocol?.isSome = (ps.get? protocolParameter).isSome) := by
  unfold constrainProtocol at h
  unfold Parameters.protocol?
  cases hvalue : ps.get? protocolParameter with
  | none =>
    simp only [hvalue] at h
    split at h
    next => cases h
    next =>
      obtain rfl := Except.ok.inj h
      exact ⟨by rw [Option.bind_none, ← hx], rfl⟩
  | some value =>
    simp only [hvalue] at h
    cases hprotocol : protocolOfValue value with
    | error fault => simp [hprotocol] at h
    | ok number =>
      rw [hprotocol] at h
      obtain rfl := Except.ok.inj h
      simp [hprotocol, Except.toOption]

theorem constrainPorts_eq_ok (h : constrainPorts ps x = .ok y)
    (hx : x.sourcePorts = {} ∧ x.destinationPorts = {}) : ∃ source destination,
      sourceParameters.bounds ps = .ok source ∧ destinationParameters.bounds ps = .ok destination ∧
      y = { x with sourcePorts := source, destinationPorts := destination } ∧
      ((source = {} ∧ destination = {}) ∨
        x.protocol = some tcpProtocol ∨ x.protocol = some udpProtocol) := by
  obtain ⟨source, hsource, h⟩ := ok_of_bind h
  obtain ⟨destination, hdestination, h⟩ := ok_of_bind h
  refine ⟨source, destination, hsource, hdestination, ?_⟩
  split at h
  next hempty =>
    obtain rfl := Except.ok.inj h
    rw [Bool.and_eq_true, isEmpty_iff, isEmpty_iff] at hempty
    obtain ⟨rfl, rfl⟩ := hempty
    refine ⟨?_, .inl ⟨rfl, rfl⟩⟩
    cases x
    simp_all
  next =>
    split at h
    next htransport => exact ⟨(Except.ok.inj h).symm, .inr htransport⟩
    next => cases h

/-- What a draft is left with when parameters have been put into it level by level: every level of the
kind's lineage has been taken up as far as its parameters are given, and no other level. -/
structure TakenUp (k : ClassifierKind) (ps : Parameters) (b : Draft) : Prop where
  ip : b.ip = none
  etherType : b.etherType = ps.etherType?
  etherType_isSome : b.etherType.isSome = (ps.get? etherTypeParameter).isSome
  protocol : .ipProtocol ∈ k.lineage → b.protocol = ps.protocol?
  protocol_isSome : .ipProtocol ∈ k.lineage → b.protocol.isSome = (ps.get? protocolParameter).isSome
  protocol_eq_none : .ipProtocol ∉ k.lineage → b.protocol = none
  ports : .l4 ∈ k.lineage → ∀ role : AddressRole, role.portParameters.bounds ps = .ok (b.ports role)
  ports_eq_empty : .l4 ∉ k.lineage → ∀ role, b.ports role = {}
  transport : (∀ role, b.ports role = {}) ∨ b.protocol = some tcpProtocol ∨ b.protocol = some udpProtocol

theorem takenUp_of_constrain {k : ClassifierKind} {name : String} {b : Draft}
    (h : k.constrain ps { name := name } = .ok b) : k.TakenUp ps b := by
  cases k with
  | etherType =>
    obtain ⟨x, hx, h⟩ := ok_of_bind h
    obtain ⟨rfl, hetherType⟩ := constrainEtherType_eq_ok hx rfl
    obtain rfl := Except.ok.inj h
    constructor <;> simp [hetherType, lineage, Draft.ports, AddressRole.forall_iff]
  | ipProtocol =>
    obtain ⟨x, hx, h⟩ := ok_of_bind h
    obtain ⟨rfl, hetherType⟩ := constrainEtherType_eq_ok hx rfl
    obtain ⟨y, hy, h⟩ := ok_of_bind h
    obtain ⟨rfl, hprotocol⟩ := constrainProtocol_eq_ok hy rfl
    obtain rfl := Except.ok.inj h
    constructor <;> simp [hetherType, hprotocol, lineage, Draft.ports, AddressRole.forall_iff]
  | l4 =>
    obtain ⟨x, hx, h⟩ := ok_of_bind h
    obtain ⟨rfl, hetherType⟩ := constrainEtherType_eq_ok hx rfl
    obtain ⟨y, hy, h⟩ := ok_of_bind h
    obtain ⟨rfl, hprotocol⟩ := constrainProtocol_eq_ok hy rfl
    obtain ⟨z, hz, h⟩ := ok_of_bind h
    obtain ⟨source, destination, hsource, hdestination, rfl, htransport⟩ :=
      constrainPorts_eq_ok hz ⟨rfl, rfl⟩
    obtain rfl := Except.ok.inj h
    constructor <;>
      simp [hetherType, hprotocol, hsource, hdestination, htransport, lineage, Draft.ports,
        AddressRole.forall_iff, AddressRole.portParameters]

end ClassifierKind

namespace Draft

variable {b : Draft} {within : Cidr → Address → Bool} {packet : Packet}

theorem covers_permit_build (hip : b.ip = none) :
    b.permit.build.traffic.covers within packet = true ↔
      (∀ f, b.etherType = some f → f = packet.family) ∧ b.protocolMatch.covers packet = true := by
  have hmatch : b.permit.build.traffic = ⟨b.etherType.map fun family => { family := family },
      b.protocolMatch⟩ := by
    simp [build, permit, ipMatch, hip, protocolMatch]
  rw [hmatch]
  cases b.etherType <;> simp [Traffic.covers, and_comm]

theorem protocol_of_covers (h : b.protocolMatch.covers packet = true) {n : UInt8}
    (hn : b.protocol = some n) : n = anyProtocol ∨ packet.protocol = n := by
  simp only [protocolMatch, hn] at h
  split at h
  next hicmp =>
    simp only [ProtocolMatch.covers, decide_eq_true_eq] at h
    exact .inr (h.1.trans hicmp.symm)
  next =>
    split at h
    next htcp =>
      simp only [ProtocolMatch.covers, decide_eq_true_eq] at h
      exact .inr (h.1.trans htcp.symm)
    next =>
      split at h
      next hudp =>
        simp only [ProtocolMatch.covers, decide_eq_true_eq] at h
        exact .inr (h.1.trans hudp.symm)
      next => simpa only [ProtocolMatch.covers, decide_eq_true_eq] using h

theorem protocolMatch_of_tcp (h : b.protocol = some tcpProtocol) :
    b.protocolMatch = .tcp b.sourcePorts.toRange? b.destinationPorts.toRange? := by
  simp only [protocolMatch, h]
  rfl

theorem protocolMatch_of_udp (h : b.protocol = some udpProtocol) :
    b.protocolMatch = .udp b.sourcePorts.toRange? b.destinationPorts.toRange? := by
  simp only [protocolMatch, h]
  rfl

theorem ports_of_covers (h : b.protocolMatch.covers packet = true)
    (htransport : b.protocol = some tcpProtocol ∨ b.protocol = some udpProtocol) (role : AddressRole) :
    (b.ports role).toRange?.all (·.contains (packet.port role)) = true := by
  have hmatch : b.protocolMatch = .tcp b.sourcePorts.toRange? b.destinationPorts.toRange? ∨
      b.protocolMatch = .udp b.sourcePorts.toRange? b.destinationPorts.toRange? :=
    htransport.imp protocolMatch_of_tcp protocolMatch_of_udp
  rcases hmatch with heq | heq <;>
    rw [heq] at h <;>
    simp only [ProtocolMatch.covers, decide_eq_true_eq] at h <;>
    cases role <;>
    simp [ports, Packet.port, h]

end Draft

namespace ClassifierKind.TakenUp

variable {k : ClassifierKind} {ps : Parameters} {b : Draft} {q : KnownParameter} {v : ParamValue}

theorem isEmpty_ports_iff (h : k.TakenUp ps b) {role : AddressRole}
    (hgiven : ps.get? role.portParameters.single = some v ∨ ps.get? role.portParameters.range = some v) :
    (b.ports role).isEmpty = false ↔ .l4 ∈ k.lineage := by
  by_cases hlevel : .l4 ∈ k.lineage
  · have hbounds := isEmpty_of_bounds (h.ports hlevel role)
    refine iff_of_true ?_ hlevel
    rw [← Bool.not_eq_true, hbounds]
    rintro ⟨hport, hrange⟩
    rcases hgiven with hgiven | hgiven
    · cases hport.symm.trans hgiven
    · cases hrange.symm.trans hgiven
  · refine iff_of_false ?_ hlevel
    simp [h.ports_eq_empty hlevel role, PortBounds.isEmpty]

/-- A known parameter that is given constrains the draft exactly if its level is taken up. -/
theorem constrains_iff (h : k.TakenUp ps b) (hv : ps.get? q.name = some v) :
    q.constrains b = true ↔ q.level ∈ k.lineage := by
  cases q with
  | etherType =>
    have hroot : ClassifierKind.etherType ∈ k.lineage := by cases k <;> decide
    have hsome := h.etherType_isSome
    rw [show ps.get? etherTypeParameter = some v from hv] at hsome
    exact iff_of_true hsome hroot
  | protocol =>
    by_cases hlevel : .ipProtocol ∈ k.lineage
    · have hsome := h.protocol_isSome hlevel
      rw [show ps.get? protocolParameter = some v from hv] at hsome
      exact iff_of_true hsome hlevel
    · refine iff_of_false ?_ hlevel
      simp [KnownParameter.constrains, h.protocol_eq_none hlevel]
  | port role =>
    rw [KnownParameter.constrains, Bool.not_eq_true']
    exact h.isEmpty_ports_iff (.inl hv)
  | portRange role =>
    rw [KnownParameter.constrains, Bool.not_eq_true']
    exact h.isEmpty_ports_iff (.inr hv)

theorem admits_ports (h : k.TakenUp ps b) (hlevel : .l4 ∈ k.lineage) {packet : Packet}
    (hcovers : b.protocolMatch.covers packet = true) {role : AddressRole}
    (hq : q = .port role ∨ q = .portRange role) (hv : ps.get? q.name = some v) :
    q.Admits v packet := by
  refine admits_of_bounds (h.ports hlevel role) ?_ hq hv
  rcases h.transport with hempty | htransport
  · rw [hempty role]
    rfl
  · exact Draft.ports_of_covers hcovers htransport role

/-- The entry covers no packet that a parameter of a level taken up excludes. -/
theorem admits_of_covers (h : k.TakenUp ps b) (hlevel : q.level ∈ k.lineage)
    (hv : ps.get? q.name = some v) {within : Cidr → Address → Bool} {packet : Packet}
    (hcovers : b.permit.build.traffic.covers within packet = true) : q.Admits v packet := by
  obtain ⟨hfamily, htransport⟩ := (Draft.covers_permit_build h.ip).mp hcovers
  cases q with
  | etherType =>
    obtain ⟨f, hf⟩ := Option.isSome_iff_exists.mp ((h.constrains_iff hv).mpr hlevel)
    have hvalue := h.etherType.symm.trans hf
    rw [Parameters.etherType?, show ps.get? etherTypeParameter = some v from hv] at hvalue
    show v = .int (etherTypeNumber packet.family)
    rw [← hfamily f hf]
    exact eq_of_familyOfValue? hvalue
  | protocol =>
    obtain ⟨m, hm⟩ := Option.isSome_iff_exists.mp ((h.constrains_iff hv).mpr hlevel)
    have hvalue := (h.protocol hlevel).symm.trans hm
    rw [Parameters.protocol?, show ps.get? protocolParameter = some v from hv, Option.bind_some] at hvalue
    cases hnumber : protocolOfValue v with
    | error fault => simp [hnumber, Except.toOption] at hvalue
    | ok number =>
      obtain rfl : number = m := by simpa [hnumber, Except.toOption] using hvalue
      obtain ⟨n, rfl, hn⟩ := eq_of_protocolOfValue hnumber
      refine ⟨n, rfl, ?_⟩
      rcases Draft.protocol_of_covers htransport hm with rfl | hpacket
      · exact .inl hn
      · exact .inr (by rw [hpacket]; exact hn)
  | port role => exact h.admits_ports hlevel htransport (.inl rfl) hv
  | portRange role => exact h.admits_ports hlevel htransport (.inr rfl) hv

end ClassifierKind.TakenUp

section Specialized

variable {cs : List Classifier} {d : Direction}

/-- The values that classifiers give to a parameter in a direction, in their order. -/
def givenValues (cs : List Classifier) (d : Direction) (name : String) : List ParamValue :=
  ((cs.filter fun c => c.appliesIn d).flatMap Classifier.parameters).filterMap fun p =>
    if p.name = name then p.value else none

/-- The known kinds of the classifiers that apply in a direction, in their order. -/
def knownKinds (cs : List Classifier) (d : Direction) : List ClassifierKind :=
  (cs.filter fun c => c.appliesIn d).filterMap fun c => ClassifierKind.ofId? c.definitionId

theorem Parameters.get?_addNew (ps : Parameters) (p : Parameter) (name : String) :
    (ps.addNew p).get? name = (ps.get? name).or (if p.name = name then p.value else none) := by
  unfold addNew
  by_cases hname : p.name = name
  · subst hname
    rw [if_pos rfl, SortedMap.contains]
    cases hget : ps.get? p.name with
    | some value => simp [hget]
    | none => cases hvalue : p.value <;> simp [hget, SortedMap.get?_insert_self]
  · rw [if_neg hname, Option.or_none]
    split
    next => rfl
    next =>
      split
      next => exact SortedMap.get?_insert_of_ne _ _ (Ne.symm hname)
      next => rfl

theorem Parameters.get?_foldl_addNew (ps : Parameters) (l : List Parameter) (name : String) :
    (l.foldl addNew ps).get? name =
      (ps.get? name).or (l.filterMap fun p => if p.name = name then p.value else none).head? := by
  induction l generalizing ps with
  | nil => simp
  | cons p l ih =>
    rw [List.foldl_cons, ih, get?_addNew, Option.or_assoc, List.filterMap_cons]
    cases (if p.name = name then p.value else none) <;> simp

/-- A walk along the chain reaches a level exactly if the levels on the way follow one after the
other. -/
theorem mem_lineage_foldl_advance {current k : ClassifierKind} {kinds : List ClassifierKind}
    (h : kinds.foldl ClassifierKind.advance (some current) = some k) (level : ClassifierKind) :
    level ∈ k.lineage ↔ (level.lineage.drop current.lineage.length).Sublist kinds := by
  induction kinds generalizing current with
  | nil =>
    obtain rfl := Option.some.inj h
    cases current <;> cases level <;> decide
  | cons x kinds ih =>
    simp only [List.foldl_cons, ClassifierKind.advance] at h
    split at h
    next hparent =>
      rw [ih h]
      cases x <;> cases current <;> cases level <;>
        simp [ClassifierKind.parent, ClassifierKind.lineage] at hparent ⊢
    next hparent =>
      rw [ih h]
      cases x <;> cases current <;> cases level <;>
        simp [ClassifierKind.parent, ClassifierKind.lineage, List.sublist_cons_iff] at hparent ⊢

theorem ofClassifiers?_eq_some {s : Specialization} (h : Specialization.ofClassifiers? cs d = some s) :
    (∀ name, s.parameters.get? name = (givenValues cs d name).head?) ∧
      ∃ first rest, knownKinds cs d = first :: rest ∧ ∀ level : ClassifierKind,
        level ∈ s.kind.lineage ↔ (level.lineage.drop first.lineage.length).Sublist rest := by
  unfold Specialization.ofClassifiers? at h
  dsimp only at h
  split at h
  next => cases h
  next =>
    obtain ⟨k, hk, rfl⟩ := Option.map_eq_some_iff.mp h
    refine ⟨fun name => ?_, ?_⟩
    · exact Parameters.get?_foldl_addNew _ _ name
    · rw [leadingKind?] at hk
      unfold knownKinds
      cases hkinds : (cs.filter fun c => c.appliesIn d).filterMap fun c =>
          ClassifierKind.ofId? c.definitionId with
      | nil =>
        rw [hkinds] at hk
        cases hk
      | cons first rest =>
        rw [hkinds] at hk
        exact ⟨first, rest, rfl, mem_lineage_foldl_advance hk⟩

/-- Of the parameters that classifiers give, exactly those constrain the draft that are read at a level
from the root of the chain down to the leading kind, and the entry covers no packet that one of these
excludes. A parameter has the first value that is given to it, and the leading kind is as specific as
the levels below the first kind follow one after the other. -/
theorem constrains_iff_mem_lineage {s : Specialization} {name : String} {b : Draft}
    (hs : Specialization.ofClassifiers? cs d = some s) (hb : s.constrain { name := name } = .ok b) :
    (∀ (q : KnownParameter) (v : ParamValue), s.parameters.get? q.name = some v →
      (q.constrains b = true ↔ q.level ∈ s.kind.lineage) ∧
      (q.level ∈ s.kind.lineage → ∀ (within : Cidr → Address → Bool) (packet : Packet),
        b.permit.build.traffic.covers within packet = true → q.Admits v packet)) ∧
      (∀ name, s.parameters.get? name = (givenValues cs d name).head?) ∧
      ∃ first rest, knownKinds cs d = first :: rest ∧ ∀ level : ClassifierKind,
        level ∈ s.kind.lineage ↔ (level.lineage.drop first.lineage.length).Sublist rest := by
  have htaken : s.kind.TakenUp s.parameters b := ClassifierKind.takenUp_of_constrain hb
  refine ⟨fun q v hv => ⟨htaken.constrains_iff hv, fun hlevel within packet hcovers => ?_⟩,
    ofClassifiers?_eq_some hs⟩
  exact htaken.admits_of_covers hlevel hv hcovers

/-- Classifiers of HTTP that leave out the level between the version of addresses and the ports. -/
def gappedClassifiers : List Classifier :=
  [{ name := "ether", definitionId := "Classifier-EtherType", direction := .in,
     parameters := [{ name := "ethertype", intValue := some 0x0800 }] },
   { name := "l4", definitionId := "Classifier-L4", direction := .in,
     parameters := [{ name := "proto", intValue := some 6 }, { name := "destport", intValue := some 80 }] }]

/-- Without the level between them the ports are never reached, and the protocol is lost as well. -/
theorem not_constrained_by_every_parameter :
    ¬∀ (cs : List Classifier) (d : Direction) (name : String) (s : Specialization) (b : Draft),
      Specialization.ofClassifiers? cs d = some s → s.constrain { name := name } = .ok b →
        ∀ (q : KnownParameter) (v : ParamValue), s.parameters.get? q.name = some v →
          q.constrains b = true := by
  intro h
  have hlost := h gappedClassifiers .in "http" _ _ rfl rfl .protocol (.int 6) rfl
  cases hlost

/-- Classifiers of HTTP that follow the chain. The second protocol does not count. -/
def chainedClassifiers : List Classifier :=
  [{ name := "ip", definitionId := "Classifier-IP-Protocol", direction := .bidirectional,
     parameters := [{ name := "proto", intValue := some 6 }] },
   { name := "l4", definitionId := "Classifier-L4", direction := .in,
     parameters := [{ name := "proto", intValue := some 17 },
       { name := "destport_range", rangeValue := some ⟨80, 89⟩ }] }]

theorem constrains_iff_mem_lineage_chained : ∃ s b,
    Specialization.ofClassifiers? chainedClassifiers .in = some s ∧
      s.constrain { name := "http" } = .ok b ∧
      ∀ (q : KnownParameter) (v : ParamValue), s.parameters.get? q.name = some v →
        q.constrains b = true ∧ ∀ (within : Cidr → Address → Bool) (packet : Packet),
          b.permit.build.traffic.covers within packet = true → q.Admits v packet := by
  obtain ⟨s, hs, hkind⟩ : ∃ s, Specialization.ofClassifiers? chainedClassifiers .in = some s ∧
      s.kind = .l4 := ⟨_, rfl, rfl⟩
  obtain ⟨b, hb⟩ : ∃ b, s.constrain { name := "http" } = .ok b := by
    obtain rfl := Option.some.inj hs
    exact ⟨_, rfl⟩
  refine ⟨s, b, hs, hb, fun q v hv => ?_⟩
  obtain ⟨hconstrains, hadmits⟩ := (constrains_iff_mem_lineage hs hb).1 q v hv
  have hlevel : q.level ∈ s.kind.lineage := by
    rw [hkind]
    cases q.level <;> decide
  exact ⟨hconstrains.mpr hlevel, hadmits hlevel⟩

end Specialized

end GroupPolicy

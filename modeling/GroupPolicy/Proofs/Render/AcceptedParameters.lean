import GroupPolicy.Proofs.Render.Constraints

namespace GroupPolicy

theorem exists_bind_iff {ε α β : Type} {x : Except ε α} {f : α → Except ε β} :
    (∃ b, x >>= f = .ok b) ↔ ∃ a, x = .ok a ∧ ∃ b, f a = .ok b := by
  cases x <;> simp [bind, Except.bind]

section Values

variable {n : Int64} {v : ParamValue}

theorem exists_familyOfValue?_iff : (∃ f, familyOfValue? v = some f) ↔
    ∃ n : Int64, v = .int n ∧ (n.toInt = 0x0800 ∨ n.toInt = 0x86DD) := by
  have hnumber (n : Int64) (f : Family) : n.toInt = (etherTypeNumber f).toInt ↔ n = etherTypeNumber f :=
    Int64.toInt_inj
  constructor
  · rintro ⟨f, hf⟩
    refine ⟨_, eq_of_familyOfValue? hf, ?_⟩
    cases f
    · exact .inl rfl
    · exact .inr rfl
  · rintro ⟨n, rfl, hn | hn⟩
    · obtain rfl := (hnumber n .ipv4).mp hn
      exact ⟨.ipv4, rfl⟩
    · obtain rfl := (hnumber n .ipv6).mp hn
      exact ⟨.ipv6, rfl⟩

theorem exists_protocolOfValue_iff :
    (∃ m, protocolOfValue v = .ok m) ↔ ∃ n : Int64, v = .int n ∧ 0 ≤ n.toInt ∧ n.toInt ≤ 255 := by
  cases v with
  | text s => simp [protocolOfValue]
  | range r => simp [protocolOfValue]
  | int n =>
    have hbounds : (0 ≤ n ∧ n ≤ 255) ↔ 0 ≤ n.toInt ∧ n.toInt ≤ 255 := by
      rw [Int64.le_iff_toInt_le, Int64.le_iff_toInt_le]
      rfl
    simp only [protocolOfValue, ParamValue.int.injEq, exists_eq_left', ← hbounds]
    split <;> simp_all

theorem exists_portOfNumber_iff : (∃ q, portOfNumber n = .ok q) ↔ 1 ≤ n.toInt ∧ n.toInt ≤ 65535 := by
  have hbounds : (1 ≤ n ∧ n ≤ 65535) ↔ 1 ≤ n.toInt ∧ n.toInt ≤ 65535 := by
    rw [Int64.le_iff_toInt_le, Int64.le_iff_toInt_le]
    rfl
  rw [← hbounds, portOfNumber]
  split <;> simp_all

theorem exists_boundsOfPort_iff : (∃ b, boundsOfPort v = .ok b) ↔
    ∃ n : Int64, v = .int n ∧ 1 ≤ n.toInt ∧ n.toInt ≤ 65535 := by
  cases v with
  | text s => simp [boundsOfPort]
  | range r => simp [boundsOfPort]
  | int n =>
    simp only [boundsOfPort, ParamValue.int.injEq, exists_eq_left', ← exists_portOfNumber_iff]
    cases portOfNumber n <;> simp [Except.map]

theorem exists_boundsOfRange_iff : (∃ b, boundsOfRange v = .ok b) ↔ ∃ r : NumberRange, v = .range r ∧
    1 ≤ r.min.toInt ∧ r.min.toInt ≤ r.max.toInt ∧ r.max.toInt ≤ 65535 := by
  constructor
  · rintro ⟨b, hb⟩
    obtain ⟨r, lower, upper, rfl, hmin, hmax, hle, -⟩ := eq_of_boundsOfRange hb
    obtain ⟨q, hq, -⟩ := ok_of_bind hb
    have hports := exists_portOfNumber_iff.mp ⟨q, hq⟩
    have hupper := upper.toNat_lt
    rw [UInt16.le_iff_toNat_le] at hle
    exact ⟨r, rfl, hports.1, by omega, by omega⟩
  · rintro ⟨r, rfl, hlower, hle, hupper⟩
    obtain ⟨p, hp⟩ := exists_portOfNumber_iff.mpr ⟨hlower, Int.le_trans hle hupper⟩
    obtain ⟨q, hq⟩ := exists_portOfNumber_iff.mpr ⟨Int.le_trans hlower hle, hupper⟩
    have hpq : ¬q < p := by
      have hpnat := toNat_of_portOfNumber hp
      have hqnat := toNat_of_portOfNumber hq
      rw [UInt16.not_lt, UInt16.le_iff_toNat_le]
      omega
    simp [boundsOfRange, hp, hq, hpq, bind, Except.bind, pure, Except.pure]

end Values

theorem Parameters.protocol?_eq_some_iff {ps : Parameters} {m : UInt8} : ps.protocol? = some m ↔
    ∃ n : Int64, ps.get? protocolParameter = some (.int n) ∧ n.toInt = m.toNat := by
  unfold protocol?
  constructor
  · intro h
    obtain ⟨v, hv, hm⟩ := Option.bind_eq_some_iff.mp h
    cases hvalue : protocolOfValue v with
    | error fault => simp [hvalue, Except.toOption] at hm
    | ok number =>
      obtain rfl : number = m := by simpa [hvalue, Except.toOption] using hm
      obtain ⟨n, rfl, hn⟩ := eq_of_protocolOfValue hvalue
      exact ⟨n, hv, hn⟩
  · rintro ⟨n, hn, hm⟩
    have hbyte := m.toNat_lt
    obtain ⟨number, hnumber⟩ := exists_protocolOfValue_iff.mpr ⟨n, rfl, by omega, by omega⟩
    obtain ⟨_, heq, hnat⟩ := eq_of_protocolOfValue hnumber
    obtain rfl := ParamValue.int.inj heq
    have hsame : number = m := UInt8.toNat_inj.mp (by omega)
    rw [hn, Option.bind_some, hnumber, hsame]
    rfl

namespace PortParameters

variable {names : PortParameters} {ps : Parameters}

/-- Whether a port or a range is given for one side. -/
def IsGiven (names : PortParameters) (ps : Parameters) : Prop :=
  (ps.get? names.single).isSome = true ∨ (ps.get? names.range).isSome = true

/-- The parameters of one side are well-formed: not both are given, a port is a number of a port, and a
range goes up from the number of a port to that of another. -/
structure WellFormed (names : PortParameters) (ps : Parameters) : Prop where
  exclusive : ps.get? names.single = none ∨ ps.get? names.range = none
  single : ∀ v, ps.get? names.single = some v →
    ∃ n : Int64, v = .int n ∧ 1 ≤ n.toInt ∧ n.toInt ≤ 65535
  range : ∀ v, ps.get? names.range = some v → ∃ r : NumberRange, v = .range r ∧
    1 ≤ r.min.toInt ∧ r.min.toInt ≤ r.max.toInt ∧ r.max.toInt ≤ 65535

theorem exists_bounds_iff : (∃ b, names.bounds ps = .ok b) ↔ names.WellFormed ps := by
  have hmapError {β γ : Type} (x : Except β PortBounds) (f : β → γ) :
      (∃ b, x.mapError f = .ok b) ↔ ∃ b, x = .ok b := by
    cases x with
    | error fault => exact iff_of_false (by rintro ⟨_, ⟨⟩⟩) (by rintro ⟨_, ⟨⟩⟩)
    | ok bounds => exact iff_of_true ⟨bounds, rfl⟩ ⟨bounds, rfl⟩
  unfold bounds
  cases hsingle : ps.get? names.single with
  | none =>
    cases hrange : ps.get? names.range with
    | none => exact iff_of_true ⟨{}, rfl⟩ ⟨.inl hsingle, by simp [hsingle], by simp [hrange]⟩
    | some value =>
      simp only [hmapError, exists_boundsOfRange_iff]
      refine ⟨fun h => ⟨.inl hsingle, by simp [hsingle], ?_⟩, fun h => h.range value hrange⟩
      intro v hv
      obtain rfl := Option.some.inj (hrange.symm.trans hv)
      exact h
  | some value =>
    cases hrange : ps.get? names.range with
    | none =>
      simp only [hmapError, exists_boundsOfPort_iff]
      refine ⟨fun h => ⟨.inr hrange, ?_, by simp [hrange]⟩, fun h => h.single value hsingle⟩
      intro v hv
      obtain rfl := Option.some.inj (hsingle.symm.trans hv)
      exact h
    | some value' =>
      refine iff_of_false (by simp) fun h => ?_
      rcases h.exclusive with hnone | hnone
      · cases hsingle.symm.trans hnone
      · cases hrange.symm.trans hnone

end PortParameters

namespace ClassifierKind

variable {ps : Parameters} {selected : Bool} {x : Draft}

theorem exists_constrainEtherType_iff : (∃ y, constrainEtherType selected ps x = .ok y) ↔
    (selected = true → (ps.get? etherTypeParameter).isSome = true) ∧
      ∀ v, ps.get? etherTypeParameter = some v →
        ∃ n : Int64, v = .int n ∧ (n.toInt = 0x0800 ∨ n.toInt = 0x86DD) := by
  unfold constrainEtherType
  cases ps.get? etherTypeParameter with
  | none => cases selected <;> simp
  | some value =>
    simp only [Option.some.injEq, forall_eq', ← exists_familyOfValue?_iff]
    cases familyOfValue? value <;> simp

theorem exists_constrainProtocol_iff : (∃ y, constrainProtocol selected ps x = .ok y) ↔
    (selected = true → (ps.get? protocolParameter).isSome = true) ∧
      ∀ v, ps.get? protocolParameter = some v →
        ∃ n : Int64, v = .int n ∧ 0 ≤ n.toInt ∧ n.toInt ≤ 255 := by
  unfold constrainProtocol
  cases ps.get? protocolParameter with
  | none => cases selected <;> simp
  | some value =>
    simp only [Option.some.injEq, forall_eq', ← exists_protocolOfValue_iff]
    cases protocolOfValue value <;> simp

theorem exists_constrainPorts_iff : (∃ y, constrainPorts ps x = .ok y) ↔
    (∀ role : AddressRole, role.portParameters.WellFormed ps) ∧
      ((∃ role : AddressRole, role.portParameters.IsGiven ps) →
        x.protocol = some tcpProtocol ∨ x.protocol = some udpProtocol) := by
  have hgiven {source destination : PortBounds} (hsource : sourceParameters.bounds ps = .ok source)
      (hdestination : destinationParameters.bounds ps = .ok destination) :
      (¬∃ role : AddressRole, role.portParameters.IsGiven ps) ↔
        (source.isEmpty && destination.isEmpty) = true := by
    rw [Bool.and_eq_true, isEmpty_of_bounds hsource, isEmpty_of_bounds hdestination, not_exists,
      AddressRole.forall_iff]
    simp [PortParameters.IsGiven, AddressRole.portParameters]
  simp only [← PortParameters.exists_bounds_iff, AddressRole.forall_iff]
  constructor
  · rintro ⟨y, hy⟩
    obtain ⟨source, hsource, hy⟩ := ok_of_bind hy
    obtain ⟨destination, hdestination, hy⟩ := ok_of_bind hy
    refine ⟨⟨⟨source, hsource⟩, destination, hdestination⟩, fun h => ?_⟩
    split at hy
    next hempty => exact absurd h ((hgiven hsource hdestination).mpr hempty)
    next =>
      split at hy
      next htransport => exact htransport
      next => cases hy
  · rintro ⟨⟨⟨source, (hsource : sourceParameters.bounds ps = _)⟩, destination,
      (hdestination : destinationParameters.bounds ps = _)⟩, htransport⟩
    simp only [constrainPorts, hsource, hdestination, bind, Except.bind]
    by_cases hempty : (source.isEmpty && destination.isEmpty) = true
    · exact ⟨x, if_pos hempty⟩
    · have hports : ∃ role : AddressRole, role.portParameters.IsGiven ps :=
        Classical.byContradiction fun h => hempty ((hgiven hsource hdestination).mp h)
      rw [if_neg hempty, if_pos (htransport hports)]
      exact ⟨_, rfl⟩

/-- What a kind of classifier needs of parameters: those that it or a more general kind reads are
well-formed, its own one is given, and ports go with a protocol that has ports. -/
structure Accepts (k : ClassifierKind) (ps : Parameters) : Prop where
  etherType_given : k = .etherType → (ps.get? etherTypeParameter).isSome = true
  etherType : ∀ v, ps.get? etherTypeParameter = some v →
    ∃ n : Int64, v = .int n ∧ (n.toInt = 0x0800 ∨ n.toInt = 0x86DD)
  protocol_given : k = .ipProtocol → (ps.get? protocolParameter).isSome = true
  protocol : k = .ipProtocol ∨ k = .l4 → ∀ v, ps.get? protocolParameter = some v →
    ∃ n : Int64, v = .int n ∧ 0 ≤ n.toInt ∧ n.toInt ≤ 255
  ports : k = .l4 → ∀ role : AddressRole, role.portParameters.WellFormed ps
  transport : k = .l4 → (∃ role : AddressRole, role.portParameters.IsGiven ps) →
    ∃ n : Int64, ps.get? protocolParameter = some (.int n) ∧ (n.toInt = 6 ∨ n.toInt = 17)

theorem exists_constrain_iff {k : ClassifierKind} {name : String} :
    (∃ b, k.constrain ps { name := name } = .ok b) ↔ k.Accepts ps := by
  -- Of the drafts on the way only the protocol matters for what the ports need.
  have htransport {y z : Draft} (hy : constrainEtherType false ps { name := name } = .ok y)
      (hz : constrainProtocol false ps y = .ok z) :
      (z.protocol = some tcpProtocol ∨ z.protocol = some udpProtocol) ↔
        ∃ n : Int64, ps.get? protocolParameter = some (.int n) ∧ (n.toInt = 6 ∨ n.toInt = 17) := by
    obtain rfl := (constrainEtherType_eq_ok hy rfl).1
    rw [(constrainProtocol_eq_ok hz rfl).1]
    simp only [Parameters.protocol?_eq_some_iff, ← exists_or, ← and_or_left]
    rfl
  cases k with
  | etherType =>
    constructor
    · intro h
      obtain ⟨y, hy, -⟩ := exists_bind_iff.mp h
      have hetherType := exists_constrainEtherType_iff.mp ⟨y, hy⟩
      exact ⟨fun _ => hetherType.1 rfl, hetherType.2, nofun, nofun, nofun, nofun⟩
    · intro h
      obtain ⟨y, hy⟩ := exists_constrainEtherType_iff.mpr ⟨fun _ => h.etherType_given rfl, h.etherType⟩
      exact exists_bind_iff.mpr ⟨y, hy, y, rfl⟩
  | ipProtocol =>
    constructor
    · intro h
      obtain ⟨y, hy, h⟩ := exists_bind_iff.mp h
      obtain ⟨z, hz, -⟩ := exists_bind_iff.mp h
      have hprotocol := exists_constrainProtocol_iff.mp ⟨z, hz⟩
      exact ⟨nofun, (exists_constrainEtherType_iff.mp ⟨y, hy⟩).2, fun _ => hprotocol.1 rfl,
        fun _ => hprotocol.2, nofun, nofun⟩
    · intro h
      obtain ⟨y, hy⟩ : ∃ y, constrainEtherType false ps { name := name } = .ok y :=
        exists_constrainEtherType_iff.mpr ⟨nofun, h.etherType⟩
      obtain ⟨z, hz⟩ : ∃ z, constrainProtocol true ps y = .ok z :=
        exists_constrainProtocol_iff.mpr ⟨fun _ => h.protocol_given rfl, h.protocol (.inl rfl)⟩
      exact exists_bind_iff.mpr ⟨y, hy, exists_bind_iff.mpr ⟨z, hz, z, rfl⟩⟩
  | l4 =>
    constructor
    · intro h
      obtain ⟨y, hy, h⟩ := exists_bind_iff.mp h
      obtain ⟨z, hz, h⟩ := exists_bind_iff.mp h
      obtain ⟨b, hb, -⟩ := exists_bind_iff.mp h
      have hports := exists_constrainPorts_iff.mp ⟨b, hb⟩
      exact ⟨nofun, (exists_constrainEtherType_iff.mp ⟨_, hy⟩).2, nofun,
        fun _ => (exists_constrainProtocol_iff.mp ⟨z, hz⟩).2, fun _ => hports.1,
        fun _ hgiven => (htransport hy hz).mp (hports.2 hgiven)⟩
    · intro h
      obtain ⟨y, hy⟩ : ∃ y, constrainEtherType false ps { name := name } = .ok y :=
        exists_constrainEtherType_iff.mpr ⟨nofun, h.etherType⟩
      obtain ⟨z, hz⟩ : ∃ z, constrainProtocol false ps y = .ok z :=
        exists_constrainProtocol_iff.mpr ⟨nofun, h.protocol (.inr rfl)⟩
      obtain ⟨b, hb⟩ := exists_constrainPorts_iff.mpr
        ⟨h.ports rfl, fun hgiven => (htransport hy hz).mpr (h.transport rfl hgiven)⟩
      exact exists_bind_iff.mpr ⟨_, hy, exists_bind_iff.mpr ⟨z, hz, exists_bind_iff.mpr ⟨b, hb, b, rfl⟩⟩⟩

end ClassifierKind

namespace Parameters

variable {ps : Parameters} {name : String}

/-- The number that a parameter holds. -/
def number? (ps : Parameters) (name : String) : Option Int :=
  match ps.get? name with
  | some (.int n) => some n.toInt
  | _ => none

/-- The ends of the range that a parameter holds. -/
def ends? (ps : Parameters) (name : String) : Option (Int × Int) :=
  match ps.get? name with
  | some (.range r) => some (r.min.toInt, r.max.toInt)
  | _ => none

/-- The first and the last port that the parameters of one side ask for. -/
def portNumbers? (ps : Parameters) (names : PortParameters) : Option (Int × Int) :=
  ((ps.number? names.single).map fun n => (n, n)) <|> ps.ends? names.range

theorem map_etherType? (h : ps.etherType?.isSome = (ps.get? etherTypeParameter).isSome) :
    ps.etherType?.map (fun f => (etherTypeNumber f).toInt) = ps.number? etherTypeParameter := by
  unfold etherType? number? at *
  cases hvalue : ps.get? etherTypeParameter with
  | none => rfl
  | some v =>
    simp only [hvalue, Option.bind_some, Option.isSome_some] at h ⊢
    obtain ⟨f, hf⟩ := Option.isSome_iff_exists.mp h
    rw [hf, eq_of_familyOfValue? hf]
    rfl

theorem map_protocol? (h : ps.protocol?.isSome = (ps.get? protocolParameter).isSome) :
    ps.protocol?.map (fun m => (m.toNat : Int)) = ps.number? protocolParameter := by
  cases hprotocol : ps.protocol? with
  | none =>
    rw [hprotocol, eq_comm, Option.isSome_none, Option.isSome_eq_false_iff, Option.isNone_iff_eq_none] at h
    rw [number?, h]
    rfl
  | some m =>
    obtain ⟨n, hn, hm⟩ := protocol?_eq_some_iff.mp hprotocol
    rw [number?, hn]
    exact congrArg some hm.symm

end Parameters

section Bounds

variable {names : PortParameters} {ps : Parameters} {b : PortBounds}

/-- Bounds that come from parameters are none at all, or those of a range that goes up. -/
theorem eq_range_of_bounds (h : names.bounds ps = .ok b) (hne : b.isEmpty = false) :
    ∃ r : PortRange, b = .range r.lower r.upper ∧ b.toRange? = some r := by
  rcases bounds_eq_ok h with ⟨-, -, rfl⟩ | ⟨-, q, -, -, -, rfl⟩ | ⟨-, lower, upper, -, -, -, -, hle, rfl⟩
  · cases hne
  · exact ⟨⟨q, q⟩, rfl, if_pos (UInt16.le_refl q)⟩
  · exact ⟨⟨lower, upper⟩, rfl, if_pos hle⟩

/-- Bounds that come from parameters are the numbers that were given. -/
theorem numbers_of_bounds (h : names.bounds ps = .ok b) :
    b.lower.map (fun q => (q.toNat : Int)) = (ps.portNumbers? names).map Prod.fst ∧
      b.upper.map (fun q => (q.toNat : Int)) = (ps.portNumbers? names).map Prod.snd := by
  rcases bounds_eq_ok h with ⟨hport, hrange, rfl⟩ | ⟨n, q, hport, hrange, hn, rfl⟩ |
    ⟨r, lower, upper, hport, hrange, hmin, hmax, -, rfl⟩
  · simp [Parameters.portNumbers?, Parameters.number?, Parameters.ends?, hport, hrange]
  · simp [Parameters.portNumbers?, Parameters.number?, hport, hn, PortBounds.exact]
  · simp [Parameters.portNumbers?, Parameters.number?, Parameters.ends?, hport, hrange, hmin, hmax,
      PortBounds.range]

end Bounds

namespace ClassifierKind

variable {ps : Parameters}

/-- What a kind of classifier makes of parameters in a new draft: the draft holds the numbers that are
given for the kind and for the more general ones, and every port that it holds is in the entry. -/
structure Reflects (k : ClassifierKind) (ps : Parameters) (name : String) (b : Draft) : Prop where
  frame : b.name = name ∧ b.ip = none ∧ b.action = .deny
  etherType : b.etherType.map (fun f => (etherTypeNumber f).toInt) = ps.number? etherTypeParameter
  protocol : b.protocol.map (fun m => (m.toNat : Int)) =
    if k = .etherType then none else ps.number? protocolParameter
  lower : ∀ role, (b.ports role).lower.map (fun q => (q.toNat : Int)) =
    if k = .l4 then (ps.portNumbers? role.portParameters).map Prod.fst else none
  upper : ∀ role, (b.ports role).upper.map (fun q => (q.toNat : Int)) =
    if k = .l4 then (ps.portNumbers? role.portParameters).map Prod.snd else none
  range : ∀ role, (b.ports role).isEmpty = false →
    ∃ r : PortRange, b.ports role = .range r.lower r.upper ∧ (b.ports role).toRange? = some r
  transport : ∀ role, (b.ports role).isEmpty = false →
    (b.protocol = some tcpProtocol ∧ b.build.traffic.protocol =
      .tcp b.sourcePorts.toRange? b.destinationPorts.toRange?) ∨
    (b.protocol = some udpProtocol ∧ b.build.traffic.protocol =
      .udp b.sourcePorts.toRange? b.destinationPorts.toRange?)

theorem ipProtocol_mem_lineage_iff {k : ClassifierKind} : .ipProtocol ∈ k.lineage ↔ k ≠ .etherType := by
  cases k <;> decide

theorem l4_mem_lineage_iff {k : ClassifierKind} : .l4 ∈ k.lineage ↔ k = .l4 := by
  cases k <;> decide

theorem TakenUp.ports_eq {k : ClassifierKind} {b : Draft} (h : k.TakenUp ps b) (role : AddressRole) :
    (k ≠ .l4 ∧ b.ports role = {}) ∨ (k = .l4 ∧ role.portParameters.bounds ps = .ok (b.ports role)) := by
  by_cases hk : k = .l4
  · exact .inr ⟨hk, h.ports (l4_mem_lineage_iff.mpr hk) role⟩
  · exact .inl ⟨hk, h.ports_eq_empty (mt l4_mem_lineage_iff.mp hk) role⟩

theorem TakenUp.eq_range {k : ClassifierKind} {b : Draft} (h : k.TakenUp ps b) {role : AddressRole}
    (hne : (b.ports role).isEmpty = false) :
    ∃ r : PortRange, b.ports role = .range r.lower r.upper ∧ (b.ports role).toRange? = some r := by
  rcases h.ports_eq role with ⟨-, hempty⟩ | ⟨-, hbounds⟩
  · rw [hempty] at hne
    cases hne
  · exact eq_range_of_bounds hbounds hne

theorem TakenUp.numbers {k : ClassifierKind} {b : Draft} (h : k.TakenUp ps b) (role : AddressRole) :
    (b.ports role).lower.map (fun q => (q.toNat : Int)) =
        (if k = .l4 then (ps.portNumbers? role.portParameters).map Prod.fst else none) ∧
      (b.ports role).upper.map (fun q => (q.toNat : Int)) =
        if k = .l4 then (ps.portNumbers? role.portParameters).map Prod.snd else none := by
  rcases h.ports_eq role with ⟨hk, hempty⟩ | ⟨hk, hbounds⟩
  · rw [hempty, if_neg hk, if_neg hk]
    exact ⟨rfl, rfl⟩
  · rw [if_pos hk, if_pos hk]
    exact numbers_of_bounds hbounds

theorem TakenUp.map_protocol {k : ClassifierKind} {b : Draft} (h : k.TakenUp ps b) :
    b.protocol.map (fun m => (m.toNat : Int)) =
      if k = .etherType then none else ps.number? protocolParameter := by
  by_cases hk : k = .etherType
  · rw [if_pos hk, h.protocol_eq_none (mt ipProtocol_mem_lineage_iff.mp (not_not_intro hk))]
    rfl
  · have hlevel := ipProtocol_mem_lineage_iff.mpr hk
    have hsome := h.protocol_isSome hlevel
    rw [if_neg hk, h.protocol hlevel]
    rw [h.protocol hlevel] at hsome
    exact Parameters.map_protocol? hsome

theorem TakenUp.reflects {k : ClassifierKind} {name : String} {b : Draft} (h : k.TakenUp ps b)
    (hframe : b.name = name ∧ b.ip = none ∧ b.action = .deny) : k.Reflects ps name b where
  frame := hframe
  etherType := by
    have hsome := h.etherType_isSome
    rw [h.etherType] at hsome ⊢
    exact Parameters.map_etherType? hsome
  protocol := h.map_protocol
  lower role := (h.numbers role).1
  upper role := (h.numbers role).2
  range _ hne := h.eq_range hne
  transport role hne := by
    rcases h.transport with hempty | htcp | hudp
    · rw [hempty role] at hne
      cases hne
    · exact .inl ⟨htcp, Draft.protocolMatch_of_tcp htcp⟩
    · exact .inr ⟨hudp, Draft.protocolMatch_of_udp hudp⟩

/-- A kind of classifier accepts exactly the well-formed parameters. The draft then holds the numbers that
were given, each as it stands, and no others, and the entry keeps every port of the draft. -/
theorem constrain_iff_accepts (k : ClassifierKind) (ps : Parameters) (name : String) :
    ((∃ b, k.constrain ps { name := name } = .ok b) ↔ k.Accepts ps) ∧
      ∀ b, k.constrain ps { name := name } = .ok b → k.Reflects ps name b := by
  refine ⟨exists_constrain_iff, fun b hb => ?_⟩
  have hframe := Specialization.frame_of_constrain (s := ⟨k, ps⟩) hb
  exact (takenUp_of_constrain hb).reflects hframe

/-- Parameters at the very ends of what is accepted. -/
def farthestParameters : Parameters :=
  .ofList [(etherTypeParameter, .int 0x86DD), (protocolParameter, .int 17),
    (sourceParameters.single, .int 65535), (destinationParameters.range, .range ⟨1, 65535⟩)]

theorem constrain_iff_accepts_farthest : ∃ b, l4.constrain farthestParameters { name := "any" } = .ok b ∧
    l4.Accepts farthestParameters ∧ l4.Reflects farthestParameters "any" b := by
  obtain ⟨b, hb⟩ : ∃ b, l4.constrain farthestParameters { name := "any" } = .ok b := ⟨_, rfl⟩
  obtain ⟨haccepts, hreflects⟩ := constrain_iff_accepts .l4 farthestParameters "any"
  exact ⟨b, hb, haccepts.mp ⟨b, hb⟩, hreflects b hb⟩

/-- A number that has the one of TCP in its lowest bits is no protocol. -/
example : (ipProtocol.constrain (.ofList [(protocolParameter, .int 262)]) { name := "web" }).toOption =
    none := by
  decide

end ClassifierKind

end GroupPolicy

import GroupPolicy.Proofs.Render.AddressAssignment

namespace GroupPolicy

/-- The address that is put in last decides on the version. -/
theorem IpMatch.family_between? (source destination : Option Cidr) :
    (between? source destination).map IpMatch.family = (destination.or source).map Cidr.family := by
  cases destination with
  | none => cases source <;> rfl
  | some q => rfl

/-- A routed endpoint that has an address of a version is routed by it. -/
theorem Endpoint.family_routedCidr? {e : Endpoint} {f : Family} (hrouted : e.key.contextType.isL3 = true)
    (hown : e.ownFamily? = some f) : e.routedCidr?.map Cidr.family = some f := by
  have haddress : e.routedAddress = .ok e.key.address := if_pos hrouted
  rw [routedCidr?, haddress]
  unfold ownFamily? at hown
  split at hown
  · exact hown
  · cases hown

namespace Draft

variable {d : AclDirection} {owner peer : Endpoint} {x : Draft} {f : Family}

theorem ipMatch_addressed_of_isDhcp (hdhcp : x.isDhcp = true) (hip : x.ip = none)
    (hf : x.etherType = some f) : (x.addressed d owner peer).ipMatch = some { family := f } := by
  rw [addressed_of_isDhcp hdhcp, ipMatch, hip, hf]
  rfl

theorem ipMatch_addressed_of_not_isDhcp (hdhcp : x.isDhcp = false) (hip : x.ip = none) {p : Cidr}
    (hp : (d.receiver owner peer).routedCidr?.or (d.sender owner peer).routedCidr? = some p) :
    ∃ ip, (x.addressed d owner peer).ipMatch = some ip ∧ ip.family = p.family := by
  have hfamily := IpMatch.family_between? (d.sender owner peer).routedCidr?
    (d.receiver owner peer).routedCidr?
  rw [hp] at hfamily
  obtain ⟨ip, hbetween, hsame⟩ := Option.map_eq_some_iff.mp hfamily
  refine ⟨ip, ?_, hsame⟩
  rw [addressed_of_not_isDhcp hdhcp hip, ipMatch, hbetween]
  rfl

end Draft

namespace AppliedPolicy

variable {policy : AppliedPolicy} {owner peer : Endpoint} {d : AclDirection} {rule : Rule} {e : AclEntry}
  {s : Specialization} {x : Draft} {f : Family}

/-- What it takes for a rule to come out as an entry, once its classifiers amount to a draft. -/
theorem ruleEntry?_eq_some_iff_of_constrain
    (hs : Specialization.ofClassifiers? rule.classifiers (policy.direction d) = some s)
    (hx : s.constrain { name := rule.entryName owner peer } = .ok x) :
    policy.ruleEntry? owner peer d rule = some e ↔ rule.allows = true ∧
      (∀ f, owner.ownFamily? = some f → peer.ownFamily? = some f → x.etherType ≠ some f.other) ∧
      (x.isDhcp = true ∨ owner.routedCidr?.isSome = true ∨ peer.routedCidr?.isSome = true) ∧
      e = (x.permit.addressed d owner peer).build := by
  rw [ruleEntry?_eq_some_iff]
  constructor
  · rintro ⟨hallows, s', x', hs', hx', hrest⟩
    obtain rfl := Option.some.inj (hs.symm.trans hs')
    obtain rfl := Except.ok.inj (hx.symm.trans hx')
    exact ⟨hallows, hrest⟩
  · rintro ⟨hallows, hrest⟩
    exact ⟨hallows, s, x, hs, hx, hrest⟩

/-- An entry for other traffic than the exchange of addresses finds an address at one end. -/
theorem exists_address (hdhcp : x.isDhcp = false)
    (hends : x.isDhcp = true ∨ owner.routedCidr?.isSome = true ∨ peer.routedCidr?.isSome = true) :
    ∃ p, (d.receiver owner peer).routedCidr?.or (d.sender owner peer).routedCidr? = some p := by
  have hsome : owner.routedCidr?.isSome = true ∨ peer.routedCidr?.isSome = true :=
    hends.resolve_left (by simp [hdhcp])
  rw [← Option.isSome_iff_exists, Option.isSome_or, Bool.or_eq_true]
  cases d with
  | ingress => exact hsome.symm
  | egress => exact hsome

/-- The entry of a rule that asks for a version of addresses matches addresses. They are of that version
exactly if the rule covers the exchange of addresses, or the address that is put in last, which is the one
of the receiver if it has any, is of that version. Between routed endpoints whose addresses are of one
version they always are. -/
theorem family_of_entry_iff (policy : AppliedPolicy) (owner peer : Endpoint) (d : AclDirection) :
    policy.entries owner peer d = policy.group.rules.filterMap (policy.ruleEntry? owner peer d) ∧
    ∀ (rule : Rule) (e : AclEntry) (s : Specialization) (x : Draft) (f : Family),
      policy.ruleEntry? owner peer d rule = some e →
      Specialization.ofClassifiers? rule.classifiers (policy.direction d) = some s →
      s.constrain { name := rule.entryName owner peer } = .ok x → x.etherType = some f →
      ∃ ip, e.traffic.ip = some ip ∧
        (ip.family = f ↔ x.isDhcp = true ∨
          ((d.receiver owner peer).routedCidr?.or (d.sender owner peer).routedCidr?).map Cidr.family =
            some f) ∧
        (owner.key.contextType.isL3 = true → peer.key.contextType.isL3 = true →
          ∀ g, owner.ownFamily? = some g → peer.ownFamily? = some g → ip.family = f) := by
  refine ⟨policy.entries_eq_filterMap owner peer d, ?_⟩
  intro rule e s x f he hs hx hf
  obtain ⟨-, hrelevant, hends, rfl⟩ := (ruleEntry?_eq_some_iff_of_constrain hs hx).mp he
  have hnone : x.permit.ip = none := (Specialization.frame_of_constrain hx).2.1
  cases hdhcp : x.isDhcp with
  | true =>
    have hmatch : (x.permit.addressed d owner peer).ipMatch = some { family := f } :=
      Draft.ipMatch_addressed_of_isDhcp hdhcp hnone hf
    exact ⟨_, hmatch, by simp, fun _ _ _ _ _ => rfl⟩
  | false =>
    obtain ⟨p, hp⟩ := exists_address (d := d) hdhcp hends
    obtain ⟨ip, hmatch, hfamily⟩ := Draft.ipMatch_addressed_of_not_isDhcp (x := x.permit) hdhcp hnone hp
    refine ⟨ip, hmatch, by simp [hp, hfamily], fun howner hpeer g hog hpg => ?_⟩
    have hlast : ((d.receiver owner peer).routedCidr?.or (d.sender owner peer).routedCidr?).map
        Cidr.family = some g := by
      have hog' := Endpoint.family_routedCidr? howner hog
      have hpg' := Endpoint.family_routedCidr? hpeer hpg
      cases d <;> simp [AclDirection.receiver, AclDirection.sender, Option.map_or, hog', hpg']
    have hshared : p.family = g := by simpa [hp] using hlast
    have hasked : f = g := by
      refine (g.eq_or_eq_other f).resolve_right fun hother => hrelevant g hog hpg ?_
      rw [hf, hother]
    rw [hfamily, hshared, hasked]

/-- The rule that lets every packet of a version through. -/
def familyRule (f : Family) : Rule :=
  Sample.ruleOfKind f.text .etherType
    [{ name := etherTypeParameter, intValue := some (etherTypeNumber f) }]

/-- Between ends of both versions the entry of a rule is for the version of the receiver. -/
theorem not_family_of_every_entry :
    ¬∀ (policy : AppliedPolicy) (owner peer : Endpoint) (d : AclDirection) (rule : Rule) (e : AclEntry)
      (s : Specialization) (x : Draft) (f : Family), rule ∈ policy.group.rules →
      policy.ruleEntry? owner peer d rule = some e →
      Specialization.ofClassifiers? rule.classifiers (policy.direction d) = some s →
      s.constrain { name := rule.entryName owner peer } = .ok x → x.etherType = some f →
      ∃ ip, e.traffic.ip = some ip ∧ ip.family = f := by
  intro h
  let policy := Sample.policy [familyRule .ipv4]
  let owner := Sample.endpoint "10.0.0.1" "tap0"
  let peer := Sample.endpoint "2001:db8::1" "tap1"
  have hentry : (policy.ruleEntry? owner peer .ingress (familyRule .ipv4)).map
      (fun e => e.traffic.ip.map IpMatch.family) = some (some .ipv6) := by
    decide +kernel
  obtain ⟨e, he, hfamily⟩ := Option.map_eq_some_iff.mp hentry
  obtain ⟨ip, hip, hipv4⟩ := h policy owner peer .ingress (familyRule .ipv4) e _ _ .ipv4
    List.mem_cons_self he rfl rfl rfl
  rw [hip, Option.map_some, hipv4] at hfamily
  cases hfamily

/-- Between hardware addresses, which are of no version, the entry is for the one of the addresses that
they carry; between routed addresses of its version it is for that version. -/
theorem family_of_entry_iff_carried :
    let policy := Sample.policy [familyRule .ipv6]
    let carrier (mac address : String) : Endpoint :=
      { key := .l2 mac "bridge", parents := [Sample.key address] }
    (∃ e ip, policy.ruleEntry? (carrier "aa:bb:cc:00:00:01" "10.0.0.1")
        (carrier "aa:bb:cc:00:00:02" "10.0.0.9") .ingress (familyRule .ipv6) = some e ∧
        e.traffic.ip = some ip ∧ ip.family ≠ .ipv6) ∧
      ∃ e ip, policy.ruleEntry? (Sample.endpoint "2001:db8::1" "tap0")
        (Sample.endpoint "2001:db8::9" "tap1") .egress (familyRule .ipv6) = some e ∧
        e.traffic.ip = some ip ∧ ip.family = .ipv6 := by
  intro policy carrier
  constructor
  · have hentry : (policy.ruleEntry? (carrier "aa:bb:cc:00:00:01" "10.0.0.1")
        (carrier "aa:bb:cc:00:00:02" "10.0.0.9") .ingress (familyRule .ipv6)).isSome = true := by
      decide +kernel
    have hlast : ((carrier "aa:bb:cc:00:00:02" "10.0.0.9").routedCidr?.or
        (carrier "aa:bb:cc:00:00:01" "10.0.0.1").routedCidr?).map Cidr.family = some .ipv4 := by
      decide +kernel
    obtain ⟨e, he⟩ := Option.isSome_iff_exists.mp hentry
    obtain ⟨ip, hip, hfamily, -⟩ := (family_of_entry_iff _ _ _ _).2 _ e _ _ .ipv6 he rfl rfl rfl
    refine ⟨e, ip, he, hip, fun hipv6 => ?_⟩
    rcases hfamily.mp hipv6 with hdhcp | hipv6
    · cases hdhcp
    · cases hlast.symm.trans hipv6
  · have hentry : (policy.ruleEntry? (Sample.endpoint "2001:db8::1" "tap0")
        (Sample.endpoint "2001:db8::9" "tap1") .egress (familyRule .ipv6)).isSome = true := by
      decide +kernel
    obtain ⟨e, he⟩ := Option.isSome_iff_exists.mp hentry
    obtain ⟨ip, hip, -, hrouted⟩ := (family_of_entry_iff _ _ _ _).2 _ e _ _ .ipv6 he rfl rfl rfl
    exact ⟨e, ip, he, hip, hrouted rfl rfl .ipv6 (by decide +kernel) (by decide +kernel)⟩

end AppliedPolicy

end GroupPolicy

import GroupPolicy.Proofs.Policy.Sample
import GroupPolicy.Proofs.Render.BothEnds
import GroupPolicy.Proofs.Render.Colocation

namespace GroupPolicy

section Verdicts

variable {Packet : Type} {covers : Traffic → Packet → Bool} {packet : Packet} {es es' : List AclEntry}
  {v : Verdict}

/-- What becomes of a packet at a list of entries: the first entry that covers it decides. Which
packets a match covers is left open. -/
def verdict? (covers : Traffic → Packet → Bool) (packet : Packet) (es : List AclEntry) :
    Option Verdict :=
  (es.find? fun e => covers e.traffic packet).map AclEntry.action

theorem verdict?_append : verdict? covers packet (es ++ es') =
    (verdict? covers packet es).or (verdict? covers packet es') := by
  rw [verdict?, List.find?_append, Option.map_or, verdict?, verdict?]

theorem verdict?_eq_none (h : ∀ e ∈ es, ¬covers e.traffic packet = true) :
    verdict? covers packet es = none := by
  rw [verdict?, List.find?_eq_none.mpr h, Option.map_none]

/-- Among entries of one action it does not matter which of them covers a packet. -/
theorem verdict?_eq_some (haction : ∀ e ∈ es, e.action = v)
    (hcovered : ∃ e ∈ es, covers e.traffic packet = true) : verdict? covers packet es = some v := by
  obtain ⟨e, he⟩ := Option.isSome_iff_exists.mp (List.find?_isSome.mpr hcovered)
  rw [verdict?, he, Option.map_some, haction e (List.mem_of_find?_eq_some he)]

/-- Nor does the order of such entries matter. -/
theorem verdict?_perm (haction : ∀ e ∈ es, e.action = v) (hperm : es.Perm es') :
    verdict? covers packet es = verdict? covers packet es' := by
  have haction' : ∀ e ∈ es', e.action = v := fun e he => haction e (hperm.mem_iff.mpr he)
  by_cases hcovered : ∃ e ∈ es, covers e.traffic packet = true
  · have hcovered' : ∃ e ∈ es', covers e.traffic packet = true := by
      obtain ⟨e, he, hcovers⟩ := hcovered
      exact ⟨e, hperm.mem_iff.mp he, hcovers⟩
    rw [verdict?_eq_some haction hcovered, verdict?_eq_some haction' hcovered']
  · have hnone (e : AclEntry) (he : e ∈ es) : ¬covers e.traffic packet = true :=
      fun hcovers => hcovered ⟨e, he, hcovers⟩
    rw [verdict?_eq_none hnone, verdict?_eq_none fun e he => hnone e (hperm.mem_iff.mpr he)]

end Verdicts

namespace Traffic

/-- All traffic that has a prefix at its far end, as the interface sees it: what enters goes there, and
what leaves comes from there. -/
def withFarEnd (d : AclDirection) (p : Cidr) : Traffic :=
  match d with
  | .ingress => { ip := some { family := p.family, destination := some p }, protocol := .other anyProtocol }
  | .egress => { ip := some { family := p.family, source := some p }, protocol := .other anyProtocol }

/-- All traffic that has a prefix at its near end: what enters comes from there, and what leaves goes
there. -/
def withNearEnd (d : AclDirection) (p : Cidr) : Traffic :=
  withFarEnd d.opposite p

end Traffic

theorem AppliedPolicy.action_of_mem_entries {policy : AppliedPolicy} {owner peer : Endpoint}
    {d : AclDirection} {e : AclEntry} (h : e ∈ policy.entries owner peer d) : e.action = .permit := by
  rw [entries_eq_filterMap, List.mem_filterMap] at h
  obtain ⟨rule, -, hentry⟩ := h
  obtain ⟨-, haction⟩ := name_action_of_ruleEntry? hentry
  exact haction

namespace Context

/-- The entries that endpoints bring to the interface of one of them: those of its own policies, and
those of the policies of every endpoint that is attached to the same location. -/
def IsPolicyEntry (c : Context) (k : EndpointKey) (d : AclDirection) (x : AclEntry) : Prop :=
  ∃ j owner, (j = k ∨ ∃ l, c.locationOf? k = some l ∧ c.locationOf? j = some l) ∧
    c.endpoint? j = some owner ∧ x ∈ (c.pairwiseEntries owner d).value

/-- Whether a prefix is that of the first endpoint above an endpoint that is attached nowhere and has
a prefix for its address. -/
def IsGateway (c : Context) (e : Endpoint) (p : Cidr) : Prop :=
  ∃ nearer parent farther, e.parents = nearer ++ parent :: farther ∧
    c.locationOf? parent = none ∧ Cidr.parse parent.address = .ok p ∧
    ∀ k ∈ nearer, c.locationOf? k = none → ∀ q, Cidr.parse k.address ≠ .ok q

variable {c : Context} {k : EndpointKey} {e : Endpoint} {d : AclDirection} {x : AclEntry} {p : Cidr}
  {settings : AclSettings}

theorem mem_interfaceEntries (he : c.endpoint? k = some e) :
    x ∈ (c.interfaceEntries (.ofContext c) e d).value ↔ c.IsPolicyEntry k d x := by
  rw [value_interfaceEntries he, List.mem_flatMap]
  constructor
  · rintro ⟨j, hj, hx⟩
    rw [sharedEntries] at hx
    cases howner : c.endpoint? j with
    | none =>
      rw [howner] at hx
      cases hx
    | some owner =>
      rw [howner] at hx
      exact ⟨j, owner, mem_interfaceKeys.mp hj, howner, hx⟩
  · rintro ⟨j, owner, hj, howner, hx⟩
    refine ⟨j, mem_interfaceKeys.mpr hj, ?_⟩
    rw [sharedEntries, howner]
    exact hx

/-- Policies only permit. -/
theorem IsPolicyEntry.action_eq (h : c.IsPolicyEntry k d x) : x.action = .permit := by
  obtain ⟨j, owner, -, -, hx⟩ := h
  obtain ⟨-, peer, -, policy, -, -, hx⟩ := mem_selectedEntries.mp hx
  exact AppliedPolicy.action_of_mem_entries hx

theorem isLocated_eq_isSome (c : Context) (k : EndpointKey) :
    c.isLocated k = (c.locationOf? k).isSome := by
  rw [isLocated, locationOf?]
  cases c.endpoint? k <;> rfl

theorem externalCidr?_eq_some_iff : c.externalCidr? e = some p ↔ c.IsGateway e p := by
  have hsome (k : EndpointKey) (q : Cidr) :
      (if c.isLocated k then none else (Cidr.parse k.address).toOption) = some q ↔
        c.locationOf? k = none ∧ Cidr.parse k.address = .ok q := by
    rw [isLocated_eq_isSome]
    cases c.locationOf? k with
    | none => cases Cidr.parse k.address <;> simp [Except.toOption]
    | some l => simp
  have hnone (k : EndpointKey) :
      (if c.isLocated k then none else (Cidr.parse k.address).toOption) = none ↔
        (c.locationOf? k = none → ∀ q, Cidr.parse k.address ≠ .ok q) := by
    rw [Option.eq_none_iff_forall_ne_some]
    constructor
    · exact fun h hnowhere q hparse => h q ((hsome k q).mpr ⟨hnowhere, hparse⟩)
    · exact fun h q hq => h ((hsome k q).mp hq).1 q ((hsome k q).mp hq).2
  rw [externalCidr?, List.findSome?_eq_some_iff]
  simp only [hsome, hnone, and_assoc]
  exact Iff.rfl

theorem effect_denyEntry (d : AclDirection) (s : ForwardingSubnet) :
    (denyEntry d s).effect = (.withFarEnd d s.cidr, .deny) := by
  cases d <;> rfl

theorem effect_permitEntry (d : AclDirection) (p : Cidr) :
    (permitEntry d p).effect = (.withNearEnd d p, .permit) := by
  cases d <;> rfl

/-- An endpoint's list in its parts, with what stands in each of them. -/
structure ListParts (c : Context) (settings : AclSettings) (k : EndpointKey) (e : Endpoint)
    (d : AclDirection) where
  policies : List AclEntry
  denials : List AclEntry
  outside : Option AclEntry
  mem_policies : ∀ x, x ∈ policies ↔ c.IsPolicyEntry k d x
  /-- There is one denial for each subnet of a tenant, in the order of the subnets. -/
  effect_denials : denials.map AclEntry.effect =
    (if settings.denyTenantSubnets then c.subnets.filter ForwardingSubnet.isTenant else []).map
      fun s => (.withFarEnd d s.cidr, .deny)
  name_outside : ∀ x, outside = some x → x.name = "permit_external_" ++ d.lowerText
  /-- There is at most one entry for an endpoint outside: the permission for the gateway. -/
  effect_outside : ∀ f, outside.map AclEntry.effect = some f ↔
    settings.allowExternal = true ∧ ∃ p, c.IsGateway e p ∧ f = (.withNearEnd d p, .permit)

/-- The parts of the list that is rendered. -/
def listParts (c : Context) (settings : AclSettings) (he : c.endpoint? k = some e) (d : AclDirection) :
    c.ListParts settings k e d where
  policies := (c.interfaceEntries (.ofContext c) e d).value
  denials := if settings.denyTenantSubnets then c.denyEntries d else []
  outside := if settings.allowExternal then c.externalEntry? e d else none
  mem_policies _ := mem_interfaceEntries he
  effect_denials := by
    split
    · rw [denyEntries, List.map_map]
      exact List.map_congr_left fun s _ => effect_denyEntry d s
    · rfl
  name_outside x hx := by
    obtain ⟨-, hx⟩ := Option.ite_none_right_eq_some.mp hx
    obtain ⟨p, -, rfl⟩ := Option.map_eq_some_iff.mp hx
    cases d <;> rfl
  effect_outside f := by
    rw [Option.map_eq_some_iff]
    constructor
    · rintro ⟨x, hx, rfl⟩
      obtain ⟨hallow, hx⟩ := Option.ite_none_right_eq_some.mp hx
      obtain ⟨p, hp, rfl⟩ := Option.map_eq_some_iff.mp hx
      exact ⟨hallow, p, externalCidr?_eq_some_iff.mp hp, effect_permitEntry d p⟩
    · rintro ⟨hallow, p, hp, rfl⟩
      refine ⟨permitEntry d p, ?_, effect_permitEntry d p⟩
      rw [if_pos hallow, externalEntry?, externalCidr?_eq_some_iff.mpr hp, Option.map_some]

section Traffic

variable {Packet : Type} (covers : Traffic → Packet → Bool) (packet : Packet)

/-- Whether some policy on the interface of an endpoint covers a packet. -/
def IsPolicyTraffic (c : Context) (k : EndpointKey) (d : AclDirection) : Prop :=
  ∃ x, c.IsPolicyEntry k d x ∧ covers x.traffic packet = true

/-- Whether a packet is denied for a tenant's subnet at its far end. -/
def IsTenantTraffic (c : Context) (settings : AclSettings) (d : AclDirection) : Prop :=
  settings.denyTenantSubnets = true ∧
    ∃ s ∈ c.subnets, s.isTenant = true ∧ covers (.withFarEnd d s.cidr) packet = true

/-- Whether a packet is permitted for the gateway at its near end. -/
def IsOutsideTraffic (c : Context) (settings : AclSettings) (e : Endpoint) (d : AclDirection) : Prop :=
  settings.allowExternal = true ∧ ∃ p, c.IsGateway e p ∧ covers (.withNearEnd d p) packet = true

end Traffic

namespace ListParts

/-- The list that the parts make up. -/
def entries (parts : c.ListParts settings k e d) : List AclEntry :=
  parts.policies ++ (parts.denials ++ parts.outside.toList)

variable {Packet : Type} {covers : Traffic → Packet → Bool} {packet : Packet}
  (parts : c.ListParts settings k e d)

theorem action_policies (x : AclEntry) (hx : x ∈ parts.policies) : x.action = .permit :=
  ((parts.mem_policies x).mp hx).action_eq

theorem exists_policies : (∃ x ∈ parts.policies, covers x.traffic packet = true) ↔
    c.IsPolicyTraffic covers packet k d := by
  simp only [parts.mem_policies]
  exact Iff.rfl

theorem mem_effect_denials {f : Traffic × Verdict} : f ∈ parts.denials.map AclEntry.effect ↔
    settings.denyTenantSubnets = true ∧
      ∃ s ∈ c.subnets, s.isTenant = true ∧ f = (.withFarEnd d s.cidr, .deny) := by
  rw [parts.effect_denials, List.mem_map]
  split
  next hdeny =>
    simp only [hdeny, List.mem_filter, true_and, and_assoc, eq_comm (a := f)]
  next hdeny =>
    simp [hdeny]

theorem action_denials (x : AclEntry) (hx : x ∈ parts.denials) : x.action = .deny := by
  obtain ⟨-, s, -, -, heffect⟩ := parts.mem_effect_denials.mp (List.mem_map_of_mem hx)
  exact congrArg Prod.snd heffect

theorem exists_denials : (∃ x ∈ parts.denials, covers x.traffic packet = true) ↔
    c.IsTenantTraffic covers packet settings d := by
  constructor
  · rintro ⟨x, hx, hcovers⟩
    obtain ⟨hdeny, s, hs, htenant, heffect⟩ := parts.mem_effect_denials.mp (List.mem_map_of_mem hx)
    have htraffic : x.traffic = .withFarEnd d s.cidr := congrArg Prod.fst heffect
    exact ⟨hdeny, s, hs, htenant, htraffic ▸ hcovers⟩
  · rintro ⟨hdeny, s, hs, htenant, hcovers⟩
    obtain ⟨x, hx, heffect⟩ := List.mem_map.mp (parts.mem_effect_denials.mpr ⟨hdeny, s, hs, htenant, rfl⟩)
    have htraffic : x.traffic = .withFarEnd d s.cidr := congrArg Prod.fst heffect
    exact ⟨x, hx, htraffic ▸ hcovers⟩

theorem action_outside (x : AclEntry) (hx : x ∈ parts.outside.toList) : x.action = .permit := by
  have hsome : parts.outside.map AclEntry.effect = some x.effect := by
    rw [Option.mem_toList.mp hx, Option.map_some]
  obtain ⟨-, p, -, heffect⟩ := (parts.effect_outside _).mp hsome
  exact congrArg Prod.snd heffect

theorem exists_outside : (∃ x ∈ parts.outside.toList, covers x.traffic packet = true) ↔
    c.IsOutsideTraffic covers packet settings e d := by
  constructor
  · rintro ⟨x, hx, hcovers⟩
    have hsome : parts.outside.map AclEntry.effect = some x.effect := by
      rw [Option.mem_toList.mp hx, Option.map_some]
    obtain ⟨hallow, p, hp, heffect⟩ := (parts.effect_outside _).mp hsome
    have htraffic : x.traffic = .withNearEnd d p := congrArg Prod.fst heffect
    exact ⟨hallow, p, hp, htraffic ▸ hcovers⟩
  · rintro ⟨hallow, p, hp, hcovers⟩
    obtain ⟨x, hx, heffect⟩ := Option.map_eq_some_iff.mp ((parts.effect_outside _).mpr ⟨hallow, p, hp, rfl⟩)
    have htraffic : x.traffic = .withNearEnd d p := congrArg Prod.fst heffect
    exact ⟨x, Option.mem_toList.mpr hx, htraffic ▸ hcovers⟩

end ListParts

/-- The list that is rendered for an endpoint is made up of its parts. -/
theorem value_entries_listParts (settings : AclSettings) (he : c.endpoint? k = some e)
    (d : AclDirection) :
    (c.entries (.ofContext c) settings k d).value = .ok (c.listParts settings he d).entries := by
  have hlast : (if settings.allowExternal then (c.externalEntry? e d).toList else []) =
      (if settings.allowExternal then c.externalEntry? e d else none).toList := by
    split <;> rfl
  have hdefaults : c.defaultEntries settings e d =
      (c.listParts settings he d).denials ++ (c.listParts settings he d).outside.toList := by
    rw [defaultEntries, hlast]
    rfl
  rw [entries, he, ListParts.entries, ← hdefaults]
  rfl

end Context

/-- The list of an endpoint permits a packet that a policy of the endpoint, or of one on the same
interface, covers; otherwise it denies one whose far end lies in a tenant's subnet; otherwise it permits
one whose near end is the gateway; and otherwise no entry matches. The order of the policies does not
matter for that. -/
theorem first_match_decides {c : Context} {k : EndpointKey} {e : Endpoint}
    (he : c.endpoint? k = some e) (settings : AclSettings) (d : AclDirection) :
    ∃ parts : c.ListParts settings k e d,
      (c.entries (.ofContext c) settings k d).value = .ok parts.entries ∧
      ∀ {Packet : Type} (covers : Traffic → Packet → Bool) (packet : Packet),
        let verdict := verdict? covers packet parts.entries
        (c.IsPolicyTraffic covers packet k d → verdict = some .permit) ∧
        (¬c.IsPolicyTraffic covers packet k d →
          (c.IsTenantTraffic covers packet settings d → verdict = some .deny) ∧
          (¬c.IsTenantTraffic covers packet settings d →
            (c.IsOutsideTraffic covers packet settings e d → verdict = some .permit) ∧
            (¬c.IsOutsideTraffic covers packet settings e d → verdict = none))) ∧
        ∀ policies, parts.policies.Perm policies →
          verdict? covers packet (policies ++ (parts.denials ++ parts.outside.toList)) = verdict := by
  let parts := c.listParts settings he d
  refine ⟨parts, c.value_entries_listParts settings he d, fun covers packet => ?_⟩
  intro verdict
  have hnone {es : List AclEntry} (h : ¬∃ x ∈ es, covers x.traffic packet = true) :
      verdict? covers packet es = none :=
    verdict?_eq_none fun x hx hcovers => h ⟨x, hx, hcovers⟩
  -- The parts decide in turn, and within each of them all entries do the same.
  have hparts : verdict = (verdict? covers packet parts.policies).or
      ((verdict? covers packet parts.denials).or (verdict? covers packet parts.outside.toList)) := by
    rw [← verdict?_append, ← verdict?_append]
    rfl
  rw [hparts]
  refine ⟨fun hpolicy => ?_, fun hpolicy => ⟨fun htenant => ?_, fun htenant => ⟨fun houtside => ?_,
    fun houtside => ?_⟩⟩, fun policies hperm => ?_⟩
  · rw [verdict?_eq_some parts.action_policies (parts.exists_policies.mpr hpolicy), Option.some_or]
  · rw [hnone (parts.exists_policies.not.mpr hpolicy), Option.none_or,
      verdict?_eq_some parts.action_denials (parts.exists_denials.mpr htenant), Option.some_or]
  · rw [hnone (parts.exists_policies.not.mpr hpolicy), hnone (parts.exists_denials.not.mpr htenant),
      Option.none_or, Option.none_or,
      verdict?_eq_some parts.action_outside (parts.exists_outside.mpr houtside)]
  · rw [hnone (parts.exists_policies.not.mpr hpolicy), hnone (parts.exists_denials.not.mpr htenant),
      hnone (parts.exists_outside.not.mpr houtside), Option.none_or, Option.none_or]
  · rw [verdict?_append, verdict?_append, verdict?_perm parts.action_policies hperm]

/-- A server behind a gateway outside: what comes from the gateway is no policy's traffic and goes to no
tenant's subnet, so the last entry decides. -/
theorem first_match_decides_gateway :
    let gateway : Address := .v4 ⟨192, 168, 1, 1⟩
    let server : Endpoint := { Sample.server with parents := [Sample.key "192.168.1.1"] }
    let c := ({ Sample.snapshot [Sample.subnet] [Sample.row "10.0.0.1" "10.0.0.9" "http" .provider] with
      endpoints := [server, Sample.endpoint "10.0.0.9" "tap1"] } : Snapshot).context
    let comesFrom (t : Traffic) (source : Address) : Bool :=
      t.ip.any fun ip => ip.source.any fun p => p.address = source
    ∃ es, (c.entries (.ofContext c) {} server.key .ingress).value = .ok es ∧
      es.map AclEntry.name = ["http_10.0.0.1_10.0.0.9", "deny_ingress_ipv4_10.0.0.0/24",
        "permit_external_ingress"] ∧
      verdict? comesFrom gateway es = some .permit := by
  intro gateway server c comesFrom
  have hserver : c.endpoint? server.key = some server := by decide +kernel
  obtain ⟨parts, hentries, hdecides⟩ := first_match_decides hserver {} .ingress
  obtain ⟨-, hnot, -⟩ := hdecides comesFrom gateway
  have hnames : ((c.entries (.ofContext c) {} server.key .ingress).value.toOption.getD []).map
      AclEntry.name = ["http_10.0.0.1_10.0.0.9", "deny_ingress_ipv4_10.0.0.0/24",
        "permit_external_ingress"] := by decide +kernel
  rw [hentries] at hnames
  have hpolicies : ∀ x ∈ (c.interfaceEntries (.ofContext c) server .ingress).value,
      comesFrom x.traffic gateway = false := by decide +kernel
  have hsubnets : ∀ s ∈ c.subnets, comesFrom (.withFarEnd .ingress s.cidr) gateway = false := by
    decide +kernel
  refine ⟨parts.entries, hentries, hnames, ((hnot ?_).2 ?_).1 ?_⟩
  · rintro ⟨x, hx, hcovers⟩
    rw [hpolicies x ((Context.mem_interfaceEntries hserver).mpr hx)] at hcovers
    cases hcovers
  · rintro ⟨-, s, hs, -, hcovers⟩
    rw [hsubnets s hs] at hcovers
    cases hcovers
  · have hgateway : c.externalCidr? server = some (.host gateway) := by decide +kernel
    exact ⟨rfl, .host gateway, Context.externalCidr?_eq_some_iff.mp hgateway, by decide⟩

end GroupPolicy

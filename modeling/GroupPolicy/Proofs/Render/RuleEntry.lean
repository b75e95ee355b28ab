import GroupPolicy.Render.PolicyEntries

namespace GroupPolicy

namespace Draft

/-- The draft with a name, addresses and an action of its own: everything that classifiers have no
say in. -/
def reframe (name : String) (ip : Option IpMatch) (action : Verdict) (x : Draft) : Draft :=
  { x with name, ip, action }

/-- The draft under another name. -/
def rename (name : String) (x : Draft) : Draft := { x with name }

/-- The draft with the address at one end, if that end has one. -/
def assign (role : AddressRole) (d : AclDirection) (owner peer : Endpoint) (x : Draft) : Draft :=
  match (role.endpoint d owner peer).routedCidr? with
  | some p => x.withAddress role p
  | none => x

/-- The draft with the addresses at both ends. -/
def addressed (d : AclDirection) (owner peer : Endpoint) (x : Draft) : Draft :=
  (x.assign .source d owner peer).assign .destination d owner peer

theorem isDhcp_withAddress (role : AddressRole) (p : Cidr) (x : Draft) :
    (x.withAddress role p).isDhcp = x.isDhcp := by
  unfold withAddress
  split
  · rfl
  · cases role <;> rfl

@[simp]
theorem isDhcp_assign (role : AddressRole) (d : AclDirection) (owner peer : Endpoint) (x : Draft) :
    (x.assign role d owner peer).isDhcp = x.isDhcp := by
  unfold assign
  split
  · exact isDhcp_withAddress role _ x
  · rfl

@[simp]
theorem isDhcp_addressed (d : AclDirection) (owner peer : Endpoint) (x : Draft) :
    (x.addressed d owner peer).isDhcp = x.isDhcp := by
  rw [addressed, isDhcp_assign, isDhcp_assign]

/-- Addresses are put between a name and an action, and change neither. -/
theorem name_action_assign (role : AddressRole) (d : AclDirection) (owner peer : Endpoint)
    (x : Draft) : (x.assign role d owner peer).name = x.name ∧
      (x.assign role d owner peer).action = x.action := by
  unfold assign
  split
  · unfold withAddress
    split
    · exact ⟨rfl, rfl⟩
    · cases role <;> exact ⟨rfl, rfl⟩
  · exact ⟨rfl, rfl⟩

theorem name_action_addressed (d : AclDirection) (owner peer : Endpoint) (x : Draft) :
    (x.addressed d owner peer).name = x.name ∧ (x.addressed d owner peer).action = x.action := by
  obtain ⟨hname, haction⟩ := name_action_assign .destination d owner peer (x.assign .source d owner peer)
  obtain ⟨hname', haction'⟩ := name_action_assign .source d owner peer x
  exact ⟨hname.trans hname', haction.trans haction'⟩

/-- A draft for other traffic than the exchange of addresses is bound to the address at an end, if
there is one. -/
theorem hasAddress_assign (role : AddressRole) (d : AclDirection) (owner peer : Endpoint) {x : Draft}
    (hdhcp : x.isDhcp = false) :
    (x.assign role d owner peer).hasAddress =
      ((role.endpoint d owner peer).routedCidr?.isSome || x.hasAddress) := by
  unfold assign
  split
  next p hp =>
    rw [hp]
    cases role <;> simp [withAddress, hdhcp, withSource, withDestination, hasAddress]
  next hp => simp [hp]

/-- A draft without addresses is bound in the end exactly if it covers the exchange of addresses, or
one of the ends has an address. -/
theorem isBound_addressed (d : AclDirection) (owner peer : Endpoint) {x : Draft} (hip : x.ip = none) :
    (x.addressed d owner peer).isBound = true ↔
      x.isDhcp = true ∨ owner.routedCidr?.isSome = true ∨ peer.routedCidr?.isSome = true := by
  rw [isBound, isDhcp_addressed, Bool.or_eq_true]
  cases hdhcp : x.isDhcp with
  | true => simp
  | false =>
    have hnone : x.hasAddress = false := by rw [hasAddress, hip]; rfl
    have hsource : (x.assign .source d owner peer).isDhcp = false := by rw [isDhcp_assign, hdhcp]
    rw [addressed, hasAddress_assign _ _ _ _ hsource, hasAddress_assign _ _ _ _ hdhcp, hnone]
    cases d <;> simp [AddressRole.endpoint, AddressRole.usesOwner, or_comm]

theorem isRelevant_iff (owner peer : Endpoint) (x : Draft) :
    x.isRelevant owner peer = true ↔ ∀ f, owner.ownFamily? = some f → peer.ownFamily? = some f →
      x.etherType ≠ some f.other := by
  unfold isRelevant sharedFamily?
  cases howner : owner.ownFamily? with
  | none => simp
  | some f =>
    cases hpeer : peer.ownFamily? with
    | none => simp
    | some g =>
      by_cases heq : f = g
      · subst heq
        simp
      · have hne : g ≠ f := fun h => heq h.symm
        simp [heq, hne]

end Draft

theorem assigned_eq_map (role : AddressRole) (d : AclDirection) (owner peer : Endpoint)
    (drafts : List Draft) :
    assigned role d owner peer drafts = drafts.map (Draft.assign role d owner peer) := by
  unfold assigned
  split
  next p hp =>
    refine List.map_congr_left fun x _ => ?_
    rw [Draft.assign, hp]
  next hp =>
    have hid : ∀ x ∈ drafts, Draft.assign role d owner peer x = id x := by
      intro x _
      rw [Draft.assign, hp]
      rfl
    rw [List.map_congr_left hid, List.map_id]

namespace ClassifierKind

/-- One level of the chain neither reads nor changes what lies outside its say. -/
theorem constrainLevel_reframe (name : String) (ip : Option IpMatch) (action : Verdict)
    (selected : Bool) (ps : Parameters) (x : Draft) (k : ClassifierKind) :
    constrainLevel selected ps (x.reframe name ip action) k =
      (constrainLevel selected ps x k).map (Draft.reframe name ip action) := by
  cases k with
  | etherType =>
    simp only [constrainLevel, constrainEtherType]
    cases ps.get? etherTypeParameter with
    | none => cases selected <;> rfl
    | some value =>
      dsimp only
      cases familyOfValue? value <;> rfl
  | ipProtocol =>
    simp only [constrainLevel, constrainProtocol]
    cases ps.get? protocolParameter with
    | none => cases selected <;> rfl
    | some value =>
      dsimp only
      cases protocolOfValue value <;> rfl
  | l4 =>
    simp only [constrainLevel, constrainPorts, Draft.reframe]
    cases sourceParameters.bounds ps with
    | error e => rfl
    | ok source =>
      cases destinationParameters.bounds ps with
      | error e => rfl
      | ok destination =>
        dsimp only [bind, Except.bind, pure, Except.pure]
        by_cases hempty : (source.isEmpty && destination.isEmpty) = true
        · rw [if_pos hempty, if_pos hempty]
          rfl
        · rw [if_neg hempty, if_neg hempty]
          by_cases hports : x.protocol = some tcpProtocol ∨ x.protocol = some udpProtocol
          · simp [hports, Except.map, Draft.reframe]
          · simp [hports, Except.map]

theorem foldlM_constrainLevel_reframe (name : String) (ip : Option IpMatch) (action : Verdict)
    (selected : ClassifierKind → Bool) (ps : Parameters) (levels : List ClassifierKind) (x : Draft) :
    levels.foldlM (fun x level => constrainLevel (selected level) ps x level)
        (x.reframe name ip action) =
      (levels.foldlM (fun x level => constrainLevel (selected level) ps x level) x).map
        (Draft.reframe name ip action) := by
  induction levels generalizing x with
  | nil => rfl
  | cons level rest ih =>
    simp only [List.foldlM_cons, constrainLevel_reframe]
    cases constrainLevel (selected level) ps x level with
    | error e => rfl
    | ok y => exact ih y

theorem constrain_reframe (name : String) (ip : Option IpMatch) (action : Verdict)
    (k : ClassifierKind) (ps : Parameters) (x : Draft) :
    k.constrain ps (x.reframe name ip action) =
      (k.constrain ps x).map (Draft.reframe name ip action) :=
  foldlM_constrainLevel_reframe name ip action (· == k) ps k.lineage x

end ClassifierKind

/-- What classifiers amount to is put into a draft whatever its name, addresses and action are. -/
theorem Specialization.constrain_reframe (name : String) (ip : Option IpMatch) (action : Verdict)
    (s : Specialization) (x : Draft) :
    s.constrain (x.reframe name ip action) = (s.constrain x).map (Draft.reframe name ip action) :=
  s.kind.constrain_reframe name ip action s.parameters x

/-- Classifiers leave the name, the addresses and the action of a draft as they are. -/
theorem Specialization.frame_of_constrain {s : Specialization} {x y : Draft}
    (h : s.constrain x = .ok y) : y.name = x.name ∧ y.ip = x.ip ∧ y.action = x.action := by
  have hself := s.constrain_reframe x.name x.ip x.action x
  change s.constrain x = _ at hself
  rw [h] at hself
  have hy : y = y.reframe x.name x.ip x.action := Except.ok.inj hself
  rw [hy]
  exact ⟨rfl, rfl, rfl⟩

namespace Rule

/-- A rule has a draft exactly if it lets its traffic through and its classifiers amount to
something that makes a match. -/
theorem draft_eq_ok_iff {rule : Rule} {d : Direction} {name : String} {x : Draft} :
    rule.draft d name = .ok x ↔ rule.allows = true ∧ ∃ s y,
      Specialization.ofClassifiers? rule.classifiers d = some s ∧
        s.constrain { name := name } = .ok y ∧ x = y.permit := by
  unfold draft
  cases hspecial : Specialization.ofClassifiers? rule.classifiers d with
  | none =>
    dsimp only
    constructor
    · intro h
      split at h <;> cases h
    · rintro ⟨-, s, y, hs, -⟩
      cases hs
  | some s =>
    dsimp only
    cases hallows : rule.allows with
    | false => simp
    | true =>
      cases hmatch : s.constrain { name := name } with
      | error cause => simp [hmatch]
      | ok y => simp [hmatch, eq_comm]

/-- The draft of a rule is the same under every name. -/
theorem draft_rename (rule : Rule) (d : Direction) (name name' : String) :
    rule.draft d name' = (rule.draft d name).map (Draft.rename name') := by
  unfold draft
  cases Specialization.ofClassifiers? rule.classifiers d with
  | none =>
    dsimp only
    split <;> rfl
  | some s =>
    dsimp only
    cases rule.allows with
    | false => rfl
    | true =>
      have hname := s.constrain_reframe name' none .deny { name := name }
      change s.constrain { name := name' } = _ at hname
      rw [hname]
      cases hmatch : s.constrain { name := name } with
      | error cause => rfl
      | ok y =>
        have hip : y.ip = none := (Specialization.frame_of_constrain hmatch).2.1
        simp [Except.map, Draft.reframe, Draft.rename, Draft.permit, hip]

end Rule

namespace AppliedPolicy

variable {policy : AppliedPolicy} {owner peer : Endpoint} {d : AclDirection} {rule : Rule} {x : Draft}
  {e : AclEntry}

/-- The draft that one rule of a policy leaves, if it leaves any. -/
def ruleDraft? (policy : AppliedPolicy) (owner peer : Endpoint) (d : AclDirection) (rule : Rule) :
    Option Draft :=
  (rule.draft (policy.direction d) (rule.entryName owner peer)).toOption.filter
    (Draft.isRelevant owner peer)

theorem drafts_eq_filterMap (policy : AppliedPolicy) (owner peer : Endpoint) (d : AclDirection) :
    policy.drafts owner peer d = policy.group.rules.filterMap (policy.ruleDraft? owner peer d) :=
  List.filter_filterMap

/-- A rule leaves what its classifiers amount to, if it lets its traffic through and is not for the other
version than that of both ends. -/
theorem ruleDraft?_eq_some_iff : policy.ruleDraft? owner peer d rule = some x ↔
    rule.allows = true ∧ ∃ s y,
      Specialization.ofClassifiers? rule.classifiers (policy.direction d) = some s ∧
        s.constrain { name := rule.entryName owner peer } = .ok y ∧
        (∀ f, owner.ownFamily? = some f → peer.ownFamily? = some f → y.etherType ≠ some f.other) ∧
        x = y.permit := by
  have hdraft : (rule.draft (policy.direction d) (rule.entryName owner peer)).toOption = some x ↔
      rule.draft (policy.direction d) (rule.entryName owner peer) = .ok x := by
    cases rule.draft (policy.direction d) (rule.entryName owner peer) <;> simp [Except.toOption]
  rw [ruleDraft?, Option.filter_eq_some_iff, hdraft, Rule.draft_eq_ok_iff]
  constructor
  · rintro ⟨⟨hallows, s, y, hs, hy, rfl⟩, hrelevant⟩
    exact ⟨hallows, s, y, hs, hy, (Draft.isRelevant_iff owner peer _).mp hrelevant, rfl⟩
  · rintro ⟨hallows, s, y, hs, hy, hrelevant, rfl⟩
    exact ⟨⟨hallows, s, y, hs, hy, rfl⟩, (Draft.isRelevant_iff owner peer _).mpr hrelevant⟩

/-- The entry that one rule of a policy makes, if it makes any. -/
def ruleEntry? (policy : AppliedPolicy) (owner peer : Endpoint) (d : AclDirection) (rule : Rule) :
    Option AclEntry :=
  (rule.draft (policy.direction d) (rule.entryName owner peer)).toOption.bind fun x =>
    if x.isRelevant owner peer && (x.addressed d owner peer).isBound then
      some (x.addressed d owner peer).build
    else none

theorem ruleEntry?_eq_bind (policy : AppliedPolicy) (owner peer : Endpoint) (d : AclDirection)
    (rule : Rule) :
    policy.ruleEntry? owner peer d rule = (policy.ruleDraft? owner peer d rule).bind fun x =>
      if (x.addressed d owner peer).isBound then some (x.addressed d owner peer).build else none := by
  unfold ruleEntry? ruleDraft?
  cases (rule.draft (policy.direction d) (rule.entryName owner peer)).toOption with
  | none => rfl
  | some x => cases hrelevant : x.isRelevant owner peer <;> simp [Option.filter_some, hrelevant]

/-- The addresses are put into every draft by itself. -/
theorem addressed_eq_map (policy : AppliedPolicy) (owner peer : Endpoint) (d : AclDirection) :
    policy.addressed owner peer d =
      (policy.drafts owner peer d).map (Draft.addressed d owner peer) := by
  rw [addressed, assigned_eq_map, assigned_eq_map, List.map_map]
  rfl

/-- The entries of a policy are those of its rules, in their order. -/
theorem entries_eq_filterMap (policy : AppliedPolicy) (owner peer : Endpoint) (d : AclDirection) :
    policy.entries owner peer d = policy.group.rules.filterMap (policy.ruleEntry? owner peer d) := by
  rw [entries, addressed_eq_map, drafts_eq_filterMap]
  simp only [← List.filterMap_eq_map, ← List.filterMap_eq_filter, List.filterMap_filterMap]
  congr 1
  funext rule
  rw [ruleEntry?_eq_bind]
  cases policy.ruleDraft? owner peer d rule with
  | none => rfl
  | some x => cases hbound : (x.addressed d owner peer).isBound <;> simp [Option.guard, hbound]

/-- What it takes for a rule to come out as an entry, and which entry it is then. -/
theorem ruleEntry?_eq_some_iff : policy.ruleEntry? owner peer d rule = some e ↔
    rule.allows = true ∧ ∃ s x,
      Specialization.ofClassifiers? rule.classifiers (policy.direction d) = some s ∧
        s.constrain { name := rule.entryName owner peer } = .ok x ∧
        (∀ f, owner.ownFamily? = some f → peer.ownFamily? = some f → x.etherType ≠ some f.other) ∧
        (x.isDhcp = true ∨ owner.routedCidr?.isSome = true ∨ peer.routedCidr?.isSome = true) ∧
        e = (x.permit.addressed d owner peer).build := by
  have hbound {s : Specialization} {y : Draft}
      (hy : s.constrain { name := rule.entryName owner peer } = .ok y) :=
    Draft.isBound_addressed d owner peer (x := y.permit) (Specialization.frame_of_constrain hy).2.1
  simp only [ruleEntry?_eq_bind, Option.bind_eq_some_iff, Option.ite_none_right_eq_some, Option.some.injEq]
  constructor
  · rintro ⟨x, hx, hends, rfl⟩
    obtain ⟨hallows, s, y, hs, hy, hrelevant, rfl⟩ := ruleDraft?_eq_some_iff.mp hx
    exact ⟨hallows, s, y, hs, hy, hrelevant, (hbound hy).mp hends, rfl⟩
  · rintro ⟨hallows, s, y, hs, hy, hrelevant, hends, rfl⟩
    exact ⟨y.permit, ruleDraft?_eq_some_iff.mpr ⟨hallows, s, y, hs, hy, hrelevant, rfl⟩,
      (hbound hy).mpr hends, rfl⟩

/-- The entry of a rule is named for the rule and both ends, and permits its traffic. -/
theorem name_action_of_ruleEntry? (h : policy.ruleEntry? owner peer d rule = some e) :
    e.name = rule.entryName owner peer ∧ e.action = .permit := by
  obtain ⟨-, s, x, -, hx, -, -, rfl⟩ := ruleEntry?_eq_some_iff.mp h
  obtain ⟨hname, haction⟩ := Draft.name_action_addressed d owner peer x.permit
  exact ⟨hname.trans (Specialization.frame_of_constrain hx).1, haction⟩

end AppliedPolicy

end GroupPolicy

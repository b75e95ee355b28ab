import GroupPolicy.Proofs.Policy.Sample
import GroupPolicy.Proofs.Render.LeadingKind
import GroupPolicy.Proofs.Render.RuleEntry
import Mathlib.Data.List.Forall2

namespace GroupPolicy

/-- What becomes of a rule between two endpoints. -/
inductive RuleOutcome where
  /-- It comes out as an entry. -/
  | entry (e : AclEntry)
  /-- It makes no draft, which is reported before the addresses are looked at. -/
  | skipped (n : Notice)
  /-- Its draft finds no address, which is reported in the end. -/
  | dropped (n : Notice)
  /-- It has no say between the endpoints, and nothing is reported. -/
  | silent
  deriving DecidableEq

namespace RuleOutcome

def made? : RuleOutcome → Option AclEntry
  | .entry e => some e
  | _ => none

def skipped? : RuleOutcome → Option Notice
  | .skipped n => some n
  | _ => none

def dropped? : RuleOutcome → Option Notice
  | .dropped n => some n
  | _ => none

/-- What is reported about the rule. -/
def notice? (o : RuleOutcome) : Option Notice := o.skipped? <|> o.dropped?

/-- Outcomes are of one sort each. -/
theorem length_filterMap (outcomes : List RuleOutcome) :
    (outcomes.filterMap made?).length + (outcomes.filterMap skipped?).length +
      (outcomes.filterMap dropped?).length + outcomes.count .silent = outcomes.length := by
  induction outcomes with
  | nil => rfl
  | cons o outcomes ih => cases o <;> simp [List.filterMap_cons, made?, skipped?, dropped?] <;> omega

end RuleOutcome

/-- Whether a notice is a warning that tells which rule it is about. -/
def Notice.WarnsOf (n : Notice) (rule : Rule) : Prop :=
  n.severity = .warning ∧ ∃ rest, n.text = "Rule " ++ rule.name ++ rest

theorem unassignedNotice?_eq_some_iff {role : AddressRole} {d : AclDirection} {owner peer : Endpoint}
    {n : Notice} : unassignedNotice? role d owner peer = some n ↔
      ∃ address fault, (role.endpoint d owner peer).routedAddress = .ok address ∧
        Cidr.parse address = .error fault ∧
        n = .unassigned role (role.endpoint d owner peer).key fault := by
  have hfault (fault : FormatError) : (role.endpoint d owner peer).cidrFault? = some fault ↔
      ∃ address, (role.endpoint d owner peer).routedAddress = .ok address ∧
        Cidr.parse address = .error fault := by
    unfold Endpoint.cidrFault?
    cases (role.endpoint d owner peer).routedAddress with
    | error e => simp
    | ok address => cases hparse : Cidr.parse address <;> simp [hparse]
  unfold unassignedNotice?
  simp only [Option.map_eq_some_iff, hfault]
  constructor
  · rintro ⟨fault, ⟨address, haddress, hparse⟩, rfl⟩
    exact ⟨address, fault, haddress, hparse, rfl⟩
  · rintro ⟨address, fault, haddress, hparse, rfl⟩
    exact ⟨fault, ⟨address, haddress, hparse⟩, rfl⟩

theorem ofClassifiers?_eq_none_of_not_appliesIn {cs : List Classifier} {d : Direction}
    (h : ∀ c ∈ cs, c.appliesIn d = false) : Specialization.ofClassifiers? cs d = none := by
  refine ofClassifiers?_eq_none_iff.mpr (.inr ?_)
  rintro ⟨c, hc, happlies, -⟩
  rw [h c hc] at happlies
  cases happlies

namespace AppliedPolicy

variable {policy : AppliedPolicy} {owner peer : Endpoint} {d : AclDirection} {rule : Rule}
  {o : RuleOutcome}

/-- What becomes of a rule of a policy, by the first thing that stands against it. -/
inductive Becomes (policy : AppliedPolicy) (owner peer : Endpoint) (d : AclDirection) (rule : Rule) :
    RuleOutcome → Prop where
  /-- It says nothing about the direction. -/
  | otherDirection (hnone : ∀ c ∈ rule.classifiers, c.appliesIn (policy.direction d) = false) :
    Becomes policy owner peer d rule .silent
  /-- What it says about the direction amounts to nothing. -/
  | noClassifier {c : Classifier} (hc : c ∈ rule.classifiers)
      (happlies : c.appliesIn (policy.direction d) = true)
      (hunusable : Specialization.ofClassifiers? rule.classifiers (policy.direction d) = none) :
    Becomes policy owner peer d rule (.skipped (.noClassifier rule.name (policy.direction d)))
  /-- It does not let its traffic through. -/
  | noAllow {s : Specialization}
      (hs : Specialization.ofClassifiers? rule.classifiers (policy.direction d) = some s)
      (hallows : rule.allows = false) :
    Becomes policy owner peer d rule (.skipped (.noAllow rule.name))
  /-- Its parameters make no match. -/
  | unfit {s : Specialization} {cause : ClassifierError}
      (hs : Specialization.ofClassifiers? rule.classifiers (policy.direction d) = some s)
      (hallows : rule.allows = true)
      (hmatch : s.constrain { name := rule.entryName owner peer } = .error cause) :
    Becomes policy owner peer d rule (.skipped (.skippedRule rule.name cause))
  /-- It is for the other version than that of both ends. -/
  | otherFamily {s : Specialization} {x : Draft} {f : Family}
      (hs : Specialization.ofClassifiers? rule.classifiers (policy.direction d) = some s)
      (hallows : rule.allows = true)
      (hmatch : s.constrain { name := rule.entryName owner peer } = .ok x)
      (howner : owner.ownFamily? = some f) (hpeer : peer.ownFamily? = some f)
      (hother : x.etherType = some f.other) :
    Becomes policy owner peer d rule .silent
  /-- It would match any address. -/
  | unbound {s : Specialization} {x : Draft}
      (hs : Specialization.ofClassifiers? rule.classifiers (policy.direction d) = some s)
      (hallows : rule.allows = true)
      (hmatch : s.constrain { name := rule.entryName owner peer } = .ok x)
      (hrelevant : ∀ f, owner.ownFamily? = some f → peer.ownFamily? = some f →
        x.etherType ≠ some f.other)
      (hdhcp : x.isDhcp = false) (howner : owner.routedCidr? = none) (hpeer : peer.routedCidr? = none) :
    Becomes policy owner peer d rule (.dropped (.unboundEntry (rule.entryName owner peer)))
  /-- Nothing stands against it. -/
  | entry {s : Specialization} {x : Draft}
      (hs : Specialization.ofClassifiers? rule.classifiers (policy.direction d) = some s)
      (hallows : rule.allows = true)
      (hmatch : s.constrain { name := rule.entryName owner peer } = .ok x)
      (hrelevant : ∀ f, owner.ownFamily? = some f → peer.ownFamily? = some f →
        x.etherType ≠ some f.other)
      (hbound : x.isDhcp = true ∨ owner.routedCidr?.isSome = true ∨ peer.routedCidr?.isSome = true) :
    Becomes policy owner peer d rule (.entry (x.permit.addressed d owner peer).build)

/-- What is reported about a rule warns of that rule. -/
theorem Becomes.warnsOf {n : Notice} (h : policy.Becomes owner peer d rule o) (hn : o.notice? = some n) :
    n.WarnsOf rule := by
  cases h with
  | otherDirection => cases hn
  | noClassifier =>
    obtain rfl := Option.some.inj hn
    exact ⟨rfl, " has no usable classifier for direction " ++ (policy.direction d).text,
      String.append_assoc⟩
  | noAllow =>
    obtain rfl := Option.some.inj hn
    exact ⟨rfl, " has no allow action, skipping", rfl⟩
  | @unfit s cause =>
    obtain rfl := Option.some.inj hn
    exact ⟨rfl, " skipped: " ++ cause.message, String.append_assoc⟩
  | otherFamily => cases hn
  | unbound =>
    obtain rfl := Option.some.inj hn
    refine ⟨rfl, "_" ++ owner.key.address ++ "_" ++ peer.key.address ++
      " has no address match after mapping, dropping", ?_⟩
    change "Rule " ++ (rule.name ++ "_" ++ owner.key.address ++ "_" ++ peer.key.address) ++
      " has no address match after mapping, dropping" = _
    simp only [String.append_assoc]
  | entry => cases hn

/-- What becomes of one rule that goes through all stages by itself. -/
def outcome (policy : AppliedPolicy) (owner peer : Endpoint) (d : AclDirection) (rule : Rule) :
    RuleOutcome :=
  match rule.draft (policy.direction d) (rule.entryName owner peer) with
  | .error omission =>
    match omission.notice? rule (policy.direction d) with
    | some n => .skipped n
    | none => .silent
  | .ok x =>
    if x.isRelevant owner peer then
      if (x.addressed d owner peer).isBound then .entry (x.addressed d owner peer).build
      else .dropped (.unboundEntry (x.addressed d owner peer).name)
    else .silent

/-- What becomes of a rule whose parameters make a match. -/
theorem outcome_of_match {s : Specialization} {x : Draft}
    (hs : Specialization.ofClassifiers? rule.classifiers (policy.direction d) = some s)
    (hallows : rule.allows = true)
    (hmatch : s.constrain { name := rule.entryName owner peer } = .ok x) :
    policy.outcome owner peer d rule =
      if x.isRelevant owner peer = true then
        if x.isDhcp = true ∨ owner.routedCidr?.isSome = true ∨ peer.routedCidr?.isSome = true then
          .entry (x.permit.addressed d owner peer).build
        else .dropped (.unboundEntry (rule.entryName owner peer))
      else .silent := by
  have hdraft : rule.draft (policy.direction d) (rule.entryName owner peer) = .ok x.permit :=
    Rule.draft_eq_ok_iff.mpr ⟨hallows, s, x, hs, hmatch, rfl⟩
  obtain ⟨hx, hip, -⟩ := Specialization.frame_of_constrain hmatch
  have hname : (x.permit.addressed d owner peer).name = rule.entryName owner peer :=
    (Draft.name_action_addressed d owner peer x.permit).1.trans hx
  have hbound := Draft.isBound_addressed d owner peer (x := x.permit) hip
  unfold outcome
  simp only [hdraft, hname, hbound]
  rfl

theorem Becomes.outcome_eq (h : policy.Becomes owner peer d rule o) :
    policy.outcome owner peer d rule = o := by
  cases h with
  | otherDirection hnone =>
    have hany : (rule.classifiers.any fun c => c.appliesIn (policy.direction d)) = false := by
      simpa using hnone
    unfold outcome Rule.draft
    rw [ofClassifiers?_eq_none_of_not_appliesIn hnone, hany]
    rfl
  | noClassifier hc happlies hunusable =>
    have hany : (rule.classifiers.any fun c => c.appliesIn (policy.direction d)) = true :=
      List.any_eq_true.mpr ⟨_, hc, happlies⟩
    unfold outcome Rule.draft
    rw [hunusable, hany]
    rfl
  | noAllow hs hallows =>
    unfold outcome Rule.draft
    rw [hs, hallows]
    rfl
  | unfit hs hallows hmatch =>
    unfold outcome Rule.draft
    simp [hs, hallows, hmatch, Omission.notice?]
  | @otherFamily s x f hs hallows hmatch howner hpeer hother =>
    have hirrelevant : ¬x.isRelevant owner peer = true := fun hrelevant =>
      (Draft.isRelevant_iff owner peer x).mp hrelevant f howner hpeer hother
    rw [outcome_of_match hs hallows hmatch, if_neg hirrelevant]
  | unbound hs hallows hmatch hrelevant hdhcp howner hpeer =>
    rw [outcome_of_match hs hallows hmatch, if_pos ((Draft.isRelevant_iff owner peer _).mpr hrelevant),
      if_neg (by simp [hdhcp, howner, hpeer])]
  | entry hs hallows hmatch hrelevant hbound =>
    rw [outcome_of_match hs hallows hmatch, if_pos ((Draft.isRelevant_iff owner peer _).mpr hrelevant),
      if_pos hbound]

/-- Every rule comes to an end. -/
theorem exists_becomes (policy : AppliedPolicy) (owner peer : Endpoint) (d : AclDirection) (rule : Rule) :
    ∃ o, policy.Becomes owner peer d rule o := by
  cases hs : Specialization.ofClassifiers? rule.classifiers (policy.direction d) with
  | none =>
    by_cases happlies : ∃ c ∈ rule.classifiers, c.appliesIn (policy.direction d) = true
    · obtain ⟨c, hc, happlies⟩ := happlies
      exact ⟨_, .noClassifier hc happlies hs⟩
    · exact ⟨_, .otherDirection (by simpa using happlies)⟩
  | some s =>
    cases hallows : rule.allows with
    | false => exact ⟨_, .noAllow hs hallows⟩
    | true =>
      cases hmatch : s.constrain { name := rule.entryName owner peer } with
      | error cause => exact ⟨_, .unfit hs hallows hmatch⟩
      | ok x =>
        by_cases hother : ∃ f, owner.ownFamily? = some f ∧ peer.ownFamily? = some f ∧
            x.etherType = some f.other
        · obtain ⟨f, howner, hpeer, hother⟩ := hother
          exact ⟨_, .otherFamily hs hallows hmatch howner hpeer hother⟩
        · have hrelevant (f : Family) (howner : owner.ownFamily? = some f)
              (hpeer : peer.ownFamily? = some f) : x.etherType ≠ some f.other := fun heq =>
            hother ⟨f, howner, hpeer, heq⟩
          by_cases hbound : x.isDhcp = true ∨ owner.routedCidr?.isSome = true ∨
              peer.routedCidr?.isSome = true
          · exact ⟨_, .entry hs hallows hmatch hrelevant hbound⟩
          · simp only [not_or, Bool.not_eq_true, Option.isSome_eq_false_iff, Option.isNone_iff_eq_none] at hbound
            obtain ⟨hdhcp, howner, hpeer⟩ := hbound
            exact ⟨_, .unbound hs hallows hmatch hrelevant hdhcp howner hpeer⟩

theorem becomes_iff : policy.Becomes owner peer d rule o ↔ policy.outcome owner peer d rule = o := by
  refine ⟨Becomes.outcome_eq, ?_⟩
  rintro rfl
  obtain ⟨o, h⟩ := policy.exists_becomes owner peer d rule
  rw [h.outcome_eq]
  exact h

theorem made?_outcome (policy : AppliedPolicy) (owner peer : Endpoint) (d : AclDirection) (rule : Rule) :
    (policy.outcome owner peer d rule).made? = policy.ruleEntry? owner peer d rule := by
  unfold outcome ruleEntry?
  cases rule.draft (policy.direction d) (rule.entryName owner peer) with
  | error omission => cases omission <;> rfl
  | ok x =>
    cases hrelevant : x.isRelevant owner peer <;> cases hbound : (x.addressed d owner peer).isBound <;>
      simp [RuleOutcome.made?, Except.toOption, hrelevant, hbound]

theorem skipped?_outcome (policy : AppliedPolicy) (owner peer : Endpoint) (d : AclDirection) (rule : Rule) :
    (policy.outcome owner peer d rule).skipped? =
      rule.omissionNotice? (policy.direction d) (rule.entryName owner peer) := by
  unfold outcome Rule.omissionNotice?
  cases rule.draft (policy.direction d) (rule.entryName owner peer) with
  | error omission => cases omission <;> rfl
  | ok x =>
    dsimp only
    split
    · split <;> rfl
    · rfl

theorem dropped?_outcome (policy : AppliedPolicy) (owner peer : Endpoint) (d : AclDirection) (rule : Rule) :
    (policy.outcome owner peer d rule).dropped? =
      ((policy.ruleDraft? owner peer d rule).filter fun x => !(x.addressed d owner peer).isBound).map
        fun x => .unboundEntry (x.addressed d owner peer).name := by
  unfold outcome ruleDraft?
  cases rule.draft (policy.direction d) (rule.entryName owner peer) with
  | error omission => cases omission <;> rfl
  | ok x =>
    cases hrelevant : x.isRelevant owner peer <;> cases hbound : (x.addressed d owner peer).isBound <;>
      simp [RuleOutcome.dropped?, Except.toOption, Option.filter_some, hrelevant, hbound]

/-- The drafts that find no address are those of rules that are dropped. -/
theorem unbound_eq_filterMap (policy : AppliedPolicy) (owner peer : Endpoint) (d : AclDirection) :
    ((policy.addressed owner peer d).filter fun x => !x.isBound).map (fun x => Notice.unboundEntry x.name) =
      policy.group.rules.filterMap fun rule => (policy.outcome owner peer d rule).dropped? := by
  rw [addressed_eq_map, drafts_eq_filterMap, List.filter_map, List.map_map, List.filter_filterMap,
    List.map_filterMap]
  exact List.filterMap_congr fun rule _ => (policy.dropped?_outcome owner peer d rule).symm

/-- Every rule of a policy comes to exactly one end: an entry, one notice that warns of the rule, or
neither. The entries are those of the rules in their order. The notices are first those of rules that make
no draft, then at most one for either address that is no prefix, and then those of rules that find no
address. -/
theorem rules_accounted_for (policy : AppliedPolicy) (owner peer : Endpoint) (d : AclDirection) :
    (∀ rule, ∃! o, policy.Becomes owner peer d rule o) ∧
    (∀ rule o n, policy.Becomes owner peer d rule o → o.notice? = some n → n.WarnsOf rule) ∧
    (∀ role n, unassignedNotice? role d owner peer = some n ↔
      ∃ address fault, (role.endpoint d owner peer).routedAddress = .ok address ∧
        Cidr.parse address = .error fault ∧
        n = .unassigned role (role.endpoint d owner peer).key fault) ∧
    ∃ outcomes, List.Forall₂ (policy.Becomes owner peer d) policy.group.rules outcomes ∧
      (policy.rendered owner peer d).value = outcomes.filterMap RuleOutcome.made? ∧
      (policy.rendered owner peer d).notices = outcomes.filterMap RuleOutcome.skipped? ++
        (unassignedNotice? .source d owner peer).toList ++
        (unassignedNotice? .destination d owner peer).toList ++
        outcomes.filterMap RuleOutcome.dropped? ∧
      (policy.rendered owner peer d).value.length + (policy.rendered owner peer d).notices.length +
        outcomes.count .silent = policy.group.rules.length +
          (unassignedNotice? .source d owner peer).toList.length +
          (unassignedNotice? .destination d owner peer).toList.length := by
  have hunique (rule : Rule) : ∃! o, policy.Becomes owner peer d rule o :=
    ⟨policy.outcome owner peer d rule, becomes_iff.mpr rfl, fun o h => (becomes_iff.mp h).symm⟩
  have hbecomes : List.Forall₂ (policy.Becomes owner peer d) policy.group.rules
      (policy.group.rules.map (policy.outcome owner peer d)) := by
    rw [List.forall₂_map_right_iff, List.forall₂_same]
    exact fun rule _ => becomes_iff.mpr rfl
  have hvalue : (policy.rendered owner peer d).value =
      (policy.group.rules.map (policy.outcome owner peer d)).filterMap RuleOutcome.made? := by
    rw [rendered, entries_eq_filterMap, List.filterMap_map]
    exact List.filterMap_congr fun rule _ => (policy.made?_outcome owner peer d rule).symm
  have hnotices : (policy.rendered owner peer d).notices =
      (policy.group.rules.map (policy.outcome owner peer d)).filterMap RuleOutcome.skipped? ++
        (unassignedNotice? .source d owner peer).toList ++
        (unassignedNotice? .destination d owner peer).toList ++
        (policy.group.rules.map (policy.outcome owner peer d)).filterMap RuleOutcome.dropped? := by
    rw [rendered, notices, unbound_eq_filterMap, List.filterMap_map, List.filterMap_map]
    simp only [Function.comp_def, skipped?_outcome]
  refine ⟨hunique, fun rule o n => Becomes.warnsOf, fun role n => unassignedNotice?_eq_some_iff,
    _, hbecomes, hvalue, hnotices, ?_⟩
  have hcount := RuleOutcome.length_filterMap (policy.group.rules.map (policy.outcome owner peer d))
  rw [List.length_map] at hcount
  rw [hvalue, hnotices]
  simp only [List.length_append]
  omega

/-- Of four rules between two hosts one becomes an entry, two are reported in front of it, and the one for the
other version of addresses is left out silently. -/
theorem rules_accounted_for_mixed :
    let unknown : Rule :=
      { name := "dscp"
        classifiers := [{ Sample.portClassifier with definitionId := "Classifier-Dscp" }]
        actions := [.allow] }
    let closed : Rule := { Sample.rule "closed" 22 with actions := [] }
    let foreign : Rule :=
      Sample.ruleOfKind "foreign" .etherType [{ name := etherTypeParameter, intValue := some 0x86dd }]
    let policy := Sample.policy [unknown, closed, foreign, Sample.rule "http" 80]
    let owner := Sample.endpoint "10.0.0.1" "tap0"
    let peer := Sample.endpoint "10.0.0.2" "tap1"
    (policy.rendered owner peer .ingress).notices = [.noClassifier "dscp" .out, .noAllow "closed"] ∧
      (Notice.noAllow "closed").WarnsOf closed ∧
      ∃ outcomes, List.Forall₂ (policy.Becomes owner peer .ingress) policy.group.rules outcomes ∧
        outcomes.count .silent = 1 := by
  intro unknown closed foreign policy owner peer
  have hnotices : (policy.rendered owner peer .ingress).notices =
      [.noClassifier "dscp" .out, .noAllow "closed"] := by
    decide +kernel
  have hentries : (policy.rendered owner peer .ingress).value.length = 1 := by decide +kernel
  have hassigned (role : AddressRole) : unassignedNotice? role .ingress owner peer = none := by
    cases role <;> decide +kernel
  obtain ⟨-, hwarns, -, outcomes, hbecomes, -, -, hcount⟩ := policy.rules_accounted_for owner peer .ingress
  obtain ⟨s, hs⟩ : ∃ s, Specialization.ofClassifiers? closed.classifiers .out = some s := ⟨_, rfl⟩
  refine ⟨hnotices, hwarns closed _ _ (.noAllow hs rfl) rfl, outcomes, hbecomes, ?_⟩
  rw [hentries, hnotices, hassigned, hassigned] at hcount
  change 1 + 2 + outcomes.count .silent = 4 + 0 + 0 at hcount
  omega

end AppliedPolicy

end GroupPolicy

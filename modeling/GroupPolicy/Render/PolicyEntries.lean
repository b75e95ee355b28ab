import GroupPolicy.Render.Notice
import GroupPolicy.Render.Specialization

namespace GroupPolicy

/-- The direction of classifiers that speak about some traffic: contracts are written as their
provider sees them, so what enters at a provider is what goes out of the contract. -/
def Participation.classifierDirection : Participation → AclDirection → Direction
  | .provider, .ingress => .out
  | .consumer, .egress => .out
  | .provider, .egress => .in
  | .consumer, .ingress => .in

/-- Why a rule makes no entry. -/
inductive Omission where
  /-- None of its classifiers applies in the direction. -/
  | otherDirection
  /-- Its classifiers amount to nothing. -/
  | noClassifier
  /-- It does not let its traffic through. -/
  | noAllow
  /-- Its parameters make no match. -/
  | unfit (cause : ClassifierError)
  deriving DecidableEq, Repr

/-- The notice of an omission; a rule for the other direction is left out silently. -/
def Omission.notice? (rule : Rule) (d : Direction) : Omission → Option Notice
  | .otherDirection => none
  | .noClassifier => some (.noClassifier rule.name d)
  | .noAllow => some (.noAllow rule.name)
  | .unfit cause => some (.skippedRule rule.name cause)

namespace Rule

/-- The draft of a rule's entry, without addresses. -/
def draft (rule : Rule) (d : Direction) (name : String) : Except Omission Draft :=
  match Specialization.ofClassifiers? rule.classifiers d with
  | none =>
    if rule.classifiers.any fun c => c.appliesIn d then .error .noClassifier
    else .error .otherDirection
  | some s =>
    if rule.allows then
      match s.constrain { name := name } with
      | .ok draft => .ok draft.permit
      | .error cause => .error (.unfit cause)
    else .error .noAllow

/-- The notice of why a rule makes no entry. -/
def omissionNotice? (rule : Rule) (d : Direction) (name : String) : Option Notice :=
  match rule.draft d name with
  | .ok _ => none
  | .error omission => omission.notice? rule d

/-- The name of a rule's entry between two endpoints. -/
def entryName (rule : Rule) (owner peer : Endpoint) : String :=
  rule.name ++ "_" ++ owner.key.address ++ "_" ++ peer.key.address

end Rule

/-- The notice of an end whose address is no prefix. -/
def unassignedNotice? (role : AddressRole) (d : AclDirection) (owner peer : Endpoint) :
    Option Notice :=
  let e := role.endpoint d owner peer
  e.cidrFault?.map (.unassigned role e.key)

namespace AppliedPolicy

/-- The direction of classifiers that speak about the traffic of a policy's owner. -/
def direction (policy : AppliedPolicy) (d : AclDirection) : Direction :=
  policy.participation.classifierDirection d

/-- The drafts of a policy's rules that can apply between the endpoints, without addresses. -/
def drafts (policy : AppliedPolicy) (owner peer : Endpoint) (d : AclDirection) : List Draft :=
  (policy.group.rules.filterMap fun rule =>
    (rule.draft (policy.direction d) (rule.entryName owner peer)).toOption).filter
      (Draft.isRelevant owner peer)

/-- The drafts of a policy's rules with the addresses of both ends. -/
def addressed (policy : AppliedPolicy) (owner peer : Endpoint) (d : AclDirection) : List Draft :=
  assigned .destination d owner peer (assigned .source d owner peer (policy.drafts owner peer d))

/-- The entries of a policy, in the order of its rules. -/
def entries (policy : AppliedPolicy) (owner peer : Endpoint) (d : AclDirection) : List AclEntry :=
  ((policy.addressed owner peer d).filter Draft.isBound).map Draft.build

/-- What is reported about a policy: the rules without a draft, the ends without an address, and
the drafts that are left out for want of any. -/
def notices (policy : AppliedPolicy) (owner peer : Endpoint) (d : AclDirection) : List Notice :=
  (policy.group.rules.filterMap fun rule =>
    rule.omissionNotice? (policy.direction d) (rule.entryName owner peer)) ++
  (unassignedNotice? .source d owner peer).toList ++
  (unassignedNotice? .destination d owner peer).toList ++
  ((policy.addressed owner peer d).filter fun draft => !draft.isBound).map fun draft =>
    Notice.unboundEntry draft.name

/-- The entries of a policy and what is reported about it. -/
def rendered (policy : AppliedPolicy) (owner peer : Endpoint) (d : AclDirection) :
    Logged (List AclEntry) :=
  ⟨policy.entries owner peer d, policy.notices owner peer d⟩

end AppliedPolicy

end GroupPolicy

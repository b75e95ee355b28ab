import GroupPolicy.Net.Cidr
import GroupPolicy.Ordered.Registry
import GroupPolicy.Ordered.Set
import GroupPolicy.Policy.Table

namespace GroupPolicy

/-- A subnet that traffic is forwarded in. -/
structure ForwardingSubnet where
  tenantId : String
  networkDomainId : String := ""
  cidr : Cidr
  /-- Whether it belongs to the tenant; only then its traffic is denied by default. -/
  isTenant : Bool := false
  deriving DecidableEq, Repr

/-- A subnet of a tenant. -/
def ForwardingSubnet.tenant (tenantId : String) (cidr : Cidr) : ForwardingSubnet :=
  { tenantId, cidr, isTenant := true }

/-- The statement that a rule group applies to an endpoint towards a peer. -/
structure PolicyRow where
  /-- The endpoint the group applies to. -/
  owner : EndpointKey
  /-- The endpoint it talks to. -/
  peer : EndpointKey
  ruleGroup : RuleGroupKey
  /-- The owner's side of the contract. -/
  participation : Participation
  deriving DecidableEq, Repr, Inhabited

/-- What is known at a version of the policy. -/
structure Context where
  version : UInt64
  table : PolicyTable := ∅
  ruleGroups : Registry RuleGroup.key := ∅
  endpoints : Registry Endpoint.key := ∅
  /-- The subnets in the order in which they became known. -/
  subnets : List ForwardingSubnet := []
  /-- The endpoints that each rule group has been applied to. -/
  members : SortedMap RuleGroupKey (SortedSet EndpointKey) := ∅
  deriving DecidableEq, Inhabited

namespace Context

/-- The same context at another version. -/
def withVersion (c : Context) (version : UInt64) : Context := { c with version }

/-- The context with an endpoint, in place of any of the same key. -/
def addEndpoint (c : Context) (e : Endpoint) : Context :=
  { c with endpoints := c.endpoints.file e }

/-- The context with one more subnet. -/
def addSubnet (c : Context) (s : ForwardingSubnet) : Context :=
  { c with subnets := c.subnets ++ [s] }

/-- The context with a rule group, in place of any of the same key. Policies that hold an earlier
group of the key keep it. -/
def addRuleGroup (c : Context) (g : RuleGroup) : Context :=
  { c with ruleGroups := c.ruleGroups.file g }

/-- The context after the policy of a row is added, and whether it is: it takes no row of an unknown rule
group. -/
def addPolicy (c : Context) (row : PolicyRow) : Context × Bool :=
  match c.ruleGroups.get? row.ruleGroup with
  | none => (c, false)
  | some group =>
    let members := c.members.insert row.ruleGroup ((c.members.getD row.ruleGroup ∅).add row.owner)
    let table := c.table.insert row.owner row.peer ⟨row.participation, group⟩
    ({ c with members, table }, true)

/-- The context with the policy of a row; `none` if it does not take the row. -/
def addPolicy? (c : Context) (row : PolicyRow) : Option Context :=
  match c.addPolicy row with
  | (next, true) => some next
  | (_, false) => none

/-- The context after the policies of rows are added, and the rows that it does not take. -/
def addPolicies (c : Context) : List PolicyRow → Context × List PolicyRow
  | [] => (c, [])
  | row :: rest =>
    let (next, taken) := c.addPolicy row
    let (final, skipped) := next.addPolicies rest
    (final, if taken then skipped else row :: skipped)

/-- The endpoint of a key. -/
def endpoint? (c : Context) (k : EndpointKey) : Option Endpoint := c.endpoints.get? k

/-- The rule group of a key. -/
def ruleGroup? (c : Context) (k : RuleGroupKey) : Option RuleGroup := c.ruleGroups.get? k

/-- The endpoints to render entries for: those that have policies, by key. -/
def rendererEndpoints (c : Context) : List EndpointKey := c.table.owners

/-- The endpoints that a rule group has been applied to, by key. -/
def membersOf (c : Context) (g : RuleGroupKey) : List EndpointKey :=
  (c.members.getD g ∅).members

/-- The rule groups that apply to an endpoint. -/
def ruleGroupsOf (c : Context) (owner : EndpointKey) : SortedSet RuleGroupKey :=
  .ofMembers ((c.table.peers owner).flatMap fun cell => cell.2.map fun p => p.group.key)

end Context

/-- A resolved policy as it is handed over: everything that makes up a context. -/
structure Snapshot where
  version : UInt64 := 0
  endpoints : List Endpoint := []
  subnets : List ForwardingSubnet := []
  ruleGroups : List RuleGroup := []
  policies : List PolicyRow := []
  deriving DecidableEq, Inhabited

namespace Snapshot

/-- The context without its policies. -/
def ground (s : Snapshot) : Context :=
  let c := s.endpoints.foldl Context.addEndpoint { version := s.version }
  let c := s.subnets.foldl Context.addSubnet c
  s.ruleGroups.foldl Context.addRuleGroup c

/-- The context that a snapshot describes. -/
def context (s : Snapshot) : Context := (s.ground.addPolicies s.policies).1

/-- The rows that the context does not take; each of them is warned of. -/
def skipped (s : Snapshot) : List PolicyRow := (s.ground.addPolicies s.policies).2

end Snapshot

end GroupPolicy

import GroupPolicy.Policy.Context
import GroupPolicy.Render.ClassifierKind
import GroupPolicy.Render.Location

namespace GroupPolicy

namespace Sample

/-- The key of a routed address. -/
def key (address : String) : EndpointKey := ⟨address, .ipPrefix, "l3", .l3Context⟩

/-- A routed endpoint on an interface of the node. -/
def endpoint (address interface : String) : Endpoint where
  key := key address
  location := some ⟨some "node", some interface⟩

/-- The key of the rule group of a subject. -/
def groupKey (subject : String) : RuleGroupKey := ⟨"web", "tenant", subject⟩

/-- The rule that lets a port of TCP through. -/
def rule (subject : String) (port : Int64) : Rule where
  name := subject
  classifiers := [{
    name := subject
    definitionId := ClassifierKind.l4.id
    direction := .bidirectional
    parameters := [
      { name := protocolParameter, intValue := some 6 },
      { name := destinationParameters.single, intValue := some port }] }]
  actions := [.allow]

/-- A rule of one classifier that lets its traffic through both ways. -/
def ruleOfKind (name : String) (kind : ClassifierKind) (parameters : List Parameter) : Rule where
  name := name
  classifiers := [{ name := name, definitionId := kind.id, direction := .bidirectional, parameters }]
  actions := [.allow]

/-- The rule that lets a protocol through from one port to another. -/
def transportRule (name : String) (protocol source destination : Int64) : Rule :=
  ruleOfKind name .l4
    [{ name := protocolParameter, intValue := some protocol },
     { name := sourceParameters.single, intValue := some source },
     { name := destinationParameters.single, intValue := some destination }]

/-- The policy of a provider by some rules. -/
def policy (rules : List Rule) : AppliedPolicy :=
  ⟨.provider, { key := groupKey "any", order := 0, rules }⟩

/-- The rule group of a subject. -/
def group (subject : String) (port : Int64) : RuleGroup where
  key := groupKey subject
  order := 0
  rules := [rule subject port]

/-- The subnet that all addresses lie in. -/
def subnet : ForwardingSubnet := .tenant "tenant" ⟨.v4 ⟨10, 0, 0, 0⟩, 24, by decide⟩

/-- Two web servers that share an interface, and a client on another one; the policies are left
open, and so are the subnets. -/
def snapshot (subnets : List ForwardingSubnet) (policies : List PolicyRow) : Snapshot where
  version := 1
  endpoints := [endpoint "10.0.0.1" "tap0", endpoint "10.0.0.2" "tap0", endpoint "10.0.0.9" "tap1"]
  subnets := subnets
  ruleGroups := [group "http" 80, group "ssh" 22]
  policies := policies

/-- A row that applies the rule group of a subject between two addresses. -/
def row (owner peer subject : String) (participation : Participation) : PolicyRow :=
  ⟨key owner, key peer, groupKey subject, participation⟩

/-- The first web server. -/
def server : Endpoint := endpoint "10.0.0.1" "tap0"

/-- Where the first web server is attached. -/
def serverLocation : Location := ⟨"node", "tap0"⟩

/-- The policy in which the server lets the client in by one rule group. -/
def before : Context :=
  (snapshot [subnet] [row "10.0.0.1" "10.0.0.9" "http" .provider]).context

/-- The later policy in which the server lets the client in by another one, too. -/
def after : Context :=
  (before.addPolicies [row "10.0.0.1" "10.0.0.9" "ssh" .provider]).1.withVersion 2

/-- The rule groups that have changed between the two policies. -/
def changed : SortedSet RuleGroupKey := .ofMembers [groupKey "ssh"]

end Sample

end GroupPolicy

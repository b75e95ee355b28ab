import GroupPolicy.Document.Embedded
import GroupPolicy.Document.Json.Reader
import GroupPolicy.Net.Document
import GroupPolicy.Policy.Context

namespace GroupPolicy

/-- The names of kinds of context in documents. -/
def ContextType.table : List (String × ContextType) :=
  [("l3_context", .l3Context), ("l2_bridge_domain", .l2BridgeDomain),
    ("l2_flood_domain", .l2FloodDomain)]

instance : Coded ContextType where
  shape := .choice
  decode _ := choice ContextType.table
  encode
    | .l3Context => .text "l3_context"
    | .l2BridgeDomain => .text "l2_bridge_domain"
    | .l2FloodDomain => .text "l2_flood_domain"

/-- The names of kinds of address in documents. -/
def AddressType.table : List (String × AddressType) :=
  [("ip_prefix", .ipPrefix), ("mac_address", .macAddress)]

instance : Coded AddressType where
  shape := .choice
  decode _ := choice AddressType.table
  encode
    | .ipPrefix => .text "ip_prefix"
    | .macAddress => .text "mac_address"

namespace EndpointKey

/-- The fields of an endpoint key. -/
def fields :=
  (required String "address").and ((required AddressType "address_type").and
    ((required String "context_id").and (required ContextType "context_type")))

instance : Coded EndpointKey where
  shape := .record fields.shapes
  decode r v := do
    let (address, addressType, contextId, contextType) ← fields.read "struct AddressEndpointKey" r v
    return { address, addressType, contextId, contextType }
  encode k := .object (written "address" k.address ++ written "address_type" k.addressType ++
    written "context_id" k.contextId ++ written "context_type" k.contextType)

end EndpointKey

namespace AttachmentPaths

/-- The fields of a place of attachment. -/
def fields := (optional String "mount_point").and (optional String "node_connector")

instance : Coded AttachmentPaths where
  shape := .record fields.shapes
  decode r v := do
    let (mountPoint, nodeConnector) ← fields.read "struct AbsoluteLocation" r v
    return { mountPoint, nodeConnector }
  encode l := .object (writtenSome "mount_point" l.mountPoint ++
    writtenSome "node_connector" l.nodeConnector)

end AttachmentPaths

namespace Endpoint

/-- The fields of an endpoint. -/
def fields :=
  (required EndpointKey "key").and ((optional AttachmentPaths "location").and
    ((defaulted (List EndpointKey) "parent_endpoints" []).and
      (defaulted (List EndpointKey) "child_endpoints" [])))

instance : Coded Endpoint where
  shape := .record fields.shapes
  decode r v := do
    let (key, location, parents, children) ← fields.read "struct AddressEndpoint" r v
    return { key, location, parents, children }
  encode e := .object (written "key" e.key ++ writtenSome "location" e.location ++
    writtenNonempty "parent_endpoints" e.parents ++ writtenNonempty "child_endpoints" e.children)

end Endpoint

/-- The names of directions in documents. -/
def Direction.table : List (String × Direction) :=
  [("in", .in), ("out", .out), ("bidirectional", .bidirectional)]

instance : Coded Direction where
  shape := .choice
  decode _ := choice Direction.table
  encode d := .text d.text

/-- The names of the sides of a contract in documents. -/
def Participation.table : List (String × Participation) :=
  [("provider", .provider), ("consumer", .consumer)]

instance : Coded Participation where
  shape := .choice
  decode _ := choice Participation.table
  encode p := .text p.text

namespace NumberRange

/-- The fields of a range of numbers. -/
def fields := (required Int64 "min").and (required Int64 "max")

instance : Coded NumberRange where
  shape := .record fields.shapes
  decode r v := do
    let (min, max) ← fields.read "struct RangeValue" r v
    return { min, max }
  encode x := .object (written "min" x.min ++ written "max" x.max)

end NumberRange

namespace Parameter

/-- The fields of a parameter. -/
def fields :=
  (required String "name").and ((optional Int64 "int_value").and
    ((optional String "string_value").and (optional NumberRange "range_value")))

instance : Coded Parameter where
  shape := .record fields.shapes
  decode r v := do
    let (name, intValue, textValue, rangeValue) ← fields.read "struct ParameterValue" r v
    return { name, intValue, textValue, rangeValue }
  encode p := .object (written "name" p.name ++ writtenSome "int_value" p.intValue ++
    writtenSome "string_value" p.textValue ++ writtenSome "range_value" p.rangeValue)

end Parameter

namespace Classifier

/-- The fields of a classifier. -/
def fields :=
  (required String "name").and ((required String "definition_id").and
    ((required Direction "direction").and (defaulted (List Parameter) "parameters" [])))

instance : Coded Classifier where
  shape := .record fields.shapes
  decode r v := do
    let (name, definitionId, direction, parameters) ← fields.read "struct Classifier" r v
    return { name, definitionId, direction, parameters }
  encode c := .object (written "name" c.name ++ written "definition_id" c.definitionId ++
    written "direction" c.direction ++ written "parameters" c.parameters)

end Classifier

namespace Action

/-- The fields of an action. -/
def fields := (required String "name").and (required String "definition_id")

instance : Coded Action where
  shape := .record fields.shapes
  decode r v := do
    let (name, definitionId) ← fields.read "struct Action" r v
    return { name, definitionId }
  encode a := .object (written "name" a.name ++ written "definition_id" a.definitionId)

end Action

namespace Rule

/-- The fields of a rule. -/
def fields :=
  (required String "name").and ((defaulted (List Classifier) "classifiers" []).and
    (defaulted (List Action) "actions" []))

instance : Coded Rule where
  shape := .record fields.shapes
  decode r v := do
    let (name, classifiers, actions) ← fields.read "struct ResolvedRule" r v
    return { name, classifiers, actions }
  encode x := .object (written "name" x.name ++ written "classifiers" x.classifiers ++
    written "actions" x.actions)

end Rule

namespace RuleGroupKey

/-- The fields of a rule group's key. -/
def fields :=
  (required String "contract_id").and ((required String "tenant_id").and
    (required String "subject_name"))

/-- The entries of a rule group's key. -/
def entries (k : RuleGroupKey) : List (String × Value) :=
  written "contract_id" k.contractId ++ written "tenant_id" k.tenantId ++
    written "subject_name" k.subjectName

instance : Coded RuleGroupKey where
  shape := .record fields.shapes
  decode r v := do
    let (contractId, tenantId, subjectName) ← fields.read "struct RuleGroupKey" r v
    return { contractId, tenantId, subjectName }
  encode k := .object k.entries

end RuleGroupKey

namespace RuleGroup

/-- The fields of a rule group beside those of its key. -/
def fields := (defaulted UInt32 "order" 0).and (defaulted (List Rule) "rules" [])

/-- A rule group embeds its key. -/
instance : Coded RuleGroup where
  shape := .embedding fields.shapes
  decode r v := do
    let ((order, rules), contractId, tenantId, subjectName) ←
      fields.readShared RuleGroupKey.fields "struct RuleGroup" r v
    return { key := { contractId, tenantId, subjectName }, order, rules }
  encode g := .object (g.key.entries ++ written "order" g.order ++ written "rules" g.rules)

end RuleGroup

namespace ForwardingSubnet

/-- The fields of a subnet. -/
def fields :=
  (required String "tenant_id").and ((defaulted String "network_domain_id" "").and
    ((required Cidr "prefix").and (defaulted Bool "is_tenant" false)))

instance : Coded ForwardingSubnet where
  shape := .record fields.shapes
  decode r v := do
    let (tenantId, networkDomainId, cidr, isTenant) ← fields.read "struct ForwardingSubnet" r v
    return { tenantId, networkDomainId, cidr, isTenant }
  encode s := .object (written "tenant_id" s.tenantId ++
    written "network_domain_id" s.networkDomainId ++ written "prefix" s.cidr ++
    written "is_tenant" s.isTenant)

end ForwardingSubnet

namespace PolicyRow

/-- The fields of a row of the policy. -/
def fields :=
  (required EndpointKey "local").and ((required EndpointKey "peer").and
    ((required RuleGroupKey "rule_group").and (required Participation "participation")))

instance : Coded PolicyRow where
  shape := .record fields.shapes
  decode r v := do
    let (owner, peer, ruleGroup, participation) ← fields.read "struct PolicyEntry" r v
    return { owner, peer, ruleGroup, participation }
  encode x := .object (written "local" x.owner ++ written "peer" x.peer ++
    written "rule_group" x.ruleGroup ++ written "participation" x.participation)

end PolicyRow

namespace Snapshot

/-- The fields of a snapshot. -/
def fields :=
  (defaulted UInt64 "version" 0).and ((defaulted (List Endpoint) "endpoints" []).and
    ((defaulted (List ForwardingSubnet) "subnets" []).and
      ((defaulted (List RuleGroup) "rule_groups" []).and
        (defaulted (List PolicyRow) "policies" []))))

instance : Coded Snapshot where
  shape := .record fields.shapes
  decode r v := do
    let (version, endpoints, subnets, ruleGroups, policies) ←
      fields.read "struct PolicySnapshot" r v
    return { version, endpoints, subnets, ruleGroups, policies }
  encode s := .object (written "version" s.version ++ written "endpoints" s.endpoints ++
    written "subnets" s.subnets ++ written "rule_groups" s.ruleGroups ++
    written "policies" s.policies)

end Snapshot

end GroupPolicy

import GroupPolicy.Ordered.Map
import GroupPolicy.Policy.Rule
import GroupPolicy.Render.Draft

namespace GroupPolicy

/-- The parameters of a rule, each with its value. -/
abbrev Parameters : Type := SortedMap String ParamValue

/-- A kind of classifier, by the level of the chain it stands on: one of ports is one of a protocol,
and that is one of a version of addresses. -/
inductive ClassifierKind where
  /-- By the version of the addresses. -/
  | etherType
  /-- By the protocol. -/
  | ipProtocol
  /-- By the transport ports. -/
  | l4
  deriving DecidableEq, Repr

/-- What is wrong with the value of a parameter. -/
inductive ParameterFault where
  /-- No version of addresses has the value. -/
  | unknownEtherType (value : ParamValue)
  /-- The number is none of a protocol. -/
  | notProtocol (n : Int64)
  /-- The value is no number. -/
  | notInteger (value : ParamValue)
  /-- The value is no range. -/
  | notRange (value : ParamValue)
  /-- The number is none of a port. -/
  | notPort (n : Int64)
  /-- The range stands the wrong way round. -/
  | reversed (lower upper : UInt16)
  /-- A port is given as well. -/
  | combined (portParameter : String)
  /-- The protocol has no ports. -/
  | portless (protocol : Option UInt8)
  deriving DecidableEq, Repr

/-- A number that may be missing, in words. -/
def shownNumber : Option UInt8 → String
  | none => "None"
  | some n => "Some(" ++ toString n.toNat ++ ")"

/-- The wording of a fault. -/
def ParameterFault.message : ParameterFault → String
  | .unknownEtherType value => "unsupported ether-type " ++ value.shown
  | .notProtocol n => toString n.toInt ++ " is not 0-255"
  | .notInteger value => "expected an integer, got " ++ value.shown
  | .notRange value => "expected a range, got " ++ value.shown
  | .notPort n => toString n.toInt ++ " is not 1-65535"
  | .reversed lower upper =>
    "min (" ++ toString lower.toNat ++ ") > max (" ++ toString upper.toNat ++ ")"
  | .combined portParameter => "cannot be combined with " ++ portParameter
  | .portless protocol => "L4 ports require TCP or UDP, got " ++ shownNumber protocol

/-- Why parameters do not make a match. -/
inductive ClassifierError where
  /-- A parameter is missing that the kind of classifier needs. -/
  | missing (classifier parameter : String)
  /-- A parameter has a value of no use. -/
  | invalid (parameter : String) (fault : ParameterFault)
  deriving DecidableEq, Repr

namespace ClassifierError

/-- The wording for a missing parameter. -/
def missingText (classifier parameter : String) : String :=
  s!"Missing required parameter '{parameter}' for {classifier}"

/-- The wording for a value of no use. -/
def invalidText (parameter reason : String) : String :=
  s!"Invalid value for parameter '{parameter}': {reason}"

/-- The wording of an error. -/
def message : ClassifierError → String
  | .missing classifier parameter => missingText classifier parameter
  | .invalid parameter fault => invalidText parameter fault.message

end ClassifierError

/-- The parameter that holds the version of the addresses. -/
def etherTypeParameter : String := "ethertype"

/-- The parameter that holds the protocol. -/
def protocolParameter : String := "proto"

/-- One side of the ports: the parameters that hold a single port and a range. -/
structure PortParameters where
  single : String
  range : String
  deriving DecidableEq, Repr

/-- The parameters for the port that traffic comes from. -/
def sourceParameters : PortParameters := ⟨"sourceport", "sourceport_range"⟩

/-- The parameters for the port that traffic goes to. -/
def destinationParameters : PortParameters := ⟨"destport", "destport_range"⟩

/-- The number by which a version of addresses is known. -/
def etherTypeNumber : Family → Int64
  | .ipv4 => 0x0800
  | .ipv6 => 0x86DD

/-- The version of addresses that a value stands for. -/
def familyOfValue? : ParamValue → Option Family
  | .int n =>
    if n = etherTypeNumber .ipv4 then some .ipv4
    else if n = etherTypeNumber .ipv6 then some .ipv6
    else none
  | _ => none

/-- The protocol that a value stands for. -/
def protocolOfValue : ParamValue → Except ParameterFault UInt8
  | .int n => if 0 ≤ n ∧ n ≤ 255 then .ok n.toUInt64.toUInt8 else .error (.notProtocol n)
  | value => .error (.notInteger value)

/-- The port that a number stands for. -/
def portOfNumber (n : Int64) : Except ParameterFault UInt16 :=
  if 1 ≤ n ∧ n ≤ 65535 then .ok n.toUInt64.toUInt16 else .error (.notPort n)

/-- The bounds that a single port stands for. -/
def boundsOfPort : ParamValue → Except ParameterFault PortBounds
  | .int n => (portOfNumber n).map .exact
  | value => .error (.notInteger value)

/-- The bounds that a range stands for. -/
def boundsOfRange : ParamValue → Except ParameterFault PortBounds
  | .range r => do
    let lower ← portOfNumber r.min
    let upper ← portOfNumber r.max
    if upper < lower then .error (.reversed lower upper) else return .range lower upper
  | value => .error (.notRange value)

/-- The bounds that the parameters of one side stand for. -/
def PortParameters.bounds (names : PortParameters) (ps : Parameters) :
    Except ClassifierError PortBounds :=
  match ps.get? names.single, ps.get? names.range with
  | none, none => .ok {}
  | some _, some _ => .error (.invalid names.range (.combined names.single))
  | some value, none => (boundsOfPort value).mapError (.invalid names.single)
  | none, some value => (boundsOfRange value).mapError (.invalid names.range)

namespace ClassifierKind

/-- The kinds, from the general to the specific. -/
def all : List ClassifierKind := [.etherType, .ipProtocol, .l4]

/-- The name by which classifiers refer to their kind. -/
def id : ClassifierKind → String
  | .etherType => "Classifier-EtherType"
  | .ipProtocol => "Classifier-IP-Protocol"
  | .l4 => "Classifier-L4"

/-- The kind of a name. -/
def ofId? (s : String) : Option ClassifierKind := all.find? fun k => k.id == s

/-- The next more general kind. -/
def parent : ClassifierKind → Option ClassifierKind
  | .etherType => none
  | .ipProtocol => some .etherType
  | .l4 => some .ipProtocol

/-- The kinds from the root of the chain down to a kind. -/
def lineage : ClassifierKind → List ClassifierKind
  | .etherType => [.etherType]
  | .ipProtocol => [.etherType, .ipProtocol]
  | .l4 => [.etherType, .ipProtocol, .l4]

/-- Puts the version of the addresses into a draft; it is needed if `selected`. -/
def constrainEtherType (selected : Bool) (ps : Parameters) (d : Draft) :
    Except ClassifierError Draft :=
  match ps.get? etherTypeParameter with
  | none => if selected then .error (.missing etherType.id etherTypeParameter) else .ok d
  | some value =>
    match familyOfValue? value with
    | some family => .ok { d with etherType := some family }
    | none => .error (.invalid etherTypeParameter (.unknownEtherType value))

/-- Puts the protocol into a draft; it is needed if `selected`. -/
def constrainProtocol (selected : Bool) (ps : Parameters) (d : Draft) :
    Except ClassifierError Draft :=
  match ps.get? protocolParameter with
  | none => if selected then .error (.missing ipProtocol.id protocolParameter) else .ok d
  | some value =>
    match protocolOfValue value with
    | .ok number => .ok { d with protocol := some number }
    | .error fault => .error (.invalid protocolParameter fault)

/-- Puts the ports into a draft, if there are any; only TCP and UDP have ports. -/
def constrainPorts (ps : Parameters) (d : Draft) : Except ClassifierError Draft := do
  let source ← sourceParameters.bounds ps
  let destination ← destinationParameters.bounds ps
  if source.isEmpty && destination.isEmpty then return d
  else if d.protocol = some tcpProtocol ∨ d.protocol = some udpProtocol then
    return { d with sourcePorts := source, destinationPorts := destination }
  else .error (.invalid protocolParameter (.portless d.protocol))

/-- Puts the parameters of one level of the chain into a draft; `selected` says that the classifier
stands on this very level. -/
def constrainLevel (selected : Bool) (ps : Parameters) (d : Draft) :
    ClassifierKind → Except ClassifierError Draft
  | .etherType => constrainEtherType selected ps d
  | .ipProtocol => constrainProtocol selected ps d
  | .l4 => constrainPorts ps d

/-- Puts parameters into a draft, from the root of the chain down to a kind. -/
def constrain (k : ClassifierKind) (ps : Parameters) (d : Draft) : Except ClassifierError Draft :=
  k.lineage.foldlM (fun d level => level.constrainLevel (level == k) ps d) d

end ClassifierKind

end GroupPolicy

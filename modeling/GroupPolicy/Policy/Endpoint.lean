import GroupPolicy.Ordered.Order
import GroupPolicy.Text.Name

namespace GroupPolicy

/-- The kind of context an address belongs to. -/
inductive ContextType where
  | l3Context
  | l2BridgeDomain
  | l2FloodDomain
  deriving DecidableEq, Repr, Inhabited

namespace ContextType

instance : Ranked ContextType where
  rank
    | .l3Context => 0
    | .l2BridgeDomain => 1
    | .l2FloodDomain => 2
  rank_inj {a b} h := by cases a <;> cases b <;> simp_all

/-- Whether addresses in the context are routed. -/
def isL3 : ContextType → Bool
  | .l3Context => true
  | _ => false

/-- The name of a kind of context. -/
def text : ContextType → String
  | .l3Context => "l3-context"
  | .l2BridgeDomain => "l2-bridge-domain"
  | .l2FloodDomain => "l2-flood-domain"

/-- The kind of context a text names; letter case is ignored, and underscores count as dashes. -/
def ofText (s : String) : Except UnknownName ContextType :=
  match s.toLower.map fun c => if c = '_' then '-' else c with
  | "l3-context" => .ok .l3Context
  | "l2-bridge-domain" => .ok .l2BridgeDomain
  | "l2-flood-domain" => .ok .l2FloodDomain
  | _ => .error ⟨"context type", s⟩

end ContextType

/-- The kind of an address. -/
inductive AddressType where
  | ipPrefix
  | macAddress
  deriving DecidableEq, Repr, Inhabited

namespace AddressType

instance : Ranked AddressType where
  rank
    | .ipPrefix => 0
    | .macAddress => 1
  rank_inj {a b} h := by cases a <;> cases b <;> simp_all

/-- The name of a kind of address. -/
def text : AddressType → String
  | .ipPrefix => "ip-prefix"
  | .macAddress => "mac-address"

end AddressType

/-- What an endpoint is known by. -/
structure EndpointKey where
  /-- The address, as it was given. -/
  address : String
  /-- What kind of address it is. -/
  addressType : AddressType
  /-- The context in which the address is unique. -/
  contextId : String
  /-- What kind of context that is. -/
  contextType : ContextType
  deriving DecidableEq, Repr, Inhabited

namespace EndpointKey

/-- Keys are ordered by their fields in turn. -/
instance : Ord EndpointKey :=
  ⟨compareLex (compareOn address) (compareLex (compareOn addressType)
    (compareLex (compareOn contextId) (compareOn contextType)))⟩

instance : Std.TransOrd EndpointKey :=
  inferInstanceAs (Std.TransCmp (compareLex (compareOn address) (compareLex (compareOn addressType)
    (compareLex (compareOn contextId) (compareOn contextType)))))

instance : Std.LawfulEqOrd EndpointKey where
  compare_self := Std.ReflOrd.compare_self
  eq_of_compare {a b} h := by
    simp only [compare, compareLex_eq_eq] at h
    obtain ⟨haddress, htype, hid, hctx⟩ := h
    cases a
    cases b
    simp only [mk.injEq]
    exact ⟨Std.LawfulEqOrd.eq_of_compare haddress, Std.LawfulEqOrd.eq_of_compare htype,
      Std.LawfulEqOrd.eq_of_compare hid, Std.LawfulEqOrd.eq_of_compare hctx⟩

/-- The key of a routed address. -/
def l3 (address contextId : String) : EndpointKey :=
  ⟨address, .ipPrefix, contextId, .l3Context⟩

/-- The key of a hardware address in a bridge domain. -/
def l2 (address bridgeDomain : String) : EndpointKey :=
  ⟨address, .macAddress, bridgeDomain, .l2BridgeDomain⟩

/-- The text of a key: the address and, after an at sign, the context. -/
def text (k : EndpointKey) : String :=
  k.address ++ "@" ++ k.contextType.text ++ ":" ++ k.contextId

end EndpointKey

/-- Where an endpoint is attached, by the paths of a device and of an interface on it. -/
structure AttachmentPaths where
  /-- The device. -/
  mountPoint : Option String
  /-- The interface. -/
  nodeConnector : Option String
  deriving DecidableEq, Repr, Inhabited

/-- Places are ordered by device and then by interface; a missing path comes first. -/
instance : Ord AttachmentPaths :=
  ⟨compareLex (compareOn AttachmentPaths.mountPoint) (compareOn AttachmentPaths.nodeConnector)⟩

/-- An address that policy speaks about, within a context, and where it is attached. -/
structure Endpoint where
  /-- What the endpoint is known by. -/
  key : EndpointKey
  /-- Where it is attached, if that is known. -/
  location : Option AttachmentPaths := none
  /-- The endpoints above it: for a hardware address, the routed addresses it carries. -/
  parents : List EndpointKey := []
  /-- The endpoints below it. -/
  children : List EndpointKey := []
  deriving DecidableEq, Repr, Inhabited

end GroupPolicy

import GroupPolicy.Document.File
import GroupPolicy.Document.Record
import GroupPolicy.Document.Yaml.Reader
import GroupPolicy.Render.Entries
import GroupPolicy.Render.RenderError

namespace GroupPolicy

/-- An interface that is left alone. -/
structure ExcludedInterface where
  node : String
  interface : String
  deriving DecidableEq, Repr, Inhabited

/-- The settings of a renderer. -/
structure Settings where
  acl : AclSettings := {}
  excluded : List ExcludedInterface := []
  deriving DecidableEq, Repr, Inhabited

namespace Settings

/-- Whether an interface is left alone. -/
def excludes (s : Settings) (l : Location) : Bool :=
  s.excluded.any fun e => e.node == l.node && e.interface == l.interface

/-- Whether a text consists of blanks. -/
def isBlank (s : String) : Bool := s.toList.all Text.isBlank

/-- The complaint about an empty part of an excluded interface. -/
def emptyPart (i : Nat) (part : String) : RenderError :=
  .invalidSetting ("excluded_interfaces[" ++ toString i ++ "]." ++ part) "must not be empty"

/-- The first empty part among excluded interfaces, which are counted from `i` on. -/
def emptyPart? (i : Nat) : List ExcludedInterface → Option RenderError
  | [] => none
  | e :: r =>
    if isBlank e.node then some (emptyPart i "node")
    else if isBlank e.interface then some (emptyPart i "interface")
    else emptyPart? (i + 1) r

/-- What is wrong with settings: an excluded interface must be named. -/
def fault? (s : Settings) : Option RenderError := emptyPart? 0 s.excluded

end Settings

namespace AclSettings

/-- The fields of the settings for lists. -/
def fields := (defaulted Bool "deny_tenant_subnets" true).and (defaulted Bool "allow_external" true)

instance : Coded AclSettings where
  shape := .record fields.shapes
  decode r v := do
    let (denyTenantSubnets, allowExternal) ← fields.read "struct AclPolicyConfig" r v
    return { denyTenantSubnets, allowExternal }
  encode s := .object (written "deny_tenant_subnets" s.denyTenantSubnets ++
    written "allow_external" s.allowExternal)

end AclSettings

namespace ExcludedInterface

/-- The fields of an excluded interface. -/
def fields := (required String "node").and (required String "interface")

instance : Coded ExcludedInterface where
  shape := .record fields.shapes
  decode r v := do
    let (node, interface) ← fields.read "struct ExcludedInterface" r v
    return { node, interface }
  encode e := .object (written "node" e.node ++ written "interface" e.interface)

end ExcludedInterface

namespace Settings

/-- The fields of settings. -/
def fields :=
  (defaulted AclSettings "acl" {}).and
    (defaulted (List ExcludedInterface) "excluded_interfaces" [])

instance : Coded Settings where
  shape := .record fields.shapes
  decode r v := do
    let (acl, excluded) ← fields.read "struct RendererConfig" r v
    return { acl, excluded }
  encode s := .object (written "acl" s.acl ++ written "excluded_interfaces" s.excluded)

/-- The settings that a text describes; `path` is where it comes from. -/
def parse (path s : String) : Except RenderError Settings :=
  (Yaml.decode s).mapError fun (cause : DecodeError) => .unreadSettings path cause.message

/-- The settings in a file; without the file, every setting has its own value. -/
def load (files : Files) (path : String) : Except RenderError Settings :=
  match files path with
  | .ok s => parse path s
  | .error .missing => .ok {}
  | .error cause => .error (.unreadSettings path cause.message)

end Settings

namespace Location

/-- The fields of a location. -/
def fields := (required String "node").and (required String "interface")

instance : Coded Location where
  shape := .record fields.shapes
  decode r v := do
    let (node, interface) ← fields.read "struct Location" r v
    return { node, interface }
  encode l := .object (written "node" l.node ++ written "interface" l.interface)

end Location

end GroupPolicy

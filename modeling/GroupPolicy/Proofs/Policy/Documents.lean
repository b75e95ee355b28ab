import GroupPolicy.Policy.Source
import GroupPolicy.Proofs.Net.AddressText

namespace GroupPolicy

open Fields

instance : Lossless ContextType 0 where
  decode_encode _ t := by cases t <;> rfl
  fits_encode t := by cases t <;> trivial
  encode_ne_null t := by cases t <;> exact nofun

instance : Lossless AddressType 0 where
  decode_encode _ t := by cases t <;> rfl
  fits_encode t := by cases t <;> trivial
  encode_ne_null t := by cases t <;> exact nofun

instance : Lossless Direction 0 where
  decode_encode _ d := by cases d <;> rfl
  fits_encode _ := trivial
  encode_ne_null _ := nofun

instance : Lossless Participation 0 where
  decode_encode _ p := by cases p <;> rfl
  fits_encode _ := trivial
  encode_ne_null _ := nofun

theorem EndpointKey.describes_encode (k : EndpointKey) :
    EndpointKey.fields.Describes 0 (Coded.encode k)
      (k.address, k.addressType, k.contextId, k.contextType) := by
  apply Takes.describes (by decide)
  · simp only [List.append_assoc]
    exact (takes_written _).and ((takes_written _).and ((takes_written _).and (takes_written _)))
  · decide

instance : Lossless EndpointKey 1 := Describes.lossless EndpointKey.describes_encode fun r k => by
  simp only [Coded.decode, k.describes_encode.read]
  rfl

theorem AttachmentPaths.describes_encode (l : AttachmentPaths) :
    AttachmentPaths.fields.Describes 0 (Coded.encode l) (l.mountPoint, l.nodeConnector) :=
  ((takes_writtenSome _).and (takes_writtenSome _)).describes (by decide) (by decide)

instance : Lossless AttachmentPaths 1 := Describes.lossless AttachmentPaths.describes_encode fun r l => by
  simp only [Coded.decode, l.describes_encode.read]
  rfl

theorem Endpoint.describes_encode (e : Endpoint) :
    Endpoint.fields.Describes 2 (Coded.encode e) (e.key, e.location, e.parents, e.children) := by
  apply Takes.describes (by decide)
  · simp only [List.append_assoc]
    exact (takes_written _).and ((takes_writtenSome _).and
      ((takes_writtenNonempty _).and (takes_writtenNonempty _)))
  · decide

instance : Lossless Endpoint 3 := Describes.lossless Endpoint.describes_encode fun r e => by
  simp only [Coded.decode, e.describes_encode.read]
  rfl

theorem NumberRange.describes_encode (x : NumberRange) :
    NumberRange.fields.Describes 0 (Coded.encode x) (x.min, x.max) :=
  ((takes_written _).and (takes_written _)).describes (by decide) (by decide)

instance : Lossless NumberRange 1 := Describes.lossless NumberRange.describes_encode fun r x => by
  simp only [Coded.decode, x.describes_encode.read]
  rfl

theorem Parameter.describes_encode (p : Parameter) :
    Parameter.fields.Describes 1 (Coded.encode p)
      (p.name, p.intValue, p.textValue, p.rangeValue) := by
  apply Takes.describes (by decide)
  · simp only [List.append_assoc]
    exact (takes_written _).and ((takes_writtenSome _).and
      ((takes_writtenSome _).and (takes_writtenSome _)))
  · decide

instance : Lossless Parameter 2 := Describes.lossless Parameter.describes_encode fun r p => by
  simp only [Coded.decode, p.describes_encode.read]
  rfl

theorem Classifier.describes_encode (c : Classifier) :
    Classifier.fields.Describes 3 (Coded.encode c)
      (c.name, c.definitionId, c.direction, c.parameters) := by
  apply Takes.describes (by decide)
  · simp only [List.append_assoc]
    exact (takes_written _).and ((takes_written _).and ((takes_written _).and (takes_written _)))
  · decide

instance : Lossless Classifier 4 := Describes.lossless Classifier.describes_encode fun r c => by
  simp only [Coded.decode, c.describes_encode.read]
  rfl

theorem Action.describes_encode (a : Action) :
    Action.fields.Describes 0 (Coded.encode a) (a.name, a.definitionId) :=
  ((takes_written _).and (takes_written _)).describes (by decide) (by decide)

instance : Lossless Action 1 := Describes.lossless Action.describes_encode fun r a => by
  simp only [Coded.decode, a.describes_encode.read]
  rfl

theorem Rule.describes_encode (x : Rule) :
    Rule.fields.Describes 5 (Coded.encode x) (x.name, x.classifiers, x.actions) := by
  apply Takes.describes (by decide)
  · simp only [List.append_assoc]
    exact (takes_written _).and ((takes_written _).and (takes_written _))
  · decide

instance : Lossless Rule 6 := Describes.lossless Rule.describes_encode fun r x => by
  simp only [Coded.decode, x.describes_encode.read]
  rfl

theorem RuleGroupKey.takes_entries (k : RuleGroupKey) :
    RuleGroupKey.fields.Takes 0 k.entries (k.contractId, k.tenantId, k.subjectName) := by
  simp only [RuleGroupKey.entries, List.append_assoc]
  exact ((takes_written _).and ((takes_written _).and (takes_written _))).mono (by decide)

theorem RuleGroupKey.describes_encode (k : RuleGroupKey) :
    RuleGroupKey.fields.Describes 0 (Coded.encode k) (k.contractId, k.tenantId, k.subjectName) :=
  k.takes_entries.describes (by decide) (by decide)

instance : Lossless RuleGroupKey 1 := Describes.lossless RuleGroupKey.describes_encode fun r k => by
  simp only [Coded.decode, k.describes_encode.read]
  rfl

theorem RuleGroup.encode_eq (g : RuleGroup) :
    Coded.encode g = .object (g.key.entries ++ (written "order" g.order ++ written "rules" g.rules)) := by
  simp only [Coded.encode, List.append_assoc]

theorem RuleGroup.takes_own (g : RuleGroup) :
    RuleGroup.fields.Takes 7 (written "order" g.order ++ written "rules" g.rules)
      (g.order, g.rules) :=
  ((takes_written _).and (takes_written _)).mono (by decide)

instance : IsNamed RuleGroup.fields := isNamed_and _ _

instance : IsNamed RuleGroupKey.fields := isNamed_and _ _

instance : Lossless RuleGroup 8 where
  decode_encode r g := by
    rw [g.encode_eq]
    simp only [Coded.decode, g.key.takes_entries.readShared g.takes_own (by decide)]
    rfl
  fits_encode g := by
    have hkey := g.key.takes_entries.mono (Nat.zero_le 7)
    rw [g.encode_eq]
    exact Value.fits_object (List.forall_mem_append.mpr ⟨hkey.fits, g.takes_own.fits⟩)
  encode_ne_null _ := nofun

theorem ForwardingSubnet.describes_encode (s : ForwardingSubnet) :
    ForwardingSubnet.fields.Describes 0 (Coded.encode s)
      (s.tenantId, s.networkDomainId, s.cidr, s.isTenant) := by
  apply Takes.describes (by decide)
  · simp only [List.append_assoc]
    exact (takes_written _).and ((takes_written _).and ((takes_written _).and (takes_written _)))
  · decide

instance : Lossless ForwardingSubnet 1 :=
  Describes.lossless ForwardingSubnet.describes_encode fun r s => by
    simp only [Coded.decode, s.describes_encode.read]
    rfl

theorem PolicyRow.describes_encode (x : PolicyRow) :
    PolicyRow.fields.Describes 1 (Coded.encode x)
      (x.owner, x.peer, x.ruleGroup, x.participation) := by
  apply Takes.describes (by decide)
  · simp only [List.append_assoc]
    exact (takes_written _).and ((takes_written _).and ((takes_written _).and (takes_written _)))
  · decide

instance : Lossless PolicyRow 2 := Describes.lossless PolicyRow.describes_encode fun r x => by
  simp only [Coded.decode, x.describes_encode.read]
  rfl

theorem Snapshot.describes_encode (s : Snapshot) :
    Snapshot.fields.Describes 9 (Coded.encode s)
      (s.version, s.endpoints, s.subnets, s.ruleGroups, s.policies) := by
  apply Takes.describes (by decide)
  · simp only [List.append_assoc]
    exact (takes_written _).and ((takes_written _).and ((takes_written _).and
      ((takes_written _).and (takes_written _))))
  · decide

instance : Lossless Snapshot 10 := Describes.lossless Snapshot.describes_encode fun r s => by
  simp only [Coded.decode, s.describes_encode.read]
  rfl

namespace Snapshot

/-- The text of a snapshot's document, on one line. -/
def json (s : Snapshot) : String := Json.compact (Coded.encode s)

theorem parse_json (s : Snapshot) : parse .json s.json = .ok s := by
  show (Json.decode (Json.compact (Coded.encode s))).mapError (SnapshotError.unparsed .json) = .ok s
  rw [Lossless.decode_compact_encode (by decide)]
  rfl

/-- A snapshot is read back from its text, and every text that is read is read as its snapshot's text:
reading, writing and reading again gives the same snapshot, and the same text when it is written. -/
theorem parse_reread (s : Snapshot) (text : String) :
    parse .json s.json = .ok s ∧
      (do parse .json (← parse .json text).json) = parse .json text ∧
      (do return (← parse .json (← parse .json text).json).json) =
        (do return (← parse .json text).json) := by
  refine ⟨s.parse_json, ?_⟩
  dsimp only [bind, Except.bind, pure, Except.pure]
  cases parse .json text with
  | error e => exact ⟨rfl, rfl⟩
  | ok t => simp only [parse_json, and_self]

end Snapshot

end GroupPolicy

import GroupPolicy.Acl.Document
import GroupPolicy.Proofs.Net.AddressText

namespace GroupPolicy

open Fields

instance : Lossless AclDirection 0 where
  decode_encode _ d := by cases d <;> rfl
  fits_encode d := by cases d <;> trivial
  encode_ne_null d := by cases d <;> exact nofun

instance : Lossless Verdict 0 where
  decode_encode _ v := by cases v <;> rfl
  fits_encode _ := trivial
  encode_ne_null _ := nofun

theorem PortRange.describes_encode (p : PortRange) :
    PortRange.fields.Describes 0 (Coded.encode p) (p.lower, p.upper) :=
  ((takes_written _).and (takes_written _)).describes (by decide) (by decide)

instance : Lossless PortRange 1 := Describes.lossless PortRange.describes_encode fun r p => by
  simp only [Coded.decode, p.describes_encode.read]
  rfl

theorem IcmpRange.describes_encode (x : IcmpRange) :
    IcmpRange.fields.Describes 0 (Coded.encode x) (x.first, x.last) :=
  ((takes_written _).and (takes_written _)).describes (by decide) (by decide)

instance : Lossless IcmpRange 1 := Describes.lossless IcmpRange.describes_encode fun r x => by
  simp only [Coded.decode, x.describes_encode.read]
  rfl

namespace IpMatch

/-- The entries of a match on addresses beside its family. -/
def prefixes (m : IpMatch) : List (String × Value) :=
  writtenSome "source" m.source ++ writtenSome "destination" m.destination

theorem takes_prefixes (m : IpMatch) :
    IpMatch.fields.Takes 0 m.prefixes (m.source, m.destination) :=
  ((takes_writtenSome _).and (takes_writtenSome _)).mono (by decide)

theorem encode_eq (m : IpMatch) :
    Coded.encode m = .object (("version", .text m.family.text) :: m.prefixes) := by
  simp only [Coded.encode, List.append_assoc]
  rfl

instance : IsNamed IpMatch.fields := isNamed_and _ _

theorem tagged_encode (m : IpMatch) :
    tagged "AceIpMatch" "version" Family.table (Coded.encode m) =
      .ok (m.family, .object m.prefixes) := by
  have hfamily : chosen Family.table m.family.text = .ok m.family := by cases m.family <;> rfl
  rw [m.encode_eq]
  exact m.takes_prefixes.tagged (by decide) _ hfamily

instance : Lossless IpMatch 1 where
  decode_encode _ m := by
    have hprefixes := m.takes_prefixes.describes (by decide) (Nat.le_refl 0)
    show (do
      let (family, rest) ← tagged "AceIpMatch" "version" Family.table (Coded.encode m)
      let (source, destination) ← fields.read (title family) .buffered rest
      return (⟨family, source, destination⟩ : IpMatch)) = .ok m
    rw [m.tagged_encode]
    show (do
      let (source, destination) ← fields.read (title m.family) .buffered (.object m.prefixes)
      return (⟨m.family, source, destination⟩ : IpMatch)) = .ok m
    rw [hprefixes.read]
    rfl
  fits_encode m := by
    rw [m.encode_eq]
    exact m.takes_prefixes.fits_tagged
  encode_ne_null _ := nofun

end IpMatch

namespace ProtocolMatch

/-- The entries of a match on ports. -/
def ports (source destination : Option PortRange) : List (String × Value) :=
  writtenSome "source_ports" source ++ writtenSome "destination_ports" destination

theorem takes_ports (source destination : Option PortRange) :
    portFields.Takes 1 (ports source destination) (source, destination) :=
  ((takes_writtenSome _).and (takes_writtenSome _)).mono (by decide)

theorem takes_icmp (types codes : IcmpRange) :
    icmpFields.Takes 1 (written "types" types ++ written "codes" codes) (types, codes) :=
  ((takes_written _).and (takes_written _)).mono (by decide)

theorem takes_number (number : UInt8) :
    (required UInt8 "number").Takes 1 (written "number" number) number :=
  (takes_written _).mono (by decide)

instance : IsNamed portFields := isNamed_and _ _

instance : IsNamed icmpFields := isNamed_and _ _

/-- The alternative of a match, and what is written for it beside its name. -/
def parts : ProtocolMatch → Kind × List (String × Value)
  | .other number => (.other, written "number" number)
  | .icmp types codes => (.icmp, written "types" types ++ written "codes" codes)
  | .tcp source destination => (.tcp, ports source destination)
  | .udp source destination => (.udp, ports source destination)

theorem tagged_encode (m : ProtocolMatch) :
    tagged "ProtocolMatch" "protocol" table (Coded.encode m) = .ok (m.parts.1, .object m.parts.2) := by
  cases m with
  | other number => exact (takes_number number).tagged (by decide) _ rfl
  | icmp types codes => exact (takes_icmp types codes).tagged (by decide) _ rfl
  | tcp source destination => exact (takes_ports source destination).tagged (by decide) _ rfl
  | udp source destination => exact (takes_ports source destination).tagged (by decide) _ rfl

theorem ofFields_parts (m : ProtocolMatch) : ofFields (.object m.parts.2) m.parts.1 = .ok m := by
  cases m with
  | other number =>
    have h := (takes_number number).describes (by decide) (Nat.le_refl 1)
    simp only [parts, ofFields, h.read]
    rfl
  | icmp types codes =>
    have h := (takes_icmp types codes).describes (by decide) (Nat.le_refl 1)
    simp only [parts, ofFields, h.read]
    rfl
  | tcp source destination =>
    have h := (takes_ports source destination).describes (by decide) (Nat.le_refl 1)
    simp only [parts, ofFields, h.read]
    rfl
  | udp source destination =>
    have h := (takes_ports source destination).describes (by decide) (Nat.le_refl 1)
    simp only [parts, ofFields, h.read]
    rfl

instance : Lossless ProtocolMatch 2 where
  decode_encode _ m := by
    show (do
      let (kind, rest) ← tagged "ProtocolMatch" "protocol" table (Coded.encode m)
      ofFields rest kind) = .ok m
    rw [m.tagged_encode]
    exact m.ofFields_parts
  fits_encode m := by
    cases m with
    | other number => exact (takes_number number).fits_tagged
    | icmp types codes => exact (takes_icmp types codes).fits_tagged
    | tcp source destination => exact (takes_ports source destination).fits_tagged
    | udp source destination => exact (takes_ports source destination).fits_tagged
  encode_ne_null m := by cases m <;> exact nofun

end ProtocolMatch

theorem Traffic.describes_encode (x : Traffic) :
    Traffic.fields.Describes 2 (Coded.encode x) (x.ip, x.protocol) :=
  ((takes_writtenSome _).and (takes_written _)).describes (by decide) (by decide)

instance : Lossless Traffic 3 := Describes.lossless Traffic.describes_encode fun r x => by
  simp only [Coded.decode, x.describes_encode.read]
  rfl

theorem AclEntry.describes_encode (e : AclEntry) :
    AclEntry.fields.Describes 3 (Coded.encode e) (e.name, e.traffic, e.action) := by
  apply Takes.describes (by decide)
  · simp only [List.append_assoc]
    exact (takes_written _).and ((takes_written _).and (takes_written _))
  · decide

instance : Lossless AclEntry 4 := Describes.lossless AclEntry.describes_encode fun r e => by
  simp only [Coded.decode, e.describes_encode.read]
  rfl

theorem Acl.describes_encode (l : Acl) :
    Acl.fields.Describes 5 (Coded.encode l) (l.name, l.direction, l.entries) := by
  apply Takes.describes (by decide)
  · simp only [List.append_assoc]
    exact (takes_written _).and ((takes_written _).and (takes_written _))
  · decide

instance : Lossless Acl 6 := Describes.lossless Acl.describes_encode fun r l => by
  simp only [Coded.decode, l.describes_encode.read]
  rfl

namespace Acl

/-- The text of a list's document, on one line. -/
def json (l : Acl) : String := Json.compact (Coded.encode l)

/-- A list is read back from its text, and different lists have different texts. -/
theorem decode_json (l m : Acl) : Json.decode l.json = .ok l ∧ (l.json = m.json ↔ l = m) :=
  ⟨Lossless.decode_compact_encode (by decide) l, Lossless.compact_encode_inj (by decide)⟩

end Acl

end GroupPolicy

import GroupPolicy.Proofs.Net.AddressText

namespace GroupPolicy

/-- Things that are read back from their texts have different texts. -/
theorem text_eq_iff_of_read_back {α : Type} {parse : String → Except FormatError α} {text : α → String}
    {a b : α} (ha : parse (text a) = .ok a) (hb : parse (text b) = .ok b) : text a = text b ↔ a = b := by
  constructor
  · intro h
    rw [h, hb] at ha
    exact (Except.ok.inj ha).symm
  · rintro rfl
    rfl

namespace Address

theorem parse_text (a : Address) : parse a.text = .ok a := by
  rw [parse, text, String.toList_ofList, parse?_chars]

theorem slash_not_mem_chars (a : Address) : '/' ∉ a.chars := by
  have hdigits : ∀ d < 16, '/' ≠ Nat.digitChar d := by decide
  have hv4 : ∀ x : Ipv4, '/' ∉ x.chars := Ipv4.not_mem_chars (by decide) (by decide)
  cases a with
  | v4 x => exact hv4 x
  | v6 x =>
    intro h
    rcases Ipv6.mem_chars h with hcolon | ⟨d, hd, hdigit⟩ | ⟨y, hy⟩
    · exact absurd hcolon (by decide)
    · exact hdigits d hd hdigit
    · exact hv4 y hy

end Address

namespace Cidr

/-- The text of an address is read as the prefix of this address alone. -/
theorem parse_address_text (a : Address) : parse a.text = .ok (host a) := by
  have hslash : '/' ∉ a.chars.reverse := by
    rw [List.mem_reverse]
    exact a.slash_not_mem_chars
  have hnone : Text.splitLast '/' a.chars = none := by
    rw [Text.splitLast, Text.splitFirst_eq_none_iff.mpr hslash, Option.map_none]
  rw [parse, Address.text, String.toList_ofList, Address.trim_chars, hnone]
  simp only [Address.parse?_chars]

/-- No length beyond that of the address is read. -/
theorem parse_slash_of_lt {a : Address} {n : Nat} (h : a.family.maxLength < n) :
    ∃ e, parse (String.ofList (a.chars ++ '/' :: Text.decimal n)) = .error e := by
  rw [parse_slash]
  split
  · exact ⟨_, dif_neg (Nat.not_le.mpr h)⟩
  · exact ⟨_, rfl⟩

end Cidr

namespace PortRange

variable {s : String} {r : PortRange}

theorem port?_decimal (port : UInt16) : port? (Text.decimal port.toNat) = some port := by
  have htrim : Text.trim (Text.decimal port.toNat) = Text.decimal port.toNat :=
    Text.trimBoth_of_forall_not fun _ hc => Text.isBlank_of_isDigit (Text.isDigit_of_mem_decimal hc)
  have hbound : port.toNat ≤ 65535 := Nat.le_of_lt_succ port.toNat_lt
  rw [port?, htrim, Text.readUpTo?_decimal hbound, Option.map_some, UInt16.ofNat_toNat]

/-- From the text of a range its two ports are read, and they are put together again. -/
theorem parse_text (r : PortRange) : parse r.text = ofBounds r.lower r.upper := by
  have hdash : '-' ∉ Text.decimal r.lower.toNat := Text.not_mem_decimal (by decide) r.lower.toNat
  simp only [parse, text, chars, String.toList_ofList, Text.splitFirst_append _ hdash, port?_decimal]

theorem ofBounds_of_le {lower upper : UInt16} (h : lower ≤ upper) : ofBounds lower upper = .ok ⟨lower, upper⟩ :=
  if_pos h

theorem parse_text_of_le (h : r.lower ≤ r.upper) : parse r.text = .ok r := by
  rw [parse_text, ofBounds_of_le h]

theorem le_of_ofBounds {lower upper : UInt16} (h : ofBounds lower upper = .ok r) : r.lower ≤ r.upper := by
  unfold ofBounds at h
  split at h
  next hle =>
    obtain rfl := Except.ok.inj h
    exact hle
  · cases h

/-- The ports of a range that is read stand the right way round. -/
theorem le_of_parse (h : parse s = .ok r) : r.lower ≤ r.upper := by
  unfold parse at h
  split at h
  · split at h
    · exact le_of_ofBounds h
    · cases h
  · split at h
    next port _ =>
      obtain rfl := Except.ok.inj h
      exact UInt16.le_refl port
    · cases h

end PortRange

/-- Addresses, prefixes and ranges of ports are read back from their texts, and the text of an address is
also that of its own prefix. Every prefix and every range that is read from any text lies within bounds and
has a text of its own, from which it is read back; values out of bounds are read from no such text. -/
theorem texts_canonical :
    (∀ a : Address, Address.parse a.text = .ok a ∧ Cidr.parse a.text = .ok (.host a)) ∧
    (∀ (a : Address) (n : Nat),
      (n ≤ a.family.maxLength →
        ∃ p, Cidr.ofLength a n = .ok p ∧ p.address = a ∧ p.length = n ∧ Cidr.parse p.text = .ok p) ∧
      (a.family.maxLength < n →
        ∃ e, Cidr.parse (String.ofList (a.chars ++ '/' :: Text.decimal n)) = .error e)) ∧
    (∀ lower upper : UInt16,
      (lower ≤ upper → ∃ r, PortRange.ofBounds lower upper = .ok r ∧ r.lower = lower ∧ r.upper = upper ∧
        PortRange.parse r.text = .ok r) ∧
      (upper < lower → ∃ e, PortRange.parse (PortRange.text ⟨lower, upper⟩) = .error e)) ∧
    (∀ s p, Cidr.parse s = .ok p →
      p.length ≤ (match p.address with | .v4 _ => 32 | .v6 _ => 128) ∧ Cidr.parse p.text = .ok p ∧
        ∀ s' p', Cidr.parse s' = .ok p' → (p'.text = p.text ↔ p' = p)) ∧
    (∀ s r, PortRange.parse s = .ok r → r.lower ≤ r.upper ∧ PortRange.parse r.text = .ok r ∧
      ∀ s' r', PortRange.parse s' = .ok r' → (r'.text = r.text ↔ r' = r)) := by
  refine ⟨?_, ?_, ?_, ?_, ?_⟩
  · intro a
    exact ⟨a.parse_text, Cidr.parse_address_text a⟩
  · intro a n
    refine ⟨fun hle => ?_, Cidr.parse_slash_of_lt⟩
    exact ⟨⟨a, n, hle⟩, Cidr.ofLength_of_le hle, rfl, rfl, Cidr.parse_text _⟩
  · intro lower upper
    constructor
    · intro hle
      exact ⟨⟨lower, upper⟩, PortRange.ofBounds_of_le hle, rfl, rfl, PortRange.parse_text_of_le hle⟩
    · intro hlt
      rw [PortRange.parse_text]
      exact ⟨_, if_neg (UInt16.not_le.mpr hlt)⟩
  · intro s p _
    refine ⟨?_, p.parse_text, fun s' p' _ => ?_⟩
    · have hbound := p.length_le
      cases haddress : p.address <;> rw [haddress] at hbound <;> exact hbound
    · exact text_eq_iff_of_read_back p'.parse_text p.parse_text
  · intro s r hr
    have hback := PortRange.parse_text_of_le (PortRange.le_of_parse hr)
    refine ⟨PortRange.le_of_parse hr, hback, fun s' r' hr' => ?_⟩
    exact text_eq_iff_of_read_back (PortRange.parse_text_of_le (PortRange.le_of_parse hr')) hback

/-- A prefix and a range that are written in an unusual way, their canonical texts, and texts like these with
values out of bounds. -/
theorem texts_canonical_unusual :
    let a : Address := .v6 ⟨[0x2001, 0xdb8, 0, 0, 0, 0, 0, 1], rfl⟩
    (∃ p, Cidr.ofLength a 64 = .ok p ∧ Cidr.parse " 2001:0DB8:0:0:0:0:0:1/+064 " = .ok p ∧
      p.text = "2001:db8::1/64" ∧ Cidr.parse "2001:db8::1/64" = .ok p) ∧
    (∃ r, PortRange.ofBounds 80 443 = .ok r ∧ PortRange.parse " 80 - 0443" = .ok r ∧ r.text = "80-443" ∧
      PortRange.parse "80-443" = .ok r) ∧
    (∃ e, Cidr.parse "2001:db8::1/129" = .error e) ∧ ∃ e, PortRange.parse "443-80" = .error e := by
  intro a
  obtain ⟨-, hlengths, hbounds, hprefix, hrange⟩ := texts_canonical
  have hread : Cidr.parse " 2001:0DB8:0:0:0:0:0:1/+064 " = .ok ⟨a, 64, by decide⟩ := rfl
  have hports : PortRange.parse " 80 - 0443" = .ok ⟨80, 443⟩ := rfl
  have hreadText : Cidr.text ⟨a, 64, by decide⟩ = "2001:db8::1/64" := by decide +kernel
  have hportsText : PortRange.text ⟨80, 443⟩ = "80-443" := by decide +kernel
  obtain ⟨p, hp, -, -, -⟩ := (hlengths a 64).1 (by decide)
  obtain ⟨r, hr, -, -, -⟩ := (hbounds 80 443).1 (by decide)
  rw [Except.ok.inj hp] at hread hreadText
  rw [Except.ok.inj hr] at hports hportsText
  obtain ⟨-, hback, -⟩ := hprefix _ p hread
  obtain ⟨-, hportsBack, -⟩ := hrange _ r hports
  refine ⟨⟨p, hp, hread, hreadText, ?_⟩, ⟨r, hr, hports, hportsText, ?_⟩, ?_, ?_⟩
  · rwa [hreadText] at hback
  · rwa [hportsText] at hportsBack
  · exact (hlengths a 129).2 (by decide)
  · exact (hbounds 443 80).2 (by decide)

end GroupPolicy

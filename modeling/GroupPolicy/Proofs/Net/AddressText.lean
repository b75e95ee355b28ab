import GroupPolicy.Net.Document
import GroupPolicy.Proofs.Document.Records

namespace GroupPolicy

namespace Ipv4

theorem parse?_of_not_mem {s : List Char} (h : '.' ∉ s) : parse? s = none := by
  simp [parse?, Text.splitAll_of_not_mem h]

theorem isDigit_of_octet? {s : List Char} {o : UInt8} (h : octet? s = some o) :
    ∀ c ∈ s, c.isDigit = true := by
  unfold octet? at h
  split at h
  · obtain ⟨n, hn, -⟩ := Option.map_eq_some_iff.mp h
    obtain ⟨hread, -⟩ := Option.filter_eq_some_iff.mp hn
    unfold Text.readNat? at hread
    split at hread
    next hdigits => exact List.all_eq_true.mp hdigits.2
    next => cases hread
  · cases h

/-- An address holds digits and points only. -/
theorem isDigit_or_eq_of_parse? {s : List Char} {x : Ipv4} (h : parse? s = some x) :
    ∀ c ∈ s, c.isDigit = true ∨ c = '.' := by
  unfold parse? at h
  split at h
  next a b c d hpieces =>
    simp only [Option.bind_eq_bind, Option.bind_eq_some_iff] at h
    obtain ⟨a', ha, b', hb, c', hc, d', hd, -⟩ := h
    have hs := Text.intercalate_splitAll '.' s
    rw [hpieces] at hs
    intro e he
    rw [← hs] at he
    simp only [List.intercalate_cons_cons, List.mem_append, List.mem_singleton] at he
    rcases he with (he | he) | (he | he) | (he | he) | he
    · exact .inl (isDigit_of_octet? ha e he)
    · exact .inr he
    · exact .inl (isDigit_of_octet? hb e he)
    · exact .inr he
    · exact .inl (isDigit_of_octet? hc e he)
    · exact .inr he
    · exact .inl (isDigit_of_octet? hd e (by simpa using he))
  next => cases h

theorem not_isBlank_of_mem_chars {x : Ipv4} {c : Char} (h : c ∈ x.chars) :
    Text.isBlank c = false := by
  rcases isDigit_or_eq_of_parse? (parse?_chars x) c h with hdigit | rfl
  · exact Text.isBlank_of_isDigit hdigit
  · decide

theorem not_mem_chars {c : Char} (hdigit : c.isDigit = false) (hpoint : c ≠ '.') (x : Ipv4) :
    c ∉ x.chars := by
  intro h
  rcases isDigit_or_eq_of_parse? (parse?_chars x) c h with hc | hc
  · rw [hdigit] at hc
    cases hc
  · exact hpoint hc

theorem colon_not_mem_chars (x : Ipv4) : ':' ∉ x.chars := not_mem_chars (by decide) (by decide) x

end Ipv4

namespace Ipv6

theorem not_mem_groupChars {c : Char} (hc : ∀ d < 16, Nat.digitChar d ≠ c) (g : UInt16) :
    c ∉ groupChars g := by
  intro h
  obtain ⟨d, hd, heq⟩ := Text.exists_of_mem_toDigits h
  exact hc d hd heq.symm

theorem group?_groupChars (g : UInt16) : group? (groupChars g) = some g := by
  have hle : (groupChars g).length ≤ 4 :=
    (Nat.length_toDigits_le_iff (by decide) (by decide)).mpr g.toNat_lt
  have hread : Text.hexNat? (groupChars g) = some g.toNat := Text.hexNat?_toDigits g.toNat
  rw [group?, if_pos ⟨Nat.length_toDigits_pos, hle⟩, hread]
  simp

theorem point_not_mem_groupChars (g : UInt16) : '.' ∉ groupChars g := not_mem_groupChars (by decide) g

theorem colon_not_mem_groupChars (g : UInt16) : ':' ∉ groupChars g := not_mem_groupChars (by decide) g

theorem forall_not_mem_groupChars (gs : List UInt16) : ∀ p ∈ gs.map groupChars, ':' ∉ p := by
  intro p hp
  obtain ⟨g, -, rfl⟩ := List.mem_map.mp hp
  exact colon_not_mem_groupChars g

/-- Groups are read back from their texts, whatever stands in their last place. -/
theorem pieceGroups?_append (quadAllowed : Bool) (gs : List UInt16) {ps : List (List Char)}
    (hps : ps ≠ []) : pieceGroups? quadAllowed (gs.map groupChars ++ ps) =
      (pieceGroups? quadAllowed ps).map (gs ++ ·) := by
  induction gs with
  | nil => simp
  | cons g gs ih =>
    obtain ⟨q, qs, hq⟩ : ∃ q qs, gs.map groupChars ++ ps = q :: qs :=
      List.exists_cons_of_ne_nil (by simp [hps])
    rw [List.map_cons, List.cons_append, hq, pieceGroups?, group?_groupChars, ← hq, ih]
    · cases pieceGroups? quadAllowed ps <;> rfl
    · exact List.cons_ne_nil q qs

theorem pieceGroups?_groupChars (quadAllowed : Bool) (g : UInt16) :
    pieceGroups? quadAllowed [groupChars g] = some [g] := by
  have hquad := Ipv4.parse?_of_not_mem (point_not_mem_groupChars g)
  simp [pieceGroups?, hquad, group?_groupChars]

theorem pieceGroups?_quad (x : Ipv4) : pieceGroups? true [x.chars] = some (quadGroups x) := by
  simp [pieceGroups?, Ipv4.parse?_chars]

theorem joined_ne_nil {gs : List UInt16} (h : gs ≠ []) : joined gs ≠ [] := by
  cases gs with
  | nil => exact absurd rfl h
  | cons g gs =>
    have hg : groupChars g ≠ [] := Nat.toDigits_ne_nil
    cases gs with
    | nil => simpa [joined] using hg
    | cons g' gs => simp [joined, List.intercalate_cons_cons]

/-- Groups with colons between them are read back. -/
theorem partGroups?_joined (quadAllowed : Bool) (gs : List UInt16) :
    partGroups? quadAllowed (joined gs) = some gs := by
  rcases gs.eq_nil_or_concat with rfl | ⟨gs, g, rfl⟩
  · rfl
  · rw [List.concat_eq_append]
    have hne : gs ++ [g] ≠ [] := by simp
    rw [partGroups?, if_neg (joined_ne_nil hne), joined,
      Text.splitAll_intercalate (by simp) (forall_not_mem_groupChars _), List.map_append,
      pieceGroups?_append _ _ (by simp), List.map_singleton, pieceGroups?_groupChars,
      Option.map_some]

theorem splitDouble_append {p : List Char} (h : ':' ∉ p) (r : List Char) :
    splitDouble (p ++ r) = (splitDouble r).map fun (a, b) => (p ++ a, b) := by
  induction p with
  | nil => simp
  | cons c p ih =>
    simp only [List.mem_cons, not_or] at h
    rw [List.cons_append, splitDouble, ih h.2, Option.map_map]
    · rfl
    · rintro r' rfl
      exact absurd rfl h.1

theorem splitDouble_colon {c : Char} (hc : c ≠ ':') (r : List Char) :
    splitDouble (':' :: c :: r) = (splitDouble (c :: r)).map fun (a, b) => (':' :: a, b) := by
  rw [splitDouble]
  rintro r' -
  simp [hc]

theorem exists_joined_cons (g : UInt16) (gs : List UInt16) :
    ∃ c cs, joined (g :: gs) = c :: cs ∧ c ≠ ':' := by
  obtain ⟨c, cs, hcs⟩ := List.exists_cons_of_ne_nil (l := groupChars g) Nat.toDigits_ne_nil
  have hc : c ≠ ':' := by
    rintro rfl
    exact colon_not_mem_groupChars g (by simp [hcs])
  cases gs with
  | nil => exact ⟨c, cs, by simp [joined, hcs], hc⟩
  | cons g' gs => exact ⟨c, _, by simp [joined, List.intercalate_cons_cons, hcs]; rfl, hc⟩

/-- There is no double colon within groups. -/
theorem splitDouble_joined_append (gs : List UInt16) (r : List Char) :
    splitDouble (joined gs ++ r) = (splitDouble r).map fun (a, b) => (joined gs ++ a, b) := by
  induction gs with
  | nil => simp [joined]
  | cons g gs ih =>
    cases gs with
    | nil => simp [joined, splitDouble_append (colon_not_mem_groupChars g)]
    | cons g' gs =>
      have hjoined : joined (g :: g' :: gs) = groupChars g ++ ':' :: joined (g' :: gs) := by
        simp [joined, List.intercalate_cons_cons]
      obtain ⟨c, cs, hcs, hc⟩ := exists_joined_cons g' gs
      rw [hcs, List.cons_append] at ih
      rw [hjoined, List.append_assoc, splitDouble_append (colon_not_mem_groupChars g),
        List.cons_append, hcs, List.cons_append, splitDouble_colon hc, ih]
      cases splitDouble r <;> simp

theorem word_of_octets (w : UInt16) :
    (w >>> 8).toUInt8.toUInt16 <<< 8 ||| w.toUInt8.toUInt16 = w := by
  have hw := w.toNat_lt
  have hhigh : w.toNat / 256 % 256 = w.toNat / 256 := by omega
  have hshift : (w.toNat / 256) <<< 8 = w.toNat / 256 * 256 := Nat.shiftLeft_eq _ _
  have hword : w.toNat / 256 * 256 % 65536 = (w.toNat / 256) <<< 8 := by omega
  apply UInt16.toNat_inj.mp
  simp only [UInt16.toNat_or, UInt16.toNat_shiftLeft, UInt8.toNat_toUInt16, UInt16.toNat_toUInt8,
    UInt16.toNat_shiftRight, UInt16.toNat_ofNat, Nat.shiftRight_eq_div_pow]
  simp only [Nat.reducePow, Nat.reduceMod]
  rw [hhigh, hshift, hword, ← Nat.shiftLeft_add_eq_or_of_lt (by omega)]
  omega

theorem mapped?_eq_some {gs : List UInt16} {x : Ipv4} (h : mapped? gs = some x) :
    gs = [0, 0, 0, 0, 0, 0xffff] ++ quadGroups x := by
  unfold mapped? at h
  split at h
  next hi lo =>
    obtain rfl := Option.some.inj h
    rw [quadGroups, word_of_octets, word_of_octets]
    rfl
  next => cases h

/-- The longest run of zero groups is one, if there is any. -/
theorem longestZeros_eq (gs : List UInt16) :
    longestZeros gs = (0, 0) ∨ (longestZeros gs).2 = zerosFrom gs (longestZeros gs).1 := by
  unfold longestZeros
  refine List.foldlRecOn _ _
    (motive := fun best => best = (0, 0) ∨ best.2 = zerosFrom gs best.1) (.inl rfl) ?_
  intro best h i _
  split
  · exact .inr rfl
  · exact h

theorem drop_eq_of_zerosFrom (gs : List UInt16) (start : Nat) : gs.drop start =
    List.replicate (zerosFrom gs start) 0 ++ gs.drop (start + zerosFrom gs start) := by
  have hzeros : (gs.drop start).takeWhile (· == 0) =
      List.replicate (zerosFrom gs start) 0 := by
    refine List.eq_replicate_iff.mpr ⟨rfl, fun g hg => ?_⟩
    have hall := List.all_takeWhile (l := gs.drop start) (p := (· == 0))
    simpa using List.all_eq_true.mp hall g hg
  have hprefix := List.takeWhile_prefix (l := gs.drop start) (· == 0)
  rw [hzeros] at hprefix
  obtain ⟨t, ht⟩ := hprefix
  rw [← List.drop_drop, ← ht, List.drop_left' List.length_replicate]

theorem partGroups?_mapped (v4 : Ipv4) :
    partGroups? true ('f' :: 'f' :: 'f' :: 'f' :: ':' :: v4.chars) =
      some (0xffff :: quadGroups v4) := by
  have hgroup : groupChars 0xffff = ['f', 'f', 'f', 'f'] := by decide
  have hsplit : Text.splitAll ':' (groupChars 0xffff ++ ':' :: v4.chars) =
      [groupChars 0xffff] ++ [v4.chars] := by
    rw [Text.splitAll_append_cons (colon_not_mem_groupChars _),
      Text.splitAll_of_not_mem (Ipv4.colon_not_mem_chars v4)]
    rfl
  have hpieces := pieceGroups?_append true [0xffff] (List.cons_ne_nil v4.chars [])
  rw [List.map_singleton, pieceGroups?_quad] at hpieces
  rw [hgroup] at hsplit hpieces
  simp only [List.cons_append, List.nil_append] at hsplit hpieces
  rw [partGroups?, if_neg (by simp), hsplit, hpieces]
  rfl

/-- The groups around a double colon are read, if they leave room for a zero group between them. -/
theorem parse?_of_splitDouble {s a b : List Char} {front back : List UInt16}
    (hsplit : splitDouble s = some (a, b)) (hfront : partGroups? false a = some front)
    (hback : partGroups? true b = some back) (hle : front.length + back.length ≤ 7) :
    parse? s = ofGroups? (front ++ List.replicate (8 - (front.length + back.length)) 0 ++ back) := by
  simp [parse?, hsplit, hfront, hback, hle]

/-- An address is read back from its text. The text has at most one double colon, so that the groups on
both sides of it are told apart. -/
theorem parse?_chars (x : Ipv6) : parse? x.chars = some x := by
  obtain ⟨gs, hlength⟩ := x
  rw [chars]
  cases hmapped : mapped? gs with
  | some v4 =>
    have hsplit : splitDouble (':' :: ':' :: 'f' :: 'f' :: 'f' :: 'f' :: ':' :: v4.chars) =
        some ([], 'f' :: 'f' :: 'f' :: 'f' :: ':' :: v4.chars) := by rw [splitDouble]
    rw [parse?_of_splitDouble hsplit rfl (partGroups?_mapped v4) (by simp [quadGroups])]
    simp [ofGroups?, mapped?_eq_some hmapped, quadGroups, List.replicate]
  | none =>
    dsimp only
    split
    next hlong =>
      generalize hrun : longestZeros gs = run at hlong ⊢
      obtain ⟨start, length⟩ := run
      have hzeros : length = zerosFrom gs start := by
        have h := longestZeros_eq gs
        rw [hrun] at h
        rcases h with h | h
        · have hnone : length = 0 := (Prod.mk.inj h).2
          have hlong : 1 < length := hlong
          omega
        · exact h
      have hdrop := drop_eq_of_zerosFrom gs start
      rw [← hzeros] at hdrop
      have hlengths := congrArg List.length hdrop
      simp only [List.length_drop, List.length_append, List.length_replicate, hlength]
        at hlengths hlong
      have hsplit : splitDouble (joined (gs.take start) ++
          ':' :: ':' :: joined (gs.drop (start + length))) =
            some (joined (gs.take start), joined (gs.drop (start + length))) := by
        rw [splitDouble_joined_append, splitDouble]
        simp
      have hmissing : 8 - ((gs.take start).length + (gs.drop (start + length)).length) = length := by
        simp
        omega
      rw [parse?_of_splitDouble hsplit (partGroups?_joined _ _) (partGroups?_joined _ _) (by omega),
        hmissing, List.append_assoc, ← hdrop, List.take_append_drop, ofGroups?, dif_pos hlength]
    next =>
      have hnone : splitDouble (joined gs) = none := by
        have h := splitDouble_joined_append gs []
        rwa [List.append_nil, splitDouble, Option.map_none] at h
      simp [parse?, hnone, partGroups?_joined, ofGroups?, hlength]

theorem mem_joined {gs : List UInt16} {c : Char} (h : c ∈ joined gs) :
    c = ':' ∨ ∃ d < 16, c = Nat.digitChar d := by
  induction gs with
  | nil => simp [joined] at h
  | cons g gs ih =>
    cases gs with
    | nil => exact .inr (Text.exists_of_mem_toDigits (by simpa [joined, groupChars] using h))
    | cons g' gs =>
      simp only [joined, List.map_cons, List.intercalate_cons_cons, List.mem_append,
        List.mem_singleton] at h ih
      rcases h with (h | h) | h
      · exact .inr (Text.exists_of_mem_toDigits h)
      · exact .inl h
      · exact ih h

/-- An address holds colons, hexadecimal digits, and what an address of version 4 holds. -/
theorem mem_chars {x : Ipv6} {c : Char} (h : c ∈ x.chars) :
    c = ':' ∨ (∃ d < 16, c = Nat.digitChar d) ∨ ∃ y : Ipv4, c ∈ y.chars := by
  have hjoined {gs : List UInt16} (h : c ∈ joined gs) :
      c = ':' ∨ (∃ d < 16, c = Nat.digitChar d) ∨ ∃ y : Ipv4, c ∈ y.chars :=
    (mem_joined h).imp_right .inl
  rw [chars] at h
  split at h
  next y _ =>
    have hf : ∃ d < 16, 'f' = Nat.digitChar d := ⟨15, by decide, rfl⟩
    simp only [List.mem_cons] at h
    rcases h with h | h | rfl | rfl | rfl | rfl | h | h
    · exact .inl h
    · exact .inl h
    · exact .inr (.inl hf)
    · exact .inr (.inl hf)
    · exact .inr (.inl hf)
    · exact .inr (.inl hf)
    · exact .inl h
    · exact .inr (.inr ⟨y, h⟩)
  next =>
    dsimp only at h
    split at h
    · simp only [List.mem_append, List.mem_cons] at h
      rcases h with h | h | h | h
      · exact hjoined h
      · exact .inl h
      · exact .inl h
      · exact hjoined h
    · exact hjoined h

theorem not_isBlank_of_mem_chars {x : Ipv6} {c : Char} (h : c ∈ x.chars) :
    Text.isBlank c = false := by
  have hdigits : ∀ d < 16, Text.isBlank (Nat.digitChar d) = false := by decide
  rcases mem_chars h with rfl | ⟨d, hd, rfl⟩ | ⟨y, hy⟩
  · decide
  · exact hdigits d hd
  · exact Ipv4.not_isBlank_of_mem_chars hy

theorem colon_mem_chars (x : Ipv6) : ':' ∈ x.chars := by
  obtain ⟨gs, hlength⟩ := x
  rw [chars]
  split
  · exact List.mem_cons_self
  · dsimp only
    split
    · simp
    · obtain ⟨g, g', r, rfl⟩ : ∃ g g' r, gs = g :: g' :: r := by
        match gs, hlength with
        | g :: g' :: r, _ => exact ⟨g, g', r, rfl⟩
      simp [joined, List.intercalate_cons_cons]

end Ipv6

namespace Address

theorem ofChars?_chars (x : Address) : ofChars? x.chars = some x := by
  cases x with
  | v4 x => simp [ofChars?, chars, Ipv4.parse?_chars]
  | v6 x =>
    have hnone : Ipv4.parse? x.chars = none := by
      cases hparse : Ipv4.parse? x.chars with
      | none => rfl
      | some y =>
        have hcolon := Ipv4.isDigit_or_eq_of_parse? hparse ':' (Ipv6.colon_mem_chars x)
        exact absurd hcolon (by decide)
    simp [ofChars?, chars, hnone, Ipv6.parse?_chars]

theorem not_isBlank_of_mem_chars {x : Address} {c : Char} (h : c ∈ x.chars) :
    Text.isBlank c = false := by
  cases x with
  | v4 x => exact Ipv4.not_isBlank_of_mem_chars h
  | v6 x => exact Ipv6.not_isBlank_of_mem_chars h

theorem trim_chars (x : Address) : Text.trim x.chars = x.chars :=
  Text.trimBoth_of_forall_not fun _ => not_isBlank_of_mem_chars

theorem parse?_chars (x : Address) : parse? x.chars = some x := by
  rw [parse?, trim_chars, ofChars?_chars]

end Address

theorem Coded.parsed_text {α : Type} {parse : String → Except FormatError α} {s : String} {a : α}
    (h : parse s = .ok a) : parsed parse (.text s) = .ok a := by
  show (parse s).mapError DecodeError.format = .ok a
  rw [h]
  rfl

namespace Cidr

/-- An address and a length are found again on both sides of a slash. -/
theorem parse_slash (address : Address) (length : Nat) :
    let s := String.ofList (address.chars ++ '/' :: Text.decimal length)
    parse s = if length ≤ 255 then ofLength address length else .error (.cidr s) := by
  have hblank : ∀ c ∈ address.chars ++ '/' :: Text.decimal length, Text.isBlank c = false := by
    intro c hc
    simp only [List.mem_append, List.mem_cons] at hc
    rcases hc with hc | rfl | hc
    · exact Address.not_isBlank_of_mem_chars hc
    · decide
    · exact Text.isBlank_of_isDigit (Text.isDigit_of_mem_decimal hc)
  have htrim : Text.trim (address.chars ++ '/' :: Text.decimal length) =
      address.chars ++ '/' :: Text.decimal length := Text.trimBoth_of_forall_not hblank
  have hslash : '/' ∉ Text.decimal length := Text.not_mem_decimal (by decide) length
  simp only [parse, String.toList_ofList, htrim, Text.splitLast_append _ hslash, Address.parse?_chars,
    Text.readUpTo?_decimal_eq]
  by_cases hbound : length ≤ 255
  · simp only [if_pos hbound]
  · simp only [if_neg hbound]

theorem ofLength_of_le {address : Address} {length : Nat} (h : length ≤ address.family.maxLength) :
    ofLength address length = .ok ⟨address, length, h⟩ := dif_pos h

/-- A prefix is read back from its text. -/
theorem parse_text (p : Cidr) : parse p.text = .ok p := by
  obtain ⟨address, length, hlength⟩ := p
  have hbound : length ≤ 255 := by
    cases address <;> simp [Address.family, Family.maxLength] at hlength <;> omega
  rw [text, chars, parse_slash, if_pos hbound, ofLength_of_le hlength]

instance : Lossless Cidr 0 where
  decode_encode _ p := Coded.parsed_text p.parse_text
  fits_encode _ := trivial
  encode_ne_null _ := nofun

end Cidr

end GroupPolicy

import GroupPolicy.Document.Json.Printer
import GroupPolicy.Document.Json.Reader

namespace GroupPolicy

namespace Json

theorem hexNat?_control {n : Nat} (h : n < 32) :
    Text.hexNat? ['0', '0', Nat.digitChar (n / 16), Nat.digitChar (n % 16)] = some n := by
  have hzero : Text.hexDigit? '0' = some 0 := by decide
  have hhigh := Text.hexDigit?_digitChar (show n / 16 < 16 by omega)
  have hlow := Text.hexDigit?_digitChar (show n % 16 < 16 by omega)
  simp [Text.hexNat?, hzero, hhigh, hlow]
  omega

theorem readText_escapedChar (acc : List Char) (c : Char) (r : List Char) :
    readText acc true none (escapedChar c ++ r) = readText (c :: acc) true none r := by
  unfold escapedChar
  split
  · simp [readText, shortEscape?]
  · simp [readText, shortEscape?]
  · simp [readText, shortEscape?]
  · simp [readText, shortEscape?]
  · simp [readText, shortEscape?]
  · simp [readText, shortEscape?]
  · simp [readText, shortEscape?]
  next hquote hslash _ _ _ _ _ =>
    split
    next hcontrol =>
      have hlead : isLead c.toNat = false := by simp [isLead]; omega
      have htrail : isTrail c.toNat = false := by simp [isTrail]; omega
      simp [readText, hexNat?_control hcontrol, hlead, htrail]
    next hplain =>
      simp only [List.singleton_append]
      rw [readText.eq_def]
      split <;> simp_all [Nat.not_lt.mpr]

theorem readText_flatMap_escapedChar (acc cs r : List Char) :
    readText acc true none (cs.flatMap escapedChar ++ '"' :: r) =
      (.text (String.ofList (acc.reverse ++ cs)), some r) := by
  induction cs generalizing acc with
  | nil => simp [readText]
  | cons c cs ih => simp [readText_escapedChar, ih]

/-- A text is read back from between its quotes. -/
theorem readText_textChars (s : String) (r : List Char) :
    readText [] true none (s.toList.flatMap escapedChar ++ '"' :: r) = (.text s, some r) := by
  simp [readText_flatMap_escapedChar]

/-- Whether a text is nothing but space. -/
def IsSpacing (s : List Char) : Prop := ∀ c ∈ s, isSpace c = true

theorem isSpacing_nil : IsSpacing [] := nofun

theorem IsSpacing.skipSpace_append {gap : List Char} (h : IsSpacing gap) (s : List Char) :
    skipSpace (gap ++ s) = skipSpace s :=
  List.dropWhile_append_of_pos h

/-- Whether a layout puts nothing but space between the parts of a document. -/
structure Layout.IsSpacing (layout : Layout) : Prop where
  gap : ∀ depth, Json.IsSpacing (layout.gap depth)
  afterColon : Json.IsSpacing layout.afterColon

theorem Layout.isSpacing_compact : Layout.compact.IsSpacing where
  gap _ := isSpacing_nil
  afterColon := isSpacing_nil

theorem Layout.isSpacing_pretty : Layout.pretty.IsSpacing where
  gap depth c hc := by
    rcases List.mem_cons.mp hc with rfl | hc
    · rfl
    · rw [List.eq_of_mem_replicate hc]
      rfl
  afterColon c hc := by
    rw [List.mem_singleton.mp hc]
    rfl

/-- Whether a number that stands in front of a text ends there. -/
def EndsNumber (r : List Char) : Prop :=
  ∀ c ∈ r.head?, c.isDigit = false ∧ c ≠ '.' ∧ c ≠ 'e' ∧ c ≠ 'E'

theorem endsNumber_nil : EndsNumber [] := nofun

theorem EndsNumber.cons {c : Char} {r : List Char}
    (h : c.isDigit = false ∧ c ≠ '.' ∧ c ≠ 'e' ∧ c ≠ 'E') : EndsNumber (c :: r) := by
  intro d hd
  obtain rfl := Option.some.inj hd
  exact h

theorem IsSpacing.endsNumber_append {gap r : List Char} (h : IsSpacing gap) (hr : EndsNumber r) :
    EndsNumber (gap ++ r) := by
  cases gap with
  | nil => exact hr
  | cons c gap =>
    have hspace := h c List.mem_cons_self
    refine .cons ⟨?_, ?_, ?_, ?_⟩
    all_goals
      simp only [isSpace, Bool.or_eq_true, beq_iff_eq] at hspace
      rcases hspace with ((rfl | rfl) | rfl) | rfl <;> decide

theorem spanDigits_append {ds r : List Char} (hds : ∀ c ∈ ds, c.isDigit = true) (hr : EndsNumber r) :
    spanDigits (ds ++ r) = (ds, r) := by
  have hspan : r.takeWhile Char.isDigit = [] ∧ r.dropWhile Char.isDigit = r := by
    cases r with
    | nil => exact ⟨rfl, rfl⟩
    | cons c r => simp [(hr c rfl).1]
  simp [spanDigits, List.takeWhile_append_of_pos hds, List.dropWhile_append_of_pos hds, hspan]

theorem le_ofDigitChars (ds : List Char) (start : Nat) : start ≤ Nat.ofDigitChars 10 ds start := by
  induction ds generalizing start with
  | nil => simp
  | cons c ds ih =>
    have h := ih (10 * start + (c.toNat - '0'.toNat))
    rw [Nat.ofDigitChars_cons]
    omega

/-- Digits are collected to their end if their number fits into a word. -/
theorem collectDigits_of_le {ds : List Char} {start : Nat}
    (h : Nat.ofDigitChars 10 ds start ≤ maxWord) :
    collectDigits start ds = (Nat.ofDigitChars 10 ds start, []) := by
  induction ds generalizing start with
  | nil => simp [collectDigits]
  | cons c ds ih =>
    rw [Nat.ofDigitChars_cons] at h ⊢
    have hnext := le_ofDigitChars ds (10 * start + (c.toNat - '0'.toNat))
    rw [collectDigits, if_neg (by omega), ih h]

theorem isDigit_of_mem_toDigits {n : Nat} : ∀ c ∈ Nat.toDigits 10 n, c.isDigit = true :=
  fun _ hc => Nat.isDigit_of_mem_toDigits (by decide) (by decide) hc

theorem head?_toDigits {n : Nat} (h : 0 < n) : (Nat.toDigits 10 n).head? ≠ some '0' := by
  induction n using Nat.strongRecOn with
  | ind n ih =>
    by_cases hn : n < 10
    · rw [Nat.toDigits_of_lt_base hn]
      simp
      omega
    · have hrest := ih (n / 10) (by omega) (by omega)
      rw [Nat.toDigits_of_base_le (by decide) (by omega)]
      cases hdigits : Nat.toDigits 10 (n / 10) with
      | nil => exact absurd hdigits Nat.toDigits_ne_nil
      | cons c ds =>
        rw [hdigits] at hrest
        simpa using hrest

theorem readExponent_of_endsNumber {r : List Char} (hr : EndsNumber r) :
    readExponent r = some (none, r) := by
  cases r with
  | nil => rfl
  | cons c r =>
    obtain ⟨-, -, he, hE⟩ := hr c rfl
    simp [readExponent, he, hE]

/-- The digits of a word are read back. -/
theorem readNumber_toDigits {n : Nat} (hn : n ≤ maxWord) (negative : Bool) {r : List Char}
    (hr : EndsNumber r) :
    readNumber negative (Nat.toDigits 10 n ++ r) = (.number (whole negative n), some r) := by
  have hlead : ¬(Nat.toDigits 10 n = [] ∨
      ((Nat.toDigits 10 n).head? = some '0' ∧ (Nat.toDigits 10 n).length ≠ 1)) := by
    rintro (hnil | ⟨hzero, hlength⟩)
    · exact Nat.toDigits_ne_nil hnil
    · rcases Nat.eq_zero_or_pos n with rfl | hpos
      · exact hlength rfl
      · exact head?_toDigits hpos hzero
  have hnumber : number? negative (Nat.toDigits 10 n) none none = some (whole negative n) := by
    have hvalue : Nat.ofDigitChars 10 (Nat.toDigits 10 n) 0 = n := Nat.ofDigitChars_ten_toDigits
    rw [number?, collectDigits_of_le (by rwa [hvalue]), hvalue]
    simp
  rw [readNumber, spanDigits_append isDigit_of_mem_toDigits hr]
  simp only [if_neg hlead]
  cases r with
  | nil => simp [readExponent, hnumber]
  | cons c r =>
    have hpoint := (hr c rfl).2.1
    split
    next h =>
      split at h
      next heq => exact absurd (List.cons.inj heq).1 hpoint
      next => cases h
    next h =>
      split at h
      next heq => exact absurd (List.cons.inj heq).1 hpoint
      next =>
        obtain ⟨rfl, rfl⟩ := Prod.mk.inj (Option.some.inj h)
        simp [readExponent_of_endsNumber hr, hnumber]

end Json

namespace Value

mutual

/-- Whether a value can be read back from JSON text: its numbers are whole and fit into a word, its keys
are texts, and no more than so many lists and records are nested in each other. -/
def Fits : Value → Nat → Prop
  | .number (.integer true n), _ => 0 < n ∧ n ≤ 2 ^ 63
  | .number (.integer false n), _ => n < 2 ^ 64
  | .number (.real _), _ => False
  | .list items, room + 1 => AllFit items room
  | .list _, 0 => False
  | .record entries, room + 1 => EntriesFit entries room
  | .record _, 0 => False
  | .unreadable, _ => False
  | .broken, _ => False
  | _, _ => True

/-- Whether all items can be read back. -/
def AllFit : List Value → Nat → Prop
  | [], _ => True
  | v :: r, room => Fits v room ∧ AllFit r room

/-- Whether all keys and values can be read back. -/
def EntriesFit : List (Value × Value) → Nat → Prop
  | [], _ => True
  | (.text _, v) :: r, room => Fits v room ∧ EntriesFit r room
  | _ :: _, _ => False

end

theorem entriesFit_cons_iff {k v : Value} {entries : List (Value × Value)} {room : Nat} :
    EntriesFit ((k, v) :: entries) room ↔
      ∃ name, k = .text name ∧ v.Fits room ∧ EntriesFit entries room := by
  cases k <;> simp [EntriesFit]

end Value

namespace Json

/-- Whether a text starts with an item of a list or of a record. -/
def StartsItem (s : List Char) : Prop :=
  ∃ c r, s = c :: r ∧ isSpace c = false ∧ c ≠ ']' ∧ c ≠ '\x7d'

theorem startsItem_of_isDigit {c : Char} (hc : c.isDigit = true) (r : List Char) :
    StartsItem (c :: r) := by
  have hne {d : Char} (hd : d.isDigit = false) : c ≠ d := by
    rintro rfl
    rw [hc] at hd
    cases hd
  refine ⟨c, r, rfl, ?_, hne (by decide), hne (by decide)⟩
  simp [isSpace, hne]

theorem startsItem_textChars (s : String) (r : List Char) : StartsItem (textChars s ++ r) :=
  ⟨_, _, rfl, by decide, by decide, by decide⟩

theorem startsItem_valueChars {v : Value} {room : Nat} (h : v.Fits room) (layout : Layout) (level : Nat)
    (r : List Char) : StartsItem (valueChars layout level v ++ r) := by
  cases v with
  | null => exact ⟨_, _, rfl, by decide, by decide, by decide⟩
  | bool b => cases b <;> exact ⟨_, _, rfl, by decide, by decide, by decide⟩
  | text s =>
    rw [valueChars]
    exact startsItem_textChars s r
  | list items =>
    cases items with
    | nil => exact ⟨_, _, rfl, by decide, by decide, by decide⟩
    | cons v items => exact ⟨_, _, by rw [valueChars]; rfl, by decide, by decide, by decide⟩
  | record entries =>
    cases entries with
    | nil => exact ⟨_, _, rfl, by decide, by decide, by decide⟩
    | cons e entries => exact ⟨_, _, by rw [valueChars]; rfl, by decide, by decide, by decide⟩
  | unreadable => exact h.elim
  | broken => exact h.elim
  | number n =>
    cases n with
    | real shown => exact h.elim
    | integer minus n =>
      cases minus with
      | true => exact ⟨_, _, rfl, by decide, by decide, by decide⟩
      | false =>
        have hdigits : ∀ c ∈ Nat.toDigits 10 n, c.isDigit = true := isDigit_of_mem_toDigits
        simp only [valueChars, numberChars, Bool.false_eq_true, if_false, List.nil_append]
        cases heq : Nat.toDigits 10 n with
        | nil => exact absurd heq Nat.toDigits_ne_nil
        | cons c ds => exact startsItem_of_isDigit (hdigits c (by simp [heq])) _

namespace StartsItem

variable {s : List Char}

theorem skipSpace_eq (h : StartsItem s) : skipSpace s = s := by
  obtain ⟨c, r, rfl, hspace, -⟩ := h
  simp [skipSpace, hspace]

theorem ne_bracket (h : StartsItem s) (r : List Char) : s ≠ ']' :: r := by
  obtain ⟨c, cs, rfl, -, hbracket, -⟩ := h
  simp [hbracket]

theorem ne_brace (h : StartsItem s) (r : List Char) : s ≠ '\x7d' :: r := by
  obtain ⟨c, cs, rfl, -, -, hbrace⟩ := h
  simp [hbrace]

theorem ne_nil (h : StartsItem s) : s ≠ [] := by
  obtain ⟨c, r, rfl, -⟩ := h
  exact List.cons_ne_nil c r

end StartsItem

theorem length_valueChars_pos {v : Value} {room : Nat} (h : v.Fits room) (layout : Layout)
    (level : Nat) : 0 < (valueChars layout level v).length := by
  have hstart := startsItem_valueChars h layout level []
  rw [List.append_nil] at hstart
  exact List.length_pos_iff.mpr hstart.ne_nil

theorem atDepth_of_lt {depth : Nat} (h : depth + 1 < maxDepth) (v : Value) (rest : Option (List Char)) :
    atDepth depth v rest = (v, rest) :=
  if_pos h

section Steps

variable {fuel depth : Nat} {s t r : List Char} {v : Value} {k : String}

theorem readValue_of_isDigit {c : Char} (hc : c.isDigit = true) :
    readValue (fuel + 1) depth (c :: r) = readNumber false (c :: r) := by
  rw [readValue]
  all_goals
    intros
    rename_i heq
    obtain ⟨rfl, -⟩ := List.cons.inj heq
    exact absurd hc (by decide)

theorem readValue_numberChars {n : Number} {room : Nat} (h : (Value.number n).Fits room)
    (hr : EndsNumber r) : readValue (fuel + 1) depth (numberChars n ++ r) = (.number n, some r) := by
  cases n with
  | real shown => exact h.elim
  | integer minus n =>
    cases minus with
    | true =>
      obtain ⟨hpos, hle⟩ : 0 < n ∧ n ≤ 2 ^ 63 := h
      have hword : n ≤ maxWord := by simp [maxWord]; omega
      have hwhole : whole true n = .integer true n := by simp [whole]; omega
      simp [numberChars, readValue, readNumber_toDigits hword true hr, hwhole]
    | false =>
      have hlt : n < 2 ^ 64 := h
      have hword : n ≤ maxWord := by simp [maxWord]; omega
      have hread := readNumber_toDigits hword false hr
      have hdigits : ∀ c ∈ Nat.toDigits 10 n, c.isDigit = true := isDigit_of_mem_toDigits
      simp only [numberChars, Bool.false_eq_true, if_false, List.nil_append]
      cases heq : Nat.toDigits 10 n with
      | nil => exact absurd heq Nat.toDigits_ne_nil
      | cons c ds =>
        rw [heq] at hread hdigits
        rw [List.cons_append, readValue_of_isDigit (hdigits c List.mem_cons_self)]
        exact hread

theorem skipSpace_cons {c : Char} (hc : isSpace c = false) : skipSpace (c :: r) = c :: r := by
  simp [skipSpace, hc]

variable {gap gap' : List Char} (hgap : IsSpacing gap)
include hgap

theorem readValue_list (h : StartsItem s) : readValue (fuel + 1) depth ('[' :: (gap ++ s)) =
    atDepth depth (.list (readItems fuel (depth + 1) s).1) (readItems fuel (depth + 1) s).2 := by
  rw [readValue, hgap.skipSpace_append, h.skipSpace_eq]
  split
  next => exact absurd rfl (h.ne_bracket _)
  next => rfl

theorem readValue_record (h : StartsItem s) : readValue (fuel + 1) depth ('\x7b' :: (gap ++ s)) =
    atDepth depth (.record (readEntries fuel (depth + 1) s).1) (readEntries fuel (depth + 1) s).2 := by
  rw [readValue, hgap.skipSpace_append, h.skipSpace_eq]
  split
  next => exact absurd rfl (h.ne_brace _)
  next => rfl

theorem readItems_last (hread : readValue fuel depth s = (v, some (gap ++ ']' :: r))) :
    readItems (fuel + 1) depth s = ([v], some r) := by
  simp [readItems, hread, hgap.skipSpace_append, skipSpace_cons (show isSpace ']' = false by decide)]

theorem readItems_more (hread : readValue fuel depth s = (v, some (',' :: (gap ++ t))))
    (ht : StartsItem t) : readItems (fuel + 1) depth s =
      (v :: (readItems fuel depth t).1, (readItems fuel depth t).2) := by
  simp only [readItems, hread, skipSpace_cons (show isSpace ',' = false by decide),
    hgap.skipSpace_append, ht.skipSpace_eq]
  split
  next => exact absurd rfl (ht.ne_bracket _)
  next => rfl

variable (hgap' : IsSpacing gap')
include hgap'

theorem readEntries_last (hs : StartsItem s)
    (hread : readValue fuel depth s = (v, some (gap ++ '\x7d' :: r))) :
    readEntries (fuel + 1) depth (textChars k ++ ':' :: (gap' ++ s)) = ([(.text k, v)], some r) := by
  simp [textChars, readEntries, readText_textChars, hgap'.skipSpace_append, hs.skipSpace_eq, hread,
    hgap.skipSpace_append, skipSpace_cons (show isSpace ':' = false by decide),
    skipSpace_cons (show isSpace '\x7d' = false by decide)]

theorem readEntries_more (hs : StartsItem s)
    (hread : readValue fuel depth s = (v, some (',' :: (gap ++ t)))) (ht : StartsItem t) :
    readEntries (fuel + 1) depth (textChars k ++ ':' :: (gap' ++ s)) =
      ((.text k, v) :: (readEntries fuel depth t).1, (readEntries fuel depth t).2) := by
  simp only [textChars, List.cons_append, List.append_assoc, List.nil_append, readEntries,
    readText_textChars, hgap'.skipSpace_append, hs.skipSpace_eq, hread, hgap.skipSpace_append,
    ht.skipSpace_eq, skipSpace_cons (show isSpace ':' = false by decide),
    skipSpace_cons (show isSpace ',' = false by decide)]
  split
  next => exact absurd rfl (ht.ne_brace _)
  next => rfl

end Steps

section Printed

variable {layout : Layout} (hl : layout.IsSpacing)
include hl

theorem endsNumber_itemsChars (level : Nat) (items : List Value) (r : List Char) :
    EndsNumber (itemsChars layout level items ++ r) := by
  cases items with
  | nil =>
    rw [itemsChars, List.append_assoc]
    exact (hl.gap level).endsNumber_append (.cons (by decide))
  | cons v items =>
    rw [itemsChars]
    exact .cons (by decide)

theorem endsNumber_entriesChars (level : Nat) (entries : List (Value × Value)) (r : List Char) :
    EndsNumber (entriesChars layout level entries ++ r) := by
  cases entries with
  | nil =>
    rw [entriesChars, List.append_assoc]
    exact (hl.gap level).endsNumber_append (.cons (by decide))
  | cons e entries =>
    rw [entriesChars]
    exact .cons (by decide)

mutual

/-- A value is read back from its text in any layout, whatever follows. -/
theorem readValue_valueChars : ∀ (v : Value) (fuel depth level : Nat) (r : List Char) {room : Nat},
    v.Fits room → 2 * (valueChars layout level v).length ≤ fuel → depth + room < maxDepth →
      EndsNumber r → readValue fuel depth (valueChars layout level v ++ r) = (v, some r)
  -- Fuel is measured by the length of the text: two calls that take up fuel take up a character.
  | _, 0, _, level, _, _, h, hfuel, _, _ => by
    have hpos := length_valueChars_pos h layout level
    omega
  | .null, fuel + 1, _, _, _, _, _, _, _, _ => by simp [valueChars, readValue]
  | .bool true, fuel + 1, _, _, _, _, _, _, _, _ => by simp [valueChars, readValue]
  | .bool false, fuel + 1, _, _, _, _, _, _, _, _ => by simp [valueChars, readValue]
  | .number n, fuel + 1, _, _, _, _, h, _, _, hr => by
    rw [valueChars]
    exact readValue_numberChars h hr
  | .text s, fuel + 1, _, _, _, _, _, _, _, _ => by
    simp [valueChars, textChars, readValue, readText_textChars]
  | .list [], fuel + 1, depth, _, r, room + 1, _, _, hdepth, _ => by
    have hroom : depth + 1 < maxDepth := by omega
    simp [valueChars, readValue, skipSpace, isSpace, atDepth_of_lt hroom]
  | .list (v :: items), fuel + 1, depth, level, r, room + 1, h, hfuel, hdepth, _ => by
    obtain ⟨hv, hitems⟩ : v.Fits room ∧ Value.AllFit items room := h
    rw [valueChars] at hfuel ⊢
    simp at hfuel
    have hread := readItems_itemsChars v items fuel (depth + 1) level r hv hitems (by omega) (by omega)
    simp only [List.cons_append, List.append_assoc]
    rw [readValue_list (hl.gap _) (startsItem_valueChars hv layout _ _), hread, atDepth_of_lt (by omega)]
  | .record [], fuel + 1, depth, _, r, room + 1, _, _, hdepth, _ => by
    have hroom : depth + 1 < maxDepth := by omega
    simp [valueChars, readValue, skipSpace, isSpace, atDepth_of_lt hroom]
  | .record ((k, v) :: entries), fuel + 1, depth, level, r, room + 1, h, hfuel, hdepth, _ => by
    obtain ⟨name, rfl, hv, hentries⟩ := Value.entriesFit_cons_iff.mp h
    rw [valueChars] at hfuel ⊢
    simp at hfuel
    have hread := readEntries_entriesChars name v entries fuel (depth + 1) level r hv hentries (by omega)
      (by omega)
    simp only [valueChars, List.cons_append, List.append_assoc]
    rw [readValue_record (hl.gap _) (startsItem_textChars name _), hread, atDepth_of_lt (by omega)]
  | .unreadable, fuel + 1, _, _, _, _, h, _, _, _ => h.elim
  | .broken, fuel + 1, _, _, _, _, h, _, _, _ => h.elim
termination_by v => sizeOf v

theorem readItems_itemsChars : ∀ (v : Value) (items : List Value) (fuel depth level : Nat)
    (r : List Char) {room : Nat}, v.Fits room → Value.AllFit items room →
      2 * ((valueChars layout (level + 1) v).length + (itemsChars layout level items).length) ≤ fuel →
        depth + room < maxDepth →
          readItems fuel depth
            (valueChars layout (level + 1) v ++ (itemsChars layout level items ++ r)) =
              (v :: items, some r)
  | _, _, 0, _, level, _, _, hv, _, hfuel, _ => by
    have hpos := length_valueChars_pos hv layout (level + 1)
    omega
  | v, [], fuel + 1, depth, level, r, _, hv, _, hfuel, hdepth => by
    have hends := endsNumber_itemsChars hl level [] r
    rw [itemsChars, List.append_assoc] at hends ⊢
    simp [itemsChars] at hfuel
    exact readItems_last (hl.gap level)
      (readValue_valueChars v fuel depth (level + 1) _ hv (by omega) hdepth hends)
  | v, w :: items, fuel + 1, depth, level, r, room, hv, hitems, hfuel, hdepth => by
    obtain ⟨hw, hitems⟩ : w.Fits room ∧ Value.AllFit items room := hitems
    simp [itemsChars] at hfuel
    have hread := readValue_valueChars v fuel depth (level + 1) _ hv (by omega) hdepth
      (endsNumber_itemsChars hl level (w :: items) r)
    have hrest := readItems_itemsChars w items fuel depth level r hw hitems (by omega) hdepth
    simp only [itemsChars, List.cons_append, List.append_assoc] at hread ⊢
    rw [readItems_more (hl.gap _) hread (startsItem_valueChars hw layout _ _), hrest]
termination_by v items => sizeOf v + sizeOf items

theorem readEntries_entriesChars : ∀ (k : String) (v : Value) (entries : List (Value × Value))
    (fuel depth level : Nat) (r : List Char) {room : Nat}, v.Fits room → Value.EntriesFit entries room →
      2 * ((valueChars layout (level + 1) v).length + (entriesChars layout level entries).length) ≤ fuel →
        depth + room < maxDepth →
          readEntries fuel depth (textChars k ++ ':' :: (layout.afterColon ++
            (valueChars layout (level + 1) v ++ (entriesChars layout level entries ++ r)))) =
              ((.text k, v) :: entries, some r)
  | _, _, _, 0, _, level, _, _, hv, _, hfuel, _ => by
    have hpos := length_valueChars_pos hv layout (level + 1)
    omega
  | _, v, [], fuel + 1, depth, level, r, _, hv, _, hfuel, hdepth => by
    have hends := endsNumber_entriesChars hl level [] r
    rw [entriesChars, List.append_assoc] at hends ⊢
    simp [entriesChars] at hfuel
    exact readEntries_last (hl.gap level) hl.afterColon (startsItem_valueChars hv layout _ _)
      (readValue_valueChars v fuel depth (level + 1) _ hv (by omega) hdepth hends)
  | _, v, (k', w) :: entries, fuel + 1, depth, level, r, room, hv, hentries, hfuel, hdepth => by
    obtain ⟨name, rfl, hw, hentries⟩ := Value.entriesFit_cons_iff.mp hentries
    simp [entriesChars] at hfuel
    have hread := readValue_valueChars v fuel depth (level + 1) _ hv (by omega) hdepth
      (endsNumber_entriesChars hl level ((.text name, w) :: entries) r)
    have hrest := readEntries_entriesChars name w entries fuel depth level r hw hentries (by omega) hdepth
    have hstart := startsItem_valueChars hv layout (level + 1)
      (entriesChars layout level ((.text name, w) :: entries) ++ r)
    simp only [entriesChars, valueChars, List.cons_append, List.append_assoc] at hread hstart ⊢
    rw [readEntries_more (hl.gap _) hl.afterColon hstart hread (startsItem_textChars name _), hrest]
termination_by _ v entries => sizeOf v + sizeOf entries

end

/-- A value is read back from its text in any layout, also if space follows. -/
theorem read_print {v : Value} {room : Nat} (h : v.Fits room) (hroom : room < maxDepth)
    {rest : String} (hrest : IsSpacing rest.toList) : read (print layout v ++ rest) = ⟨v, false⟩ := by
  have hread := readValue_valueChars hl v
    (2 * (valueChars layout 0 v ++ rest.toList).length + 2) 0 0 rest.toList h
    (by rw [List.length_append]; omega) (by omega)
    (by simpa using hrest.endsNumber_append endsNumber_nil)
  have hafter : skipSpace rest.toList = [] := by
    simpa [skipSpace] using hrest.skipSpace_append []
  simp only [read, print, String.toList_append, String.toList_ofList,
    (startsItem_valueChars h layout 0 _).skipSpace_eq, hread, hafter]
  rfl

end Printed

/-- To decode the text of a document is to decode the document. -/
theorem decode_compact {α : Type} [Coded α] {v : Value} {room : Nat} (h : v.Fits room)
    (hroom : room < maxDepth) : (decode (compact v) : Except DecodeError α) = Coded.decode .direct v := by
  have hread : read (print .compact v ++ "") = ⟨v, false⟩ :=
    read_print Layout.isSpacing_compact h hroom isSpacing_nil
  rw [String.append_empty] at hread
  simp only [decode, compact, hread]
  cases (Coded.decode .direct v : Except DecodeError α) <;> rfl

end Json

end GroupPolicy

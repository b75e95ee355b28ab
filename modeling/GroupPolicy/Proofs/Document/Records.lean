import GroupPolicy.Document.Embedded
import GroupPolicy.Proofs.Document.JsonText

namespace GroupPolicy

namespace Value

mutual

theorem Fits.mono : ∀ {v : Value} {room room' : Nat}, v.Fits room → room ≤ room' → v.Fits room'
  | .number (.integer true _), _, _, h, _ => h
  | .number (.integer false _), _, _, h, _ => h
  | .list _, _ + 1, _ + 1, h, hle => AllFit.mono h (Nat.le_of_succ_le_succ hle)
  | .record _, _ + 1, _ + 1, h, hle => EntriesFit.mono h (Nat.le_of_succ_le_succ hle)
  | .null, _, _, h, _ => h
  | .bool _, _, _, h, _ => h
  | .text _, _, _, h, _ => h

theorem AllFit.mono : ∀ {vs : List Value} {room room' : Nat}, AllFit vs room → room ≤ room' →
    AllFit vs room'
  | [], _, _, h, _ => h
  | _ :: _, _, _, h, hle => ⟨Fits.mono h.1 hle, AllFit.mono h.2 hle⟩

theorem EntriesFit.mono : ∀ {es : List (Value × Value)} {room room' : Nat}, EntriesFit es room →
    room ≤ room' → EntriesFit es room'
  | [], _, _, h, _ => h
  | (.text _, _) :: _, _, _, h, hle => ⟨Fits.mono h.1 hle, EntriesFit.mono h.2 hle⟩

end

mutual

/-- What can be read back can be taken in whole. -/
theorem isReadable_of_fits : ∀ {v : Value} {room : Nat}, v.Fits room → v.isReadable = true
  | .number (.integer _ _), _, _ => rfl
  | .list _, _ + 1, h => areReadable_of_allFit h
  | .record _, _ + 1, h => entriesReadable_of_entriesFit h
  | .null, _, _ => rfl
  | .bool _, _, _ => rfl
  | .text _, _, _ => rfl

theorem areReadable_of_allFit : ∀ {vs : List Value} {room : Nat}, AllFit vs room →
    areReadable vs = true
  | [], _, _ => rfl
  | _ :: _, _, h => by simp [areReadable, isReadable_of_fits h.1, areReadable_of_allFit h.2]

theorem entriesReadable_of_entriesFit : ∀ {es : List (Value × Value)} {room : Nat},
    EntriesFit es room → entriesReadable es = true
  | [], _, _ => rfl
  | (.text _, _) :: _, _, h => by
    simp [entriesReadable, isReadable, isReadable_of_fits h.1, entriesReadable_of_entriesFit h.2]

end

/-- The entries of a record with text keys. -/
def keyed (es : List (String × Value)) : List (Value × Value) := es.map fun e => (.text e.1, e.2)

theorem keyed_cons (e : String × Value) (es : List (String × Value)) :
    keyed (e :: es) = (.text e.1, e.2) :: keyed es := rfl

theorem keyed_append (es fs : List (String × Value)) : keyed (es ++ fs) = keyed es ++ keyed fs :=
  List.map_append

theorem fits_list {vs : List Value} {room : Nat} (h : ∀ v ∈ vs, v.Fits room) :
    (Value.list vs).Fits (room + 1) := by
  show AllFit vs room
  induction vs with
  | nil => trivial
  | cons v vs ih => exact ⟨h v List.mem_cons_self, ih fun w hw => h w (List.mem_cons_of_mem v hw)⟩

theorem fits_object {es : List (String × Value)} {room : Nat} (h : ∀ e ∈ es, e.2.Fits room) :
    (Value.object es).Fits (room + 1) := by
  show EntriesFit (keyed es) room
  induction es with
  | nil => trivial
  | cons e es ih => exact ⟨h e List.mem_cons_self, ih fun x hx => h x (List.mem_cons_of_mem e hx)⟩

theorem fits_int {i : Int} {room : Nat} (hleast : -9223372036854775808 ≤ i)
    (hgreatest : i ≤ 18446744073709551615) : (Value.int i).Fits room := by
  unfold Value.int
  by_cases hi : i < 0
  · rw [decide_eq_true hi]
    show 0 < i.natAbs ∧ i.natAbs ≤ 2 ^ 63
    omega
  · rw [decide_eq_false hi]
    show i.natAbs < 2 ^ 64
    omega

end Value

/-- A type whose values are read back from the documents that describe them, however they are read. The
documents can be written as text, with no more than `room` lists and records nested in each other, and
never stand for an absent value. -/
class Lossless (α : Type) [Coded α] (room : outParam Nat) : Prop where
  decode_encode (r : Reading) (a : α) : Coded.decode r (Coded.encode a) = .ok a
  fits_encode (a : α) : (Coded.encode a).Fits room
  encode_ne_null (a : α) : Coded.encode a ≠ .null

namespace Lossless

variable {α : Type} [Coded α] {room : Nat}

theorem decode_encode_some [Lossless α room] (r : Reading) (a : α) :
    Coded.decode r (Coded.encode a) = (.ok (some a) : Except DecodeError (Option α)) := by
  have hsome : (Coded.decode r (Coded.encode a) : Except DecodeError (Option α)) =
      some <$> (Coded.decode r (Coded.encode a) : Except DecodeError α) := by
    conv => lhs; simp only [Coded.decode]
    split
    next hnull => exact absurd hnull (encode_ne_null a)
    next => rfl
  rw [hsome, decode_encode]
  rfl

/-- A value is read back from the text of its document. -/
theorem decode_compact_encode [Lossless α room] (h : room < Json.maxDepth) (a : α) :
    Json.decode (Json.compact (Coded.encode a)) = .ok a := by
  rw [Json.decode_compact (fits_encode a) h, decode_encode]

/-- Values that are written as the same text are the same. -/
theorem compact_encode_inj [Lossless α room] (h : room < Json.maxDepth) {a b : α} :
    Json.compact (Coded.encode a) = Json.compact (Coded.encode b) ↔ a = b := by
  refine ⟨fun heq => ?_, fun heq => heq ▸ rfl⟩
  have hdecode := decode_compact_encode h a
  rw [heq, decode_compact_encode h b] at hdecode
  exact (Except.ok.inj hdecode).symm

instance : Lossless String 0 where
  decode_encode _ _ := rfl
  fits_encode _ := trivial
  encode_ne_null _ := nofun

instance : Lossless Bool 0 where
  decode_encode _ _ := rfl
  fits_encode _ := trivial
  encode_ne_null _ := nofun

/-- Whole numbers between two bounds are read back. -/
theorem ofInteger (toInt : α → Int) (ofInt : Int → α) (least greatest : Int) (expected : String)
    (hdecode : ∀ r v, Coded.decode r v = (Coded.integer v least greatest expected).map ofInt)
    (hencode : ∀ a : α, Coded.encode a = .int (toInt a)) (hofInt : ∀ a, ofInt (toInt a) = a)
    (hbounds : ∀ a, least ≤ toInt a ∧ toInt a ≤ greatest)
    (hword : -9223372036854775808 ≤ least ∧ greatest ≤ 18446744073709551615) : Lossless α 0 where
  decode_encode r a := by
    have hinteger : Coded.integer (.int (toInt a)) least greatest expected = .ok (toInt a) := by
      simp [Coded.integer, Value.int, Value.signed_natAbs, hbounds a]
    rw [hencode, hdecode, hinteger, Except.map, hofInt]
  fits_encode a := by
    have ha := hbounds a
    rw [hencode]
    exact Value.fits_int (by omega) (by omega)
  encode_ne_null a := by
    rw [hencode]
    exact nofun

instance : Lossless UInt8 0 :=
  ofInteger (fun n => n.toNat) (fun i => .ofNat i.toNat) 0 255 "u8" (fun _ _ => rfl) (fun _ => rfl)
    (by simp) (fun n => by have hn := n.toNat_lt; omega) (by omega)

instance : Lossless UInt16 0 :=
  ofInteger (fun n => n.toNat) (fun i => .ofNat i.toNat) 0 65535 "u16" (fun _ _ => rfl) (fun _ => rfl)
    (by simp) (fun n => by have hn := n.toNat_lt; omega) (by omega)

instance : Lossless UInt32 0 :=
  ofInteger (fun n => n.toNat) (fun i => .ofNat i.toNat) 0 4294967295 "u32" (fun _ _ => rfl)
    (fun _ => rfl) (by simp) (fun n => by have hn := n.toNat_lt; omega) (by omega)

instance : Lossless UInt64 0 :=
  ofInteger (fun n => n.toNat) (fun i => .ofNat i.toNat) 0 18446744073709551615 "u64" (fun _ _ => rfl)
    (fun _ => rfl) (by simp) (fun n => by have hn := n.toNat_lt; omega) (by omega)

instance : Lossless Int64 0 :=
  ofInteger Int64.toInt Int64.ofInt (-9223372036854775808) 9223372036854775807 "i64" (fun _ _ => rfl)
    (fun _ => rfl) (by simp) (fun n => ⟨n.le_toInt, Int.le_of_lt_add_one n.toInt_lt⟩) (by omega)

instance [Lossless α room] : Lossless (List α) (room + 1) where
  decode_encode r l := by
    show (l.map Coded.encode).mapM (Coded.decode r) = .ok l
    induction l with
    | nil => rfl
    | cons a l ih =>
      rw [List.map_cons, List.mapM_cons, decode_encode, ih]
      rfl
  fits_encode l := by
    apply Value.fits_list
    intro v hv
    obtain ⟨a, -, rfl⟩ := List.mem_map.mp hv
    exact fits_encode a
  encode_ne_null _ := nofun

end Lossless

namespace Fields

variable {σ τ α β : Type}

/-- Whether the names of fields are the names of the entries that they take. -/
class IsNamed (s : Fields σ α) : Prop where
  fill_eq_none_iff (r : Reading) (name : String) (v : Value) (slots : σ) :
    s.fill r name v slots = none ↔ name ∉ s.names

theorem fill_eq_none {s : Fields σ α} [IsNamed s] {r : Reading} {name : String} {v : Value} {slots : σ}
    (h : name ∉ s.names) : s.fill r name v slots = none :=
  (IsNamed.fill_eq_none_iff r name v slots).mpr h

instance isNamed_one (f : Field α) : IsNamed (one f) where
  fill_eq_none_iff r name v slots := by
    simp only [one, names, List.map_cons, List.map_nil, List.mem_singleton]
    split
    next => cases slots <;> simp_all
    next => simp_all

instance [Coded α] (name : String) : IsNamed (required α name) := isNamed_one _

instance [Coded α] (name : String) : IsNamed (optional α name) := isNamed_one _

instance [Coded α] (name : String) (value : α) : IsNamed (defaulted α name value) := isNamed_one _

theorem names_and (s : Fields σ α) (t : Fields τ β) : (s.and t).names = s.names ++ t.names :=
  List.map_append

theorem nodup_names_and {s : Fields σ α} {t : Fields τ β} : (s.and t).names.Nodup ↔
    s.names.Nodup ∧ t.names.Nodup ∧ ∀ name ∈ s.names, name ∉ t.names := by
  rw [names_and, List.nodup_append]
  refine and_congr_right fun _ => and_congr_right fun _ => ⟨fun h name hs ht => h name hs name ht rfl, ?_⟩
  rintro h name hs _ ht rfl
  exact h name hs ht

instance isNamed_and (s : Fields σ α) (t : Fields τ β) [hs : IsNamed s] [ht : IsNamed t] :
    IsNamed (s.and t) where
  fill_eq_none_iff r name v slots := by
    rw [names_and, List.mem_append, not_or, ← hs.fill_eq_none_iff r name v slots.1,
      ← ht.fill_eq_none_iff r name v slots.2]
    simp only [and]
    cases s.fill r name v slots.1 <;> simp

theorem keyName_text (names : List String) (r : Reading) (name : String) :
    keyName names r (.text name) = .ok name := by
  cases r <;> rfl

theorem entry_of_fill {s : Fields σ α} {r : Reading} {name : String} {v : Value} {slots : σ}
    {result : Except DecodeError σ} (h : s.fill r name v slots = some result) :
    s.entry r slots (.text name, v) = result := by
  simp only [entry, keyName_text, h, bind, Except.bind]

/-- The slots of fields before and after some entries, all of which they take. -/
inductive Filled (s : Fields σ α) (r : Reading) : σ → List (String × Value) → σ → Prop where
  | nil (slots : σ) : Filled s r slots [] slots
  | cons {slots next last : σ} {name : String} {v : Value} {es : List (String × Value)} :
    s.fill r name v slots = some (.ok next) → Filled s r next es last →
      Filled s r slots ((name, v) :: es) last

namespace Filled

variable {s : Fields σ α} {t : Fields τ β} {r : Reading} {slots next last : σ}
  {es fs : List (String × Value)}

theorem append (hes : Filled s r slots es next) (hfs : Filled s r next fs last) :
    Filled s r slots (es ++ fs) last := by
  induction hes with
  | nil => exact hfs
  | cons hfill _ ih => exact .cons hfill (ih hfs)

theorem and_left (h : Filled s r slots es next) (others : τ) :
    Filled (s.and t) r (slots, others) es (next, others) := by
  induction h with
  | nil => exact .nil _
  | cons hfill _ ih => exact .cons (by simp [and, hfill, Except.map]) ih

theorem mem_names [IsNamed s] (h : Filled s r slots es next) : ∀ e ∈ es, e.1 ∈ s.names := by
  induction h with
  | nil => exact nofun
  | @cons _ _ _ name _ _ hfill _ ih =>
    intro e he
    rcases List.mem_cons.mp he with rfl | he
    · by_cases hname : name ∈ s.names
      · exact hname
      · rw [fill_eq_none hname] at hfill
        cases hfill
    · exact ih e he

theorem and_right [IsNamed s] {others others' : τ} (h : Filled t r others fs others')
    (hnames : ∀ e ∈ fs, e.1 ∉ s.names) : Filled (s.and t) r (slots, others) fs (slots, others') := by
  induction h with
  | nil => exact .nil _
  | @cons _ _ _ name v _ hfill _ ih =>
    have hskip : s.fill r name v slots = none := fill_eq_none (hnames _ List.mem_cons_self)
    refine .cons ?_ (ih fun e he => hnames e (List.mem_cons_of_mem _ he))
    simp [and, hskip, hfill, Except.map]

theorem foldlM_entry (h : Filled s r slots es next) :
    (Value.keyed es).foldlM (s.entry r) slots = .ok next := by
  induction h with
  | nil => rfl
  | cons hfill _ ih =>
    rw [Value.keyed_cons, List.foldlM_cons, entry_of_fill hfill]
    exact ih

end Filled

/-- Whether the entries of a record are those of fields with the value `a`: each is taken by its
field, and together they amount to the value, as long as no two fields have the same name. -/
structure Takes (s : Fields σ α) (room : Nat) (es : List (String × Value)) (a : α) : Prop where
  filled (hnames : s.names.Nodup) (r : Reading) :
    ∃ slots, s.Filled r s.blank es slots ∧ s.finish slots = .ok a
  fits : ∀ e ∈ es, e.2.Fits room

theorem fill_one {f : Field α} {r : Reading} {v : Value} {a : α} (h : f.decode r v = .ok a) :
    (one f).fill r f.name v none = some (.ok (some a)) := by
  show (if f.name = f.name then some (some <$> f.decode r v) else none) = _
  rw [if_pos rfl, h]
  rfl

theorem fits_written [Coded α] {name : String} {a : α} {room : Nat} (h : (Coded.encode a).Fits room) :
    ∀ e ∈ written name a, e.2.Fits room := by
  intro e he
  obtain rfl := List.mem_singleton.mp he
  exact h

theorem takes_written [Coded α] {room : Nat} [Lossless α room] {name : String} {absent : Option α}
    {shape : Shape} (a : α) :
    (one ⟨name, shape, Coded.decode, absent⟩).Takes room (written name a) a where
  filled _ r := ⟨some a, .cons (fill_one (Lossless.decode_encode r a)) (.nil _), rfl⟩
  fits := fits_written (Lossless.fits_encode a)

theorem takes_writtenSome [Coded α] {room : Nat} [Lossless α room] {name : String} (a : Option α) :
    (optional α name).Takes room (writtenSome name a) a := by
  cases a with
  | none => exact ⟨fun _ _ => ⟨none, .nil _, rfl⟩, nofun⟩
  | some a =>
    refine ⟨fun _ r => ⟨some (some a), .cons ?_ (.nil _), rfl⟩, ?_⟩
    · exact fill_one (Lossless.decode_encode_some r a)
    · exact fits_written (Lossless.fits_encode a)

theorem takes_writtenNonempty [Coded α] {room : Nat} [Lossless α room] {name : String} (l : List α) :
    (defaulted (List α) name []).Takes (room + 1) (writtenNonempty name l) l := by
  cases l with
  | nil => exact ⟨fun _ _ => ⟨none, .nil _, rfl⟩, nofun⟩
  | cons a l => exact takes_written (a :: l)

namespace Takes

variable {s : Fields σ α} {t : Fields τ β} {room room' : Nat} {es fs : List (String × Value)} {a : α}
  {b : β}

theorem mono (h : s.Takes room es a) (hle : room ≤ room') : s.Takes room' es a :=
  ⟨h.filled, fun e he => (h.fits e he).mono hle⟩

theorem mem_names [IsNamed s] (h : s.Takes room es a) (hnames : s.names.Nodup) :
    ∀ e ∈ es, e.1 ∈ s.names := by
  obtain ⟨_, hfilled, -⟩ := h.filled hnames .direct
  exact hfilled.mem_names

theorem and [IsNamed s] [IsNamed t] (hs : s.Takes room es a) (ht : t.Takes room' fs b) :
    (s.and t).Takes (max room room') (es ++ fs) (a, b) where
  filled hnames r := by
    obtain ⟨hnodup, hnodup', hdisjoint⟩ := nodup_names_and.mp hnames
    obtain ⟨slots, hes, ha⟩ := hs.filled hnodup r
    obtain ⟨others, hfs, hb⟩ := ht.filled hnodup' r
    -- The first fields pass over the entries of the others, whose names are not theirs.
    refine ⟨(slots, others), (hes.and_left _).append (hfs.and_right ?_), ?_⟩
    · intro e he hmem
      exact hdisjoint e.1 hmem (hfs.mem_names e he)
    · show (do
        let a ← s.finish slots
        let b ← t.finish others
        return (a, b)) = _
      rw [ha, hb]
      rfl
  fits := List.forall_mem_append.mpr
    ⟨(hs.mono (Nat.le_max_left _ _)).fits, (ht.mono (Nat.le_max_right _ _)).fits⟩

end Takes

/-- Whether a document is a record with the fields' value `a` in it. -/
structure Describes (s : Fields σ α) (room : Nat) (v : Value) (a : α) : Prop where
  nodup_names : s.names.Nodup
  exists_entries : ∃ es, v = .object es ∧ s.Takes room es a

theorem Takes.describes {s : Fields σ α} {room room' : Nat} {es : List (String × Value)} {a : α}
    (hnames : s.names.Nodup) (h : s.Takes room es a) (hle : room ≤ room') :
    s.Describes room' (.object es) a :=
  ⟨hnames, es, rfl, h.mono hle⟩

namespace Describes

variable {s : Fields σ α} {room : Nat} {v : Value} {a : α}

theorem read (h : s.Describes room v a) (title : String) (r : Reading) : s.read title r v = .ok a := by
  obtain ⟨hnames, es, rfl, htakes⟩ := h
  obtain ⟨slots, hfilled, hfinish⟩ := htakes.filled hnames r
  show s.ofEntries r (Value.keyed es) = .ok a
  rw [ofEntries, hfilled.foldlM_entry]
  exact hfinish

theorem fits (h : s.Describes room v a) : v.Fits (room + 1) := by
  obtain ⟨-, es, rfl, htakes⟩ := h
  exact Value.fits_object htakes.fits

/-- A type is read back if its documents describe the values of some fields. -/
theorem lossless [Coded β] {part : β → α} (h : ∀ b, s.Describes room (Coded.encode b) (part b))
    (hdecode : ∀ r (b : β), Coded.decode r (Coded.encode b) = .ok b) : Lossless β (room + 1) where
  decode_encode := hdecode
  fits_encode b := (h b).fits
  encode_ne_null b := by
    obtain ⟨-, es, heq, -⟩ := h b
    rw [heq]
    exact nofun

end Describes

section Embedded

variable {outer : Fields σ α} {embedded : Fields τ β} {r : Reading} {slots next : σ} {name : String}
  {v : Value} {es fs : List (String × Value)} {others : List (Value × Value)} {room : Nat}

theorem buffer_of_fits (h : v.Fits room) : buffer v = .ok v :=
  if_pos (Value.isReadable_of_fits h)

theorem outerEntry_of_fill (h : outer.fill r name v slots = some (.ok next)) :
    outer.outerEntry r (slots, others) (.text name, v) = .ok (next, others) := by
  simp only [outerEntry, keyName_text, h, bind, Except.bind, pure, Except.pure]

/-- An entry that is no field of the outer record is put aside. -/
theorem outerEntry_of_not_mem [IsNamed outer] (hname : name ∉ outer.names) (hv : v.Fits room) :
    outer.outerEntry r (slots, others) (.text name, v) = .ok (slots, (.text name, v) :: others) := by
  simp only [outerEntry, keyName_text, fill_eq_none hname, buffer_of_fits hv, bind, Except.bind, pure,
    Except.pure]

theorem Filled.foldlM_outerEntry (h : Filled outer r slots fs next) :
    (Value.keyed fs).foldlM (outer.outerEntry r) (slots, others) =
      .ok (next, others) := by
  induction h with
  | nil => rfl
  | cons hfill _ ih =>
    rw [Value.keyed_cons, List.foldlM_cons, outerEntry_of_fill hfill]
    exact ih

theorem foldlM_outerEntry_of_not_mem [IsNamed outer] (hnames : ∀ e ∈ es, e.1 ∉ outer.names)
    (hfits : ∀ e ∈ es, e.2.Fits room) (r : Reading) (slots : σ) (others : List (Value × Value)) :
    (Value.keyed es).foldlM (outer.outerEntry r) (slots, others) =
      .ok (slots, (Value.keyed es).reverse ++ others) := by
  induction es generalizing others with
  | nil => rfl
  | cons e es ih =>
    obtain ⟨hname, hnames⟩ := List.forall_mem_cons.mp hnames
    obtain ⟨hfit, hfits⟩ := List.forall_mem_cons.mp hfits
    rw [Value.keyed_cons, List.foldlM_cons, outerEntry_of_not_mem hname hfit]
    refine (ih hnames hfits _).trans ?_
    simp

/-- A record that embeds another one is read back from the entries of both. -/
theorem Takes.readShared [IsNamed outer] [IsNamed embedded] {room' : Nat} {a : α} {b : β}
    (hembedded : embedded.Takes room es b) (houter : outer.Takes room' fs a)
    (hnames : (embedded.and outer).names.Nodup) (title : String) (r : Reading) :
    outer.readShared embedded title r (.object (es ++ fs)) = .ok (a, b) := by
  obtain ⟨hnodup, hnodup', hdisjoint⟩ := nodup_names_and.mp hnames
  obtain ⟨slots, hfilled, hfinish⟩ := houter.filled hnodup' r
  have hothers : ∀ e ∈ es, e.1 ∉ outer.names := fun e he =>
    hdisjoint e.1 (hembedded.mem_names hnodup e he)
  have hes := foldlM_outerEntry_of_not_mem hothers hembedded.fits r outer.blank []
  have hread : embedded.ofEntries .buffered (Value.keyed es) = .ok b :=
    (hembedded.describes hnodup (Nat.le_refl room)).read "" .buffered
  show outer.ofSharedEntries embedded r (Value.keyed (es ++ fs)) = .ok (a, b)
  -- The entries of the embedded record are put aside, the last one first, and turned round again.
  have hfold : (Value.keyed (es ++ fs)).foldlM (outer.outerEntry r) (outer.blank, []) =
      .ok (slots, (Value.keyed es).reverse ++ []) := by
    rw [Value.keyed_append, List.foldlM_append, hes]
    exact hfilled.foldlM_outerEntry
  rw [ofSharedEntries, hfold, List.append_nil]
  show (do
    let a ← outer.finish slots
    let b ← embedded.ofEntries .buffered (Value.keyed es).reverse.reverse
    return (a, b)) = _
  rw [hfinish, List.reverse_reverse, hread]
  rfl

end Embedded

end Fields

section Tagged

variable {τ : Type} {field name : String} {table : List (String × τ)} {tag : τ} {room : Nat}
  {es : List (String × Value)} {scan : TagScan τ}

theorem TagScan.entry_of_ne {v : Value} (hname : name ≠ field) (hv : v.Fits room) :
    scan.entry field table (.text name, v) =
      .ok { scan with others := (.text name, v) :: scan.others } := by
  show (if name = field then _ else do
    return { scan with others := (.text name, ← buffer v) :: scan.others }) = _
  rw [if_neg hname, Fields.buffer_of_fits hv]
  rfl

theorem TagScan.foldlM_entry (hnames : ∀ e ∈ es, e.1 ≠ field) (hfits : ∀ e ∈ es, e.2.Fits room) :
    (Value.keyed es).foldlM (TagScan.entry field table) scan =
      .ok { scan with
        others := (Value.keyed es).reverse ++ scan.others } := by
  induction es generalizing scan with
  | nil => rfl
  | cons e es ih =>
    obtain ⟨hname, hnames⟩ := List.forall_mem_cons.mp hnames
    obtain ⟨hfit, hfits⟩ := List.forall_mem_cons.mp hfits
    rw [Value.keyed_cons, List.foldlM_cons, TagScan.entry_of_ne hname hfit]
    refine (ih hnames hfits).trans ?_
    simp

/-- A tagged record is read back from its tag and the entries of its alternative. -/
theorem Fields.Takes.tagged {σ α : Type} {s : Fields σ α} [s.IsNamed] {a : α} (h : s.Takes room es a)
    (hnames : (field :: s.names).Nodup) (title : String) (hname : chosen table name = .ok tag) :
    tagged title field table (.object ((field, .text name) :: es)) = .ok (tag, .object es) := by
  obtain ⟨hfield, hnodup⟩ := List.nodup_cons.mp hnames
  have hothers : ∀ e ∈ es, e.1 ≠ field := fun e he heq => hfield (heq ▸ h.mem_names hnodup e he)
  have htag : TagScan.entry field table ⟨none, []⟩ (.text field, .text name) = .ok ⟨some tag, []⟩ := by
    show (if field = field then _ else _) = _
    rw [if_pos rfl]
    show (do
      let tag ← chosen table name
      return _) = _
    rw [hname]
    rfl
  have hfold : (Value.keyed ((field, .text name) :: es)).foldlM (TagScan.entry field table) ⟨none, []⟩ =
      .ok ⟨some tag, (Value.keyed es).reverse ++ []⟩ := by
    rw [Value.keyed_cons, List.foldlM_cons, htag]
    exact TagScan.foldlM_entry hothers h.fits
  show (Value.keyed ((field, .text name) :: es)).foldlM (TagScan.entry field table) ⟨none, []⟩ >>= _ = _
  rw [hfold, List.append_nil]
  show Except.ok (tag, Value.record (Value.keyed es).reverse.reverse) = _
  rw [List.reverse_reverse]
  rfl

theorem Fields.Takes.fits_tagged {σ α : Type} {s : Fields σ α} {a : α} (h : s.Takes room es a) :
    (Value.object ((field, .text name) :: es)).Fits (room + 1) :=
  Value.fits_object (List.forall_mem_cons.mpr ⟨trivial, h.fits⟩)

end Tagged

end GroupPolicy

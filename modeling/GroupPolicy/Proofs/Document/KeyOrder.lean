import GroupPolicy.Document.KeyOrder
import GroupPolicy.Proofs.Document.JsonText

namespace GroupPolicy.Value

mutual

/-- Whether one document is another one with the entries of its records in some other order. -/
inductive Reorders : Value → Value → Prop where
  | same (v : Value) : Reorders v v
  | list {vs ws : List Value} (h : ItemsReorder vs ws) : Reorders (.list vs) (.list ws)
  | record {es fs : List (Value × Value)} (h : EntriesReorder es fs) : Reorders (.record es) (.record fs)

/-- Whether this is so item by item. -/
inductive ItemsReorder : List Value → List Value → Prop where
  | nil : ItemsReorder [] []
  | cons {v w : Value} {vs ws : List Value} (h : Reorders v w) (hrest : ItemsReorder vs ws) :
    ItemsReorder (v :: vs) (w :: ws)

/-- Whether every entry is found under its key, wherever it stands among the others. -/
inductive EntriesReorder : List (Value × Value) → List (Value × Value) → Prop where
  | nil : EntriesReorder [] []
  | cons {k v w : Value} {es before after : List (Value × Value)} (h : Reorders v w)
    (hrest : EntriesReorder es (before ++ after)) :
    EntriesReorder ((k, v) :: es) (before ++ (k, w) :: after)

end

mutual

/-- Whether every record of a document has its entries by name. -/
def IsByName : Value → Prop
  | .list items => AllByName items
  | .record entries =>
    (entries.Pairwise fun e f => ∀ a b, e.1 = .text a → f.1 = .text b → a ≤ b) ∧ EntriesByName entries
  | _ => True

/-- Whether every record in some items has its entries by name. -/
def AllByName : List Value → Prop
  | [] => True
  | v :: r => IsByName v ∧ AllByName r

/-- Whether every record in the values of some entries has its entries by name. -/
def EntriesByName : List (Value × Value) → Prop
  | [] => True
  | (_, v) :: r => IsByName v ∧ EntriesByName r

end

theorem exists_placeEntry (e : Value × Value) (es : List (Value × Value)) :
    ∃ before after, es = before ++ after ∧ placeEntry e es = before ++ e :: after := by
  induction es with
  | nil => exact ⟨[], [], rfl, rfl⟩
  | cons x es ih =>
    by_cases h : keyText e.1 < keyText x.1
    · exact ⟨[], x :: es, rfl, by rw [placeEntry, if_pos h]; rfl⟩
    · obtain ⟨before, after, hes, hplaced⟩ := ih
      refine ⟨x :: before, after, by rw [hes]; rfl, ?_⟩
      rw [placeEntry, if_neg h, hplaced]
      rfl

theorem mem_placeEntry {e x : Value × Value} {es : List (Value × Value)} :
    x ∈ placeEntry e es ↔ x = e ∨ x ∈ es := by
  obtain ⟨before, after, rfl, hplaced⟩ := exists_placeEntry e es
  simp only [hplaced, List.mem_append, List.mem_cons]
  exact or_left_comm

theorem pairwise_placeEntry {e : Value × Value} {es : List (Value × Value)}
    (h : es.Pairwise fun e f => keyText e.1 ≤ keyText f.1) :
    (placeEntry e es).Pairwise fun e f => keyText e.1 ≤ keyText f.1 := by
  induction es with
  | nil => exact List.pairwise_singleton _ _
  | cons x es ih =>
    obtain ⟨hx, hes⟩ := List.pairwise_cons.mp h
    rw [placeEntry]
    split
    next hlt =>
      have hle : keyText e.1 ≤ keyText x.1 := Std.le_of_lt hlt
      refine List.pairwise_cons.mpr ⟨fun f hf => ?_, h⟩
      rcases List.mem_cons.mp hf with rfl | hf
      · exact hle
      · exact String.le_trans hle (hx f hf)
    next hlt =>
      refine List.pairwise_cons.mpr ⟨fun f hf => ?_, ih hes⟩
      rcases mem_placeEntry.mp hf with rfl | hf
      · exact String.not_lt.mp hlt
      · exact hx f hf

theorem entriesByName_iff {es : List (Value × Value)} : EntriesByName es ↔ ∀ e ∈ es, e.2.IsByName := by
  induction es with
  | nil => simp [EntriesByName]
  | cons e es ih => simp [EntriesByName, ih]

mutual

/-- Putting the entries of records in order changes nothing but their order. -/
theorem reorders_keyOrdered : ∀ v : Value, v.Reorders v.keyOrdered
  | .list items => .list (itemsReorder_keyOrdered items)
  | .record entries => .record (entriesReorder_keyOrdered entries)
  | .null => .same _
  | .bool _ => .same _
  | .number _ => .same _
  | .text _ => .same _
  | .unreadable => .same _
  | .broken => .same _

theorem itemsReorder_keyOrdered : ∀ items : List Value, ItemsReorder items (itemsKeyOrdered items)
  | [] => .nil
  | v :: r => .cons (reorders_keyOrdered v) (itemsReorder_keyOrdered r)

theorem entriesReorder_keyOrdered :
    ∀ es : List (Value × Value), EntriesReorder es (entriesKeyOrdered es)
  | [] => .nil
  | (k, v) :: r => by
    obtain ⟨before, after, hrest, hplaced⟩ := exists_placeEntry (k, v.keyOrdered) (entriesKeyOrdered r)
    have hr := entriesReorder_keyOrdered r
    rw [hrest] at hr
    rw [entriesKeyOrdered, hplaced]
    exact .cons (reorders_keyOrdered v) hr

end

mutual

theorem isByName_keyOrdered : ∀ v : Value, v.keyOrdered.IsByName
  | .list items => allByName_keyOrdered items
  | .record entries => by
    refine ⟨(pairwise_entriesKeyOrdered entries).imp fun {e f} hle a b ha hb => ?_,
      entriesByName_keyOrdered entries⟩
    rwa [ha, hb] at hle
  | .null => trivial
  | .bool _ => trivial
  | .number _ => trivial
  | .text _ => trivial
  | .unreadable => trivial
  | .broken => trivial

theorem allByName_keyOrdered : ∀ items : List Value, AllByName (itemsKeyOrdered items)
  | [] => trivial
  | v :: r => ⟨isByName_keyOrdered v, allByName_keyOrdered r⟩

theorem pairwise_entriesKeyOrdered : ∀ es : List (Value × Value),
    (entriesKeyOrdered es).Pairwise fun e f => keyText e.1 ≤ keyText f.1
  | [] => .nil
  | (_, _) :: r => pairwise_placeEntry (pairwise_entriesKeyOrdered r)

theorem entriesByName_keyOrdered : ∀ es : List (Value × Value), EntriesByName (entriesKeyOrdered es)
  | [] => trivial
  | (k, v) :: r => by
    rw [entriesKeyOrdered, entriesByName_iff]
    intro e he
    rcases mem_placeEntry.mp he with rfl | he
    · exact isByName_keyOrdered v
    · exact entriesByName_iff.mp (entriesByName_keyOrdered r) e he

end

theorem entriesFit_append_cons_iff {k v : Value} {before after : List (Value × Value)} {room : Nat} :
    EntriesFit (before ++ (k, v) :: after) room ↔
      (∃ name, k = .text name) ∧ v.Fits room ∧ EntriesFit (before ++ after) room := by
  induction before with
  | nil => simp only [List.nil_append, entriesFit_cons_iff, exists_and_right]
  | cons e before ih =>
    obtain ⟨j, u⟩ := e
    simp only [List.cons_append, entriesFit_cons_iff, ih, exists_and_right]
    constructor
    · rintro ⟨hj, hu, hk, hv, hrest⟩
      exact ⟨hk, hv, hj, hu, hrest⟩
    · rintro ⟨hk, hv, hj, hu, hrest⟩
      exact ⟨hj, hu, hk, hv, hrest⟩

mutual

/-- A document can be read back whatever the order of its entries. -/
theorem Reorders.fits : ∀ {v w : Value} {room : Nat}, v.Reorders w → v.Fits room → w.Fits room
  | _, _, _, .same _, h => h
  | _, _, _ + 1, .list hitems, h => hitems.allFit h
  | _, _, _ + 1, .record hentries, h => hentries.entriesFit h

theorem ItemsReorder.allFit : ∀ {vs ws : List Value} {room : Nat}, ItemsReorder vs ws →
    AllFit vs room → AllFit ws room
  | _, _, _, .nil, _ => trivial
  | _, _, _, .cons hv hrest, h => ⟨hv.fits h.1, hrest.allFit h.2⟩

theorem EntriesReorder.entriesFit : ∀ {es fs : List (Value × Value)} {room : Nat},
    EntriesReorder es fs → EntriesFit es room → EntriesFit fs room
  | _, _, _, .nil, _ => trivial
  | _, _, _, .cons hv hrest, h => by
    obtain ⟨name, hname, hfits, hes⟩ := entriesFit_cons_iff.mp h
    exact entriesFit_append_cons_iff.mpr ⟨⟨name, hname⟩, hv.fits hfits, hrest.entriesFit hes⟩

end

end GroupPolicy.Value

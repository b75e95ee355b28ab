namespace GroupPolicy

/-- A finite map whose entries stand in strictly ascending key order. -/
structure SortedMap (κ ν : Type) [Ord κ] where
  /-- The entries, by ascending key. -/
  toList : List (κ × ν)
  /-- Every key is smaller than those after it. -/
  sorted : toList.Pairwise fun a b => compare a.1 b.1 = .lt

namespace SortedMap

variable {κ ν : Type} [Ord κ]

theorem ext_toList {m n : SortedMap κ ν} (h : m.toList = n.toList) : m = n := by
  cases m
  cases n
  subst h
  rfl

instance [DecidableEq κ] [DecidableEq ν] : DecidableEq (SortedMap κ ν) := fun m n =>
  if h : m.toList = n.toList then isTrue (ext_toList h)
  else isFalse fun heq => h (heq ▸ rfl)

/-- The map without entries. -/
def empty : SortedMap κ ν := ⟨[], .nil⟩

instance : EmptyCollection (SortedMap κ ν) := ⟨empty⟩

instance : Inhabited (SortedMap κ ν) := ⟨empty⟩

/-- The keys, in ascending order. -/
def keys (m : SortedMap κ ν) : List κ := m.toList.map (·.1)

/-- The values, by ascending key. -/
def values (m : SortedMap κ ν) : List ν := m.toList.map (·.2)

/-- The number of entries. -/
def size (m : SortedMap κ ν) : Nat := m.toList.length

/-- Whether there is no entry. -/
def isEmpty (m : SortedMap κ ν) : Bool := m.toList.isEmpty

/-- The value at a key. -/
def get? (m : SortedMap κ ν) (k : κ) : Option ν :=
  (m.toList.find? fun e => compare k e.1 == .eq).map (·.2)

/-- Whether the map has an entry at a key. -/
def contains (m : SortedMap κ ν) (k : κ) : Bool := (m.get? k).isSome

/-- An ascending list with one entry put in its place, where it replaces an entry of its key. -/
def insertEntry (k : κ) (v : ν) : List (κ × ν) → List (κ × ν)
  | [] => [(k, v)]
  | e :: r =>
    match compare k e.1 with
    | .lt => (k, v) :: e :: r
    | .eq => (k, v) :: r
    | .gt => e :: insertEntry k v r

theorem mem_insertEntry {k : κ} {v : ν} {l : List (κ × ν)} {e : κ × ν}
    (h : e ∈ insertEntry k v l) : e = (k, v) ∨ e ∈ l := by
  induction l with
  | nil => simpa [insertEntry] using h
  | cons a r ih =>
    unfold insertEntry at h
    split at h
    · simpa using h
    · simp only [List.mem_cons] at h ⊢
      rcases h with h | h
      · exact .inl h
      · exact .inr (.inr h)
    · simp only [List.mem_cons] at h ⊢
      rcases h with h | h
      · exact .inr (.inl h)
      · rcases ih h with h | h
        · exact .inl h
        · exact .inr (.inr h)

theorem pairwise_insertEntry [Std.TransOrd κ] [Std.LawfulEqOrd κ] {k : κ} {v : ν}
    {l : List (κ × ν)} (h : l.Pairwise fun a b => compare a.1 b.1 = .lt) :
    (insertEntry k v l).Pairwise fun a b => compare a.1 b.1 = .lt := by
  induction l with
  | nil => simp [insertEntry]
  | cons a r ih =>
    obtain ⟨hhead, htail⟩ := List.pairwise_cons.mp h
    unfold insertEntry
    split
    next hlt =>
      refine List.pairwise_cons.mpr ⟨fun b hb => ?_, h⟩
      rcases List.mem_cons.mp hb with rfl | hb
      · exact hlt
      · exact Std.TransCmp.lt_trans hlt (hhead b hb)
    next heq =>
      have hk : k = a.1 := Std.LawfulEqOrd.eq_of_compare heq
      exact List.pairwise_cons.mpr ⟨fun b hb => hk ▸ hhead b hb, htail⟩
    next hgt =>
      refine List.pairwise_cons.mpr ⟨fun b hb => ?_, ih htail⟩
      rcases mem_insertEntry hb with rfl | hb
      · exact Std.OrientedCmp.gt_iff_lt.mp hgt
      · exact hhead b hb

/-- The map with a value put at a key, in place of any value that was there. -/
def insert [Std.TransOrd κ] [Std.LawfulEqOrd κ] (m : SortedMap κ ν) (k : κ) (v : ν) :
    SortedMap κ ν :=
  ⟨insertEntry k v m.toList, pairwise_insertEntry m.sorted⟩

/-- The value at a key, or a given value where the map has none. -/
def getD (m : SortedMap κ ν) (k : κ) (fallback : ν) : ν := (m.get? k).getD fallback

/-- The map that a list of entries describes; a later entry of a key replaces an earlier one. -/
def ofList [Std.TransOrd κ] [Std.LawfulEqOrd κ] (l : List (κ × ν)) : SortedMap κ ν :=
  l.foldl (fun m e => m.insert e.1 e.2) empty

@[simp]
theorem get?_empty (k : κ) : (empty : SortedMap κ ν).get? k = none := rfl

section Lookup

variable [Std.LawfulEqOrd κ]

theorem find?_insertEntry_self (k : κ) (v : ν) (l : List (κ × ν)) :
    (insertEntry k v l).find? (fun e => compare k e.1 == .eq) = some (k, v) := by
  induction l with
  | nil => simp [insertEntry]
  | cons a r ih =>
    unfold insertEntry
    split
    · simp
    · simp
    next hgt => simp [hgt, ih]

theorem find?_insertEntry_of_ne {k j : κ} (v : ν) (hne : j ≠ k) (l : List (κ × ν)) :
    (insertEntry k v l).find? (fun e => compare j e.1 == .eq) =
      l.find? fun e => compare j e.1 == .eq := by
  have hjk : compare j k ≠ .eq := fun h => hne (Std.LawfulEqOrd.eq_of_compare h)
  induction l with
  | nil => simp [insertEntry, hjk]
  | cons a r ih =>
    unfold insertEntry
    split
    · simp [hjk]
    next heq =>
      have hk : k = a.1 := Std.LawfulEqOrd.eq_of_compare heq
      simp [← hk, hjk]
    · simp only [List.find?_cons, ih]

/-- Looking up the key just written finds the new value. -/
@[simp]
theorem get?_insert_self [Std.TransOrd κ] (m : SortedMap κ ν) (k : κ) (v : ν) :
    (m.insert k v).get? k = some v := by
  simp [get?, insert, find?_insertEntry_self]

/-- Writing one key leaves the others alone. -/
theorem get?_insert_of_ne [Std.TransOrd κ] (m : SortedMap κ ν) {k j : κ} (v : ν) (h : j ≠ k) :
    (m.insert k v).get? j = m.get? j := by
  simp [get?, insert, find?_insertEntry_of_ne v h]

theorem get?_insert [Std.TransOrd κ] [DecidableEq κ] (m : SortedMap κ ν) (k j : κ) (v : ν) :
    (m.insert k v).get? j = if j = k then some v else m.get? j := by
  split
  next h => subst h; simp
  next h => exact get?_insert_of_ne m v h

/-- A key has a value exactly when the entry is listed. -/
theorem get?_eq_some_iff {m : SortedMap κ ν} {k : κ} {v : ν} :
    m.get? k = some v ↔ (k, v) ∈ m.toList := by
  obtain ⟨l, hl⟩ := m
  simp only [get?]
  induction l with
  | nil => simp
  | cons a r ih =>
    obtain ⟨hhead, htail⟩ := List.pairwise_cons.mp hl
    by_cases h : compare k a.1 = .eq
    · have hk : k = a.1 := Std.LawfulEqOrd.eq_of_compare h
      have hnot : (k, v) ∉ r := by
        intro hr
        have hlt := hhead _ hr
        rw [← hk] at hlt
        simp [Std.ReflOrd.compare_self] at hlt
      simp only [List.find?_cons, h, beq_self_eq_true, Option.map_some, Option.some.injEq,
        List.mem_cons, hnot, or_false]
      constructor
      · rintro rfl
        exact Prod.ext hk rfl
      · rintro rfl
        rfl
    · have hne : (k, v) ≠ a := by
        rintro rfl
        exact h Std.ReflOrd.compare_self
      simp only [List.find?_cons, beq_eq_false_iff_ne.mpr h, List.mem_cons, hne, false_or]
      exact ih htail

theorem mem_keys_iff {m : SortedMap κ ν} {k : κ} : k ∈ m.keys ↔ ∃ v, m.get? k = some v := by
  simp only [keys, List.mem_map, get?_eq_some_iff]
  constructor
  · rintro ⟨⟨j, v⟩, h, rfl⟩
    exact ⟨v, h⟩
  · rintro ⟨v, h⟩
    exact ⟨(k, v), h, rfl⟩

/-- Maps with the same look-ups are the same. -/
theorem ext_get? [Std.TransOrd κ] {m n : SortedMap κ ν} (h : ∀ k, m.get? k = n.get? k) : m = n := by
  have hmem : ∀ e, e ∈ m.toList ↔ e ∈ n.toList := by
    rintro ⟨k, v⟩
    rw [← get?_eq_some_iff, ← get?_eq_some_iff, h k]
  apply ext_toList
  have hlt : ∀ {a b : κ × ν}, compare a.1 b.1 = .lt → compare b.1 a.1 ≠ .lt := by
    intro a b hab hba
    have := Std.TransCmp.lt_trans hab hba
    simp [Std.ReflOrd.compare_self] at this
  have key : ∀ (l₁ l₂ : List (κ × ν)),
      l₁.Pairwise (fun a b => compare a.1 b.1 = .lt) →
      l₂.Pairwise (fun a b => compare a.1 b.1 = .lt) →
      (∀ e, e ∈ l₁ ↔ e ∈ l₂) → l₁ = l₂ := by
    intro l₁
    induction l₁ with
    | nil =>
      intro l₂ _ _ hmem
      cases l₂ with
      | nil => rfl
      | cons b s => exact absurd ((hmem b).mpr (by simp)) (by simp)
    | cons a r ih =>
      intro l₂ h₁ h₂ hmem
      cases l₂ with
      | nil => exact absurd ((hmem a).mp (by simp)) (by simp)
      | cons b s =>
        obtain ⟨ha, hr⟩ := List.pairwise_cons.mp h₁
        obtain ⟨hb, hs⟩ := List.pairwise_cons.mp h₂
        have hab : a = b := by
          rcases List.mem_cons.mp ((hmem a).mp (by simp)) with h | h
          · exact h
          · rcases List.mem_cons.mp ((hmem b).mpr (by simp)) with h' | h'
            · exact h'.symm
            · exact absurd (ha b h') (hlt (hb a h))
        subst hab
        congr 1
        refine ih s hr hs fun e => ⟨fun he => ?_, fun he => ?_⟩
        · rcases List.mem_cons.mp ((hmem e).mp (by simp [he])) with h | h
          · subst h
            exact absurd (ha e he) (by simp [Std.ReflOrd.compare_self])
          · exact h
        · rcases List.mem_cons.mp ((hmem e).mpr (by simp [he])) with h | h
          · subst h
            exact absurd (hb e he) (by simp [Std.ReflOrd.compare_self])
          · exact h
  exact key _ _ m.sorted n.sorted hmem

end Lookup

end SortedMap

end GroupPolicy

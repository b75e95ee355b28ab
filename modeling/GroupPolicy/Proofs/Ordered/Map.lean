import GroupPolicy.Ordered.Registry
import GroupPolicy.Ordered.Set
import Mathlib.Data.List.Induction
import Mathlib.Data.List.Nodup

namespace GroupPolicy

/-- A walk over parts that carry different tags meets nothing twice, if it meets nothing twice
within a part. -/
theorem nodup_flatMap_of_tag {α β κ : Type} {l : List α} {f : α → List β} (key : α → κ)
    (tag : β → κ) (hkeys : (l.map key).Nodup) (hpart : ∀ a ∈ l, (f a).Nodup)
    (htag : ∀ a ∈ l, ∀ b ∈ f a, tag b = key a) : (l.flatMap f).Nodup := by
  rw [List.nodup_flatMap]
  refine ⟨hpart, ?_⟩
  rw [List.Nodup, List.pairwise_map] at hkeys
  refine hkeys.imp_of_mem fun {a a'} ha ha' hne => ?_
  refine List.disjoint_left.mpr fun b hb hb' => ?_
  exact hne ((htag a ha b hb).symm.trans (htag a' ha' b hb'))

theorem nodup_of_ascending {α : Type} {cmp : α → α → Ordering} [Std.ReflCmp cmp] {l : List α}
    (h : l.Pairwise fun a b => cmp a b = .lt) : l.Nodup := by
  refine h.imp fun {a b} hlt heq => ?_
  have hself : cmp b b = .eq := Std.ReflCmp.compare_self
  rw [heq, hself] at hlt
  cases hlt

/-- An ascending list is determined by its members. -/
theorem eq_of_ascending {α : Type} {cmp : α → α → Ordering} [Std.TransCmp cmp] {l l' : List α}
    (hl : l.Pairwise fun a b => cmp a b = .lt) (hl' : l'.Pairwise fun a b => cmp a b = .lt)
    (hmem : ∀ a, a ∈ l ↔ a ∈ l') : l = l' := by
  have hperm : l.Perm l' :=
    (List.perm_ext_iff_of_nodup (nodup_of_ascending hl) (nodup_of_ascending hl')).mpr hmem
  refine hperm.eq_of_pairwise (fun a b _ _ hab hba => ?_) hl hl'
  have hself : cmp a a = .eq := Std.ReflCmp.compare_self
  rw [Std.TransCmp.lt_trans hab hba] at hself
  cases hself

/-- The last element of an ascending list is the greatest one. -/
theorem getLast?_eq_some_iff_of_ascending {α : Type} {cmp : α → α → Ordering} [Std.OrientedCmp cmp]
    {l : List α} (h : l.Pairwise fun a b => cmp a b = .lt) {a : α} :
    l.getLast? = some a ↔ a ∈ l ∧ ∀ b ∈ l, cmp b a ≠ .gt := by
  cases l using List.reverseRecOn with
  | nil => simp
  | append_singleton l x =>
    obtain ⟨-, -, hlast⟩ := List.pairwise_append.mp h
    have hless (b : α) (hb : b ∈ l) : cmp b x = .lt := hlast b hb x (List.mem_singleton_self x)
    rw [List.getLast?_concat, Option.some.injEq]
    constructor
    · rintro rfl
      refine ⟨by simp, fun b hb => ?_⟩
      rcases List.mem_append.mp hb with hb | hb
      · rw [hless b hb]
        decide
      · have hself : cmp x x = .eq := Std.ReflCmp.compare_self
        rw [List.mem_singleton.mp hb, hself]
        decide
    · rintro ⟨ha, hgreatest⟩
      rcases List.mem_append.mp ha with ha | ha
      · exact absurd (Std.OrientedCmp.gt_of_lt (hless a ha)) (hgreatest x (by simp))
      · exact (List.mem_singleton.mp ha).symm

/-- Two ascending lists of keys lead through the same walk, if they agree on the keys at which the
walk meets anything. -/
theorem flatMap_eq_of_ascending {κ β : Type} [Ord κ] [Std.TransOrd κ] [Std.LawfulEqOrd κ]
    {f : κ → List β} {l l' : List κ} (hl : l.Pairwise fun a b => compare a b = .lt)
    (hl' : l'.Pairwise fun a b => compare a b = .lt)
    (hmem : ∀ k, f k ≠ [] → (k ∈ l ↔ k ∈ l')) : l.flatMap f = l'.flatMap f := by
  have hskip (l : List κ) : (l.filter fun k => !(f k).isEmpty).flatMap f = l.flatMap f := by
    induction l with
    | nil => rfl
    | cons k r ih =>
      cases hk : (f k).isEmpty with
      | true =>
        rw [List.filter_cons_of_neg (by simp [hk]), ih, List.flatMap_cons, List.isEmpty_iff.mp hk,
          List.nil_append]
      | false => rw [List.filter_cons_of_pos (by simp [hk]), List.flatMap_cons, List.flatMap_cons, ih]
  have hsame : (l.filter fun k => !(f k).isEmpty) = l'.filter fun k => !(f k).isEmpty := by
    refine eq_of_ascending (hl.filter _) (hl'.filter _) fun k => ?_
    simp only [List.mem_filter, Bool.not_eq_true', List.isEmpty_eq_false_iff]
    exact and_congr_left (hmem k)
  rw [← hskip l, hsame, hskip l']

namespace SortedMap

variable {κ ν : Type} [Ord κ]

theorem ascending_keys (m : SortedMap κ ν) : m.keys.Pairwise fun a b => compare a b = .lt := by
  rw [keys, List.pairwise_map]
  exact m.sorted

theorem nodup_keys [Std.LawfulEqOrd κ] (m : SortedMap κ ν) : m.keys.Nodup :=
  nodup_of_ascending m.ascending_keys

theorem isEmpty_iff [Std.LawfulEqOrd κ] {m : SortedMap κ ν} :
    m.isEmpty = true ↔ ∀ k, m.get? k = none := by
  rw [isEmpty, List.isEmpty_iff]
  constructor
  · intro h k
    rw [get?, h, List.find?_nil, Option.map_none]
  · intro h
    refine List.eq_nil_iff_forall_not_mem.mpr fun e hmem => ?_
    have hvalue : m.get? e.1 = some e.2 := get?_eq_some_iff.mpr hmem
    rw [h] at hvalue
    cases hvalue

theorem getD_eq_iff_of_mem [Std.LawfulEqOrd κ] {m : SortedMap κ ν} {k : κ} {v fallback : ν}
    (h : (k, v) ∈ m.toList) : m.getD k fallback = v := by
  rw [getD, get?_eq_some_iff.mpr h, Option.getD_some]

/-- Putting an entry into a list keeps what a walk meets, as long as the new entry of a key brings
up whatever the old one did. -/
theorem flatMap_sublist_insertEntry [Std.LawfulEqOrd κ] {β : Type} {f : κ × ν → List β} {k : κ}
    {v : ν} {l : List (κ × ν)} (h : ∀ v', (k, v') ∈ l → (f (k, v')).Sublist (f (k, v))) :
    (l.flatMap f).Sublist ((insertEntry k v l).flatMap f) := by
  induction l with
  | nil => simp
  | cons a r ih =>
    unfold insertEntry
    split
    · exact List.sublist_append_right _ _
    next heq =>
      obtain ⟨j, w⟩ := a
      have hk : k = j := Std.LawfulEqOrd.eq_of_compare heq
      subst hk
      simp only [List.flatMap_cons]
      exact (h w List.mem_cons_self).append (List.Sublist.refl _)
    · simp only [List.flatMap_cons]
      exact (List.Sublist.refl _).append (ih fun v' hv' => h v' (List.mem_cons_of_mem a hv'))

/-- Whether a map holds a value nowhere. A map that omits the value which stands for missing entries has
entries only where it has something to say. -/
def Omits (m : SortedMap κ ν) (v : ν) : Prop := ∀ k, m.get? k ≠ some v

theorem omits_empty (v : ν) : (∅ : SortedMap κ ν).Omits v := fun _ h => nomatch h

theorem Omits.get?_eq_some_iff {m : SortedMap κ ν} {v w : ν} (h : m.Omits v) {k : κ} :
    m.get? k = some w ↔ m.getD k v = w ∧ w ≠ v := by
  rw [getD]
  cases hk : m.get? k with
  | none =>
    simp only [reduceCtorEq, Option.getD_none, false_iff, not_and, not_not]
    exact Eq.symm
  | some x =>
    simp only [Option.some.injEq, Option.getD_some, iff_self_and]
    rintro rfl rfl
    exact h k hk

variable [Std.TransOrd κ] [Std.LawfulEqOrd κ]

theorem flatMap_sublist_insert {β : Type} {f : κ × ν → List β} {m : SortedMap κ ν} {k : κ} {v : ν}
    (h : ∀ v', m.get? k = some v' → (f (k, v')).Sublist (f (k, v))) :
    (m.toList.flatMap f).Sublist ((m.insert k v).toList.flatMap f) :=
  flatMap_sublist_insertEntry fun v' hv' => h v' (get?_eq_some_iff.mpr hv')

theorem mem_keys_insert {m : SortedMap κ ν} {j k : κ} {v : ν} :
    j ∈ (m.insert k v).keys ↔ j = k ∨ j ∈ m.keys := by
  simp only [mem_keys_iff]
  by_cases h : j = k
  · subst h
    simp
  · simp [get?_insert_of_ne m v h, h]

@[simp]
theorem getD_insert_self (m : SortedMap κ ν) (k : κ) (v fallback : ν) :
    (m.insert k v).getD k fallback = v := by
  rw [getD, get?_insert_self, Option.getD_some]

theorem getD_insert_of_ne (m : SortedMap κ ν) {k j : κ} (v fallback : ν) (h : j ≠ k) :
    (m.insert k v).getD j fallback = m.getD j fallback := by
  rw [getD, get?_insert_of_ne m v h, getD]

theorem insert_insert_self (m : SortedMap κ ν) (k : κ) (v : ν) :
    (m.insert k v).insert k v = m.insert k v := by
  apply ext_get?
  intro j
  by_cases hj : j = k
  · rw [hj, get?_insert_self, get?_insert_self]
  · rw [get?_insert_of_ne _ _ hj]

/-- An insertion takes nothing away. -/
theorem contains_insert_of_contains {m : SortedMap κ ν} {j : κ} (h : m.contains j = true) (k : κ)
    (v : ν) : (m.insert k v).contains j = true := by
  rw [contains]
  by_cases heq : j = k
  · subst heq
    rw [get?_insert_self, Option.isSome_some]
  · rwa [get?_insert_of_ne m v heq]

theorem Omits.insert {m : SortedMap κ ν} {v w : ν} (h : m.Omits w) (k : κ) (hv : v ≠ w) :
    (m.insert k v).Omits w := by
  intro j
  by_cases hj : j = k
  · subst hj
    rw [get?_insert_self]
    exact fun heq => hv (Option.some.inj heq)
  · rw [get?_insert_of_ne m v hj]
    exact h j

/-- What is looked up in a map is all there is to it, if the map omits what missing entries stand for. -/
theorem ext_getD {m n : SortedMap κ ν} {v : ν} (hm : m.Omits v) (hn : n.Omits v)
    (h : ∀ k, m.getD k v = n.getD k v) : m = n := by
  refine ext_get? fun k => Option.ext fun w => ?_
  rw [hm.get?_eq_some_iff, hn.get?_eq_some_iff, h k]

theorem ofList_concat (l : List (κ × ν)) (e : κ × ν) :
    ofList (l ++ [e]) = (ofList l).insert e.1 e.2 := by
  simp [ofList, List.foldl_append]

/-- A list that gives every key at most one value describes the map with just these values. -/
theorem get?_ofList_eq_some_iff {l : List (κ × ν)}
    (h : ∀ k v w, (k, v) ∈ l → (k, w) ∈ l → v = w) {k : κ} {v : ν} :
    (ofList l).get? k = some v ↔ (k, v) ∈ l := by
  induction l using List.reverseRecOn with
  | nil => simp [ofList]
  | append_singleton r e ih =>
    have hr := ih fun k v w hv hw =>
      h k v w (List.mem_append_left _ hv) (List.mem_append_left _ hw)
    rw [ofList_concat]
    obtain ⟨j, w⟩ := e
    by_cases hk : k = j
    · subst hk
      simp only [get?_insert_self, Option.some.injEq, List.mem_append, List.mem_singleton,
        Prod.mk.injEq, true_and]
      constructor
      · rintro rfl
        exact .inr rfl
      · rintro (hv | rfl)
        · exact h k w v (by simp) (List.mem_append_left _ hv)
        · rfl
    · rw [get?_insert_of_ne _ _ hk, hr]
      simp [hk]

end SortedMap

namespace SortedSet

variable {κ : Type} [Ord κ]

theorem not_mem_members_empty (k : κ) : k ∉ (∅ : SortedSet κ).members := fun h => nomatch h

/-- A set with two different members has more than one. -/
theorem one_lt_card {s : SortedSet κ} {j k : κ} (hj : j ∈ s.members) (hk : k ∈ s.members)
    (hne : j ≠ k) : 1 < s.card := by
  have hcard : s.card = s.members.length := (List.length_map _).symm
  rw [hcard]
  by_contra hle
  obtain ⟨x, hx⟩ := List.length_eq_one_iff.mp
    (Nat.le_antisymm (Nat.not_lt.mp hle) (List.length_pos_of_mem hj))
  rw [hx, List.mem_singleton] at hj hk
  exact hne (hj.trans hk.symm)

theorem nodup_members [Std.LawfulEqOrd κ] (s : SortedSet κ) : s.members.Nodup :=
  SortedMap.nodup_keys s

/-- A set is determined by its members. -/
theorem ext_members [Std.TransOrd κ] {s t : SortedSet κ} (h : ∀ k, k ∈ s.members ↔ k ∈ t.members) : s = t := by
  have hkeys : s.keys = t.keys := eq_of_ascending s.ascending_keys t.ascending_keys h
  refine SortedMap.ext_toList (List.map_injective_iff.mpr ?_ hkeys)
  exact fun a b hab => Prod.ext hab rfl

theorem exists_mem_of_ne_empty {s : SortedSet κ} (h : s ≠ ∅) : ∃ k, k ∈ s.members := by
  by_contra hnone
  refine h (SortedMap.ext_toList ?_)
  exact List.map_eq_nil_iff.mp (List.eq_nil_iff_forall_not_mem.mpr (not_exists.mp hnone))

/-- What a map of sets holds at a key, if it holds anything there. -/
theorem mem_getD_iff {ι : Type} [Ord ι] {m : SortedMap ι (SortedSet κ)} {i : ι} {k : κ} :
    k ∈ (m.getD i ∅).members ↔ ∃ s, m.get? i = some s ∧ k ∈ s.members := by
  rw [SortedMap.getD]
  cases hget : m.get? i with
  | none =>
    constructor
    · intro h
      exact absurd h (not_mem_members_empty k)
    · rintro ⟨s, hs, -⟩
      cases hs
  | some s =>
    constructor
    · intro h
      exact ⟨s, rfl, h⟩
    · rintro ⟨s', hs', h⟩
      obtain rfl := Option.some.inj hs'
      exact h

variable [Std.TransOrd κ] [Std.LawfulEqOrd κ]

theorem add_ne_empty (s : SortedSet κ) (k : κ) : s.add k ≠ ∅ := by
  intro h
  have hk : k ∈ (s.add k).members := mem_members_add.mpr (.inl rfl)
  rw [h] at hk
  exact not_mem_members_empty k hk

@[simp]
theorem mem_members_ofMembers {ks : List κ} {k : κ} : k ∈ (ofMembers ks).members ↔ k ∈ ks := by
  simp [ofMembers, mem_members_addAll, not_mem_members_empty]

end SortedSet

/-- If no two elements of a list have the same key, then the only one of a key is the last one. -/
theorem getLast?_filter_key_eq_some_iff {κ ν : Type} [DecidableEq κ] {key : ν → κ} {l : List ν}
    (h : (l.map key).Nodup) {k : κ} {v : ν} :
    (l.filter fun w => key w = k).getLast? = some v ↔ v ∈ l ∧ key v = k := by
  have hmem (w : ν) : w ∈ (l.filter fun w => key w = k) ↔ w ∈ l ∧ key w = k := by
    rw [List.mem_filter, decide_eq_true_iff]
  constructor
  · intro hlast
    exact (hmem v).mp (List.mem_of_getLast? hlast)
  · rintro ⟨hv, rfl⟩
    have hne : (l.filter fun w => key w = key v) ≠ [] := List.ne_nil_of_mem ((hmem v).mpr ⟨hv, rfl⟩)
    obtain ⟨hw, hkey⟩ := (hmem _).mp (List.getLast_mem hne)
    rw [List.getLast?_eq_some_getLast hne, List.inj_on_of_nodup_map h hw hv hkey]

namespace Registry

variable {κ ν : Type} [Ord κ] [Std.LawfulEqOrd κ] {key : ν → κ} {r s : Registry key}

/-- Everything that is filed is found under its own key. -/
theorem mem_values_iff {v : ν} : v ∈ r.values ↔ r.get? (key v) = some v := by
  rw [values, SortedMap.values, List.mem_map]
  constructor
  · rintro ⟨⟨k, w⟩, hmem, rfl⟩
    have hget : r.get? k = some w := SortedMap.get?_eq_some_iff.mpr hmem
    rw [key_of_get? hget]
    exact hget
  · intro hget
    exact ⟨(key v, v), SortedMap.get?_eq_some_iff.mp hget, rfl⟩

variable [Std.TransOrd κ]

/-- A collection is determined by what is found in it. -/
theorem ext_get? (h : ∀ k, r.get? k = s.get? k) : r = s :=
  ext_toMap (SortedMap.ext_get? h)

/-- Of the things that are filed under one key in turn, the last one is found. -/
theorem get?_foldl_file [DecidableEq κ] (r : Registry key) (l : List ν) (k : κ) :
    (l.foldl file r).get? k = ((l.filter fun v => key v = k).getLast?).or (r.get? k) := by
  induction l using List.reverseRecOn with
  | nil => rfl
  | append_singleton l v ih =>
    rw [List.foldl_append, List.filter_append, List.getLast?_append, List.foldl_cons, List.foldl_nil]
    by_cases hk : key v = k
    · subst hk
      simp
    · rw [get?_file_of_ne _ (Ne.symm hk), ih]
      simp [hk]

/-- Things of different keys can be filed in any order. -/
theorem foldl_file_eq_of_perm [DecidableEq κ] {l l' : List ν} (hperm : l'.Perm l)
    (h : (l.map key).Nodup) (r : Registry key) : l'.foldl file r = l.foldl file r := by
  have h' : (l'.map key).Nodup := (hperm.map key).nodup_iff.mpr h
  refine ext_get? fun k => ?_
  rw [get?_foldl_file, get?_foldl_file]
  congr 1
  refine Option.ext fun v => ?_
  rw [getLast?_filter_key_eq_some_iff h, getLast?_filter_key_eq_some_iff h', hperm.mem_iff]

end Registry

end GroupPolicy

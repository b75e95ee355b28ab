import GroupPolicy.Ordered.Map

namespace GroupPolicy

/-- Things filed under their keys. -/
structure Registry {κ ν : Type} [Ord κ] (key : ν → κ) where
  /-- The things by key. -/
  toMap : SortedMap κ ν
  /-- Everything is filed under its own key. -/
  key_eq : ∀ {k : κ} {v : ν}, toMap.get? k = some v → key v = k

namespace Registry

variable {κ ν : Type} [Ord κ] {key : ν → κ}

theorem ext_toMap {r s : Registry key} (h : r.toMap = s.toMap) : r = s := by
  cases r
  cases s
  subst h
  rfl

instance [DecidableEq κ] [DecidableEq ν] : DecidableEq (Registry key) := fun r s =>
  if h : r.toMap = s.toMap then isTrue (ext_toMap h) else isFalse fun heq => h (heq ▸ rfl)

/-- Nothing is filed. -/
def empty : Registry key := ⟨∅, fun h => nomatch h⟩

instance : EmptyCollection (Registry key) := ⟨empty⟩

instance : Inhabited (Registry key) := ⟨empty⟩

/-- What is filed under a key. -/
def get? (r : Registry key) (k : κ) : Option ν := r.toMap.get? k

/-- Everything that is filed, by key. -/
def values (r : Registry key) : List ν := r.toMap.values

@[simp]
theorem get?_empty (k : κ) : (∅ : Registry key).get? k = none := rfl

/-- What is found under a key has that key. -/
theorem key_of_get? {r : Registry key} {k : κ} {v : ν} (h : r.get? k = some v) : key v = k :=
  r.key_eq h

variable [Std.TransOrd κ] [Std.LawfulEqOrd κ]

/-- The collection with one more thing, in place of any other of its key. -/
def file (r : Registry key) (v : ν) : Registry key where
  toMap := r.toMap.insert (key v) v
  key_eq {k w} h := by
    by_cases hk : k = key v
    · subst hk
      simp only [SortedMap.get?_insert_self, Option.some.injEq] at h
      exact h ▸ rfl
    · rw [SortedMap.get?_insert_of_ne _ _ hk] at h
      exact r.key_eq h

@[simp]
theorem get?_file_self (r : Registry key) (v : ν) : (r.file v).get? (key v) = some v := by
  simp [get?, file]

theorem get?_file_of_ne (r : Registry key) {v : ν} {k : κ} (h : k ≠ key v) :
    (r.file v).get? k = r.get? k := by
  simp [get?, file, SortedMap.get?_insert_of_ne _ _ h]

end Registry

end GroupPolicy

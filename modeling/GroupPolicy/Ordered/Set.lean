import GroupPolicy.Ordered.Map

namespace GroupPolicy

/-- A finite set whose members stand in ascending order. -/
abbrev SortedSet (κ : Type) [Ord κ] : Type := SortedMap κ Unit

namespace SortedSet

variable {κ : Type} [Ord κ]

/-- The members, in ascending order. -/
def members (s : SortedSet κ) : List κ := s.keys

/-- Whether an element is a member. -/
def mem (s : SortedSet κ) (k : κ) : Bool := s.contains k

/-- The number of members. -/
def card (s : SortedSet κ) : Nat := s.size

theorem mem_members_iff [Std.LawfulEqOrd κ] {s : SortedSet κ} {k : κ} :
    k ∈ s.members ↔ s.mem k = true := by
  simp [members, mem, SortedMap.contains, SortedMap.mem_keys_iff, Option.isSome_iff_exists]

variable [Std.TransOrd κ] [Std.LawfulEqOrd κ]

/-- The set with one more member. -/
def add (s : SortedSet κ) (k : κ) : SortedSet κ := s.insert k ()

/-- The set with every element of a list added. -/
def addAll (s : SortedSet κ) (ks : List κ) : SortedSet κ := ks.foldl add s

/-- The set of the elements of a list. -/
def ofMembers (ks : List κ) : SortedSet κ := addAll ∅ ks

theorem mem_members_add {s : SortedSet κ} {k j : κ} :
    j ∈ (s.add k).members ↔ j = k ∨ j ∈ s.members := by
  simp only [members, add, SortedMap.mem_keys_iff]
  by_cases h : j = k
  · subst h
    simp
  · simp [SortedMap.get?_insert_of_ne _ _ h, h]

theorem mem_members_addAll {s : SortedSet κ} {ks : List κ} {j : κ} :
    j ∈ (s.addAll ks).members ↔ j ∈ ks ∨ j ∈ s.members := by
  induction ks generalizing s with
  | nil => simp [addAll]
  | cons k r ih =>
    have hstep : addAll s (k :: r) = addAll (s.add k) r := rfl
    rw [hstep, ih, mem_members_add, List.mem_cons]
    constructor
    · rintro (h | h | h)
      · exact .inl (.inr h)
      · exact .inl (.inl h)
      · exact .inr h
    · rintro ((h | h) | h)
      · exact .inr (.inl h)
      · exact .inl h
      · exact .inr (.inr h)

end SortedSet

end GroupPolicy

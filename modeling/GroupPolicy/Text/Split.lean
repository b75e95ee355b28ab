namespace GroupPolicy.Text

/-- The text before and after the first separator. -/
def splitFirst (sep : Char) : List Char → Option (List Char × List Char)
  | [] => none
  | c :: r =>
    if c = sep then some ([], r) else (splitFirst sep r).map fun (a, b) => (c :: a, b)

/-- The text before and after the last separator. -/
def splitLast (sep : Char) (s : List Char) : Option (List Char × List Char) :=
  (splitFirst sep s.reverse).map fun (a, b) => (b.reverse, a.reverse)

/-- The pieces between the separators; there is always one more piece than separators. -/
def splitAll (sep : Char) : List Char → List (List Char)
  | [] => [[]]
  | c :: r =>
    if c = sep then [] :: splitAll sep r
    else
      match splitAll sep r with
      | [] => [[c]]
      | p :: ps => (c :: p) :: ps

/-- The text before a known ending. -/
def stripEnd? (ending s : List Char) : Option (List Char) :=
  if ending.isSuffixOf s then some (s.take (s.length - ending.length)) else none

theorem splitAll_ne_nil (sep : Char) (s : List Char) : splitAll sep s ≠ [] := by
  cases s with
  | nil => simp [splitAll]
  | cons c r =>
    unfold splitAll
    split
    · simp
    · split <;> simp

/-- Putting the separators back between the pieces gives the text again. -/
theorem intercalate_splitAll (sep : Char) (s : List Char) :
    [sep].intercalate (splitAll sep s) = s := by
  induction s with
  | nil => simp [splitAll]
  | cons c r ih =>
    unfold splitAll
    split
    next h =>
      subst h
      cases hr : splitAll c r with
      | nil => exact absurd hr (splitAll_ne_nil c r)
      | cons p ps =>
        rw [hr] at ih
        simpa [List.intercalate_cons_cons] using ih
    next h =>
      cases hr : splitAll sep r with
      | nil => exact absurd hr (splitAll_ne_nil sep r)
      | cons p ps =>
        rw [hr] at ih
        cases ps with
        | nil => simpa using ih
        | cons q qs => simpa [List.intercalate_cons_cons] using ih

/-- Text without the separator is one piece. -/
theorem splitAll_of_not_mem {sep : Char} {s : List Char} (h : sep ∉ s) :
    splitAll sep s = [s] := by
  induction s with
  | nil => rfl
  | cons c r ih =>
    simp only [List.mem_cons, not_or] at h
    simp [splitAll, ih h.2, Ne.symm h.1]

theorem splitAll_append_cons {sep : Char} {p : List Char} (h : sep ∉ p) (r : List Char) :
    splitAll sep (p ++ sep :: r) = p :: splitAll sep r := by
  induction p with
  | nil => simp [splitAll]
  | cons c p ih =>
    simp only [List.mem_cons, not_or] at h
    simp [splitAll, ih h.2, Ne.symm h.1]

/-- Pieces that hold no separator are found again between the separators. -/
theorem splitAll_intercalate {sep : Char} {ps : List (List Char)} (hne : ps ≠ [])
    (h : ∀ p ∈ ps, sep ∉ p) : splitAll sep ([sep].intercalate ps) = ps := by
  induction ps with
  | nil => exact absurd rfl hne
  | cons p ps ih =>
    have hp := h p List.mem_cons_self
    cases ps with
    | nil => simpa using splitAll_of_not_mem hp
    | cons q ps =>
      have hrest := ih (List.cons_ne_nil q ps) fun p hp => h p (List.mem_cons_of_mem _ hp)
      rw [List.intercalate_cons_cons, List.append_assoc, List.singleton_append,
        splitAll_append_cons hp, hrest]

theorem splitFirst_eq_none_iff {sep : Char} {s : List Char} :
    splitFirst sep s = none ↔ sep ∉ s := by
  induction s with
  | nil => simp [splitFirst]
  | cons c r ih =>
    by_cases h : c = sep
    · simp [splitFirst, h]
    · simp [splitFirst, h, ih, Ne.symm h]

/-- Cutting at the first separator finds it when the text before it holds none. -/
theorem splitFirst_append {sep : Char} {a : List Char} (b : List Char) (h : sep ∉ a) :
    splitFirst sep (a ++ sep :: b) = some (a, b) := by
  induction a with
  | nil => simp [splitFirst]
  | cons c r ih =>
    simp only [List.mem_cons, not_or] at h
    simp [splitFirst, Ne.symm h.1, ih h.2]

/-- Cutting at the last separator finds it when the text after it holds none. -/
theorem splitLast_append {sep : Char} (a : List Char) {b : List Char} (h : sep ∉ b) :
    splitLast sep (a ++ sep :: b) = some (a, b) := by
  have hb : sep ∉ b.reverse := by simpa using h
  simp [splitLast, splitFirst_append a.reverse hb]

/-- An ending can be taken off again. -/
@[simp]
theorem stripEnd?_append (s ending : List Char) : stripEnd? ending (s ++ ending) = some s := by
  simp [stripEnd?]

/-- What remains, with the ending put back, is the text. -/
theorem eq_append_of_stripEnd? {ending s r : List Char} (h : stripEnd? ending s = some r) :
    s = r ++ ending := by
  unfold stripEnd? at h
  split at h
  next hs =>
    obtain ⟨t, rfl⟩ := List.isSuffixOf_iff_suffix.mp hs
    simp_all
  next => simp at h

theorem stripEnd?_eq_none_iff {ending s : List Char} :
    stripEnd? ending s = none ↔ ¬ending <:+ s := by
  simp [stripEnd?]

end GroupPolicy.Text

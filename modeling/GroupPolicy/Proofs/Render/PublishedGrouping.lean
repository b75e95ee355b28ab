import GroupPolicy.Proofs.Render.Colocation

namespace GroupPolicy

namespace Context

/-- Whether a context is, in a sequence, the earliest of those of the greatest version. -/
def IsFirstOfLatest (c : Context) (cs : List Context) : Prop :=
  ∃ earlier later, cs = earlier ++ c :: later ∧ (∀ d ∈ earlier, d.version < c.version) ∧
    ∀ d ∈ later, d.version ≤ c.version

namespace IsFirstOfLatest

variable {c d : Context} {cs : List Context}

theorem singleton (c : Context) : c.IsFirstOfLatest [c] :=
  ⟨[], [], rfl, List.forall_mem_nil _, List.forall_mem_nil _⟩

theorem version_le (h : c.IsFirstOfLatest cs) : ∀ d ∈ cs, d.version ≤ c.version := by
  obtain ⟨earlier, later, rfl, hearlier, hlater⟩ := h
  intro d hd
  rcases List.mem_append.mp hd with hd | hd
  · exact UInt64.le_of_lt (hearlier d hd)
  · rcases List.mem_cons.mp hd with rfl | hd
    · exact UInt64.le_refl _
    · exact hlater d hd

theorem concat_of_le (h : c.IsFirstOfLatest cs) (hle : d.version ≤ c.version) :
    c.IsFirstOfLatest (cs ++ [d]) := by
  obtain ⟨earlier, later, rfl, hearlier, hlater⟩ := h
  refine ⟨earlier, later ++ [d], by simp, hearlier, fun x hx => ?_⟩
  rcases List.mem_append.mp hx with hx | hx
  · exact hlater x hx
  · rwa [List.mem_singleton.mp hx]

theorem concat_of_lt (h : c.IsFirstOfLatest cs) (hlt : c.version < d.version) :
    d.IsFirstOfLatest (cs ++ [d]) :=
  ⟨cs, [], rfl, fun x hx => UInt64.lt_of_le_of_lt (h.version_le x hx) hlt, List.forall_mem_nil _⟩

end IsFirstOfLatest

end Context

namespace Grouping

variable {g : Grouping} {c : Context} {v : UInt64}

/-- The grouping in use once those of contexts have been asked for in turn. -/
def refreshAll (g : Grouping) (cs : List Context) : Grouping :=
  cs.foldl (fun g c => (g.refresh c).published) g

theorem refreshAll_concat (g : Grouping) (cs : List Context) (c : Context) :
    g.refreshAll (cs ++ [c]) = ((g.refreshAll cs).refresh c).published := by
  simp [refreshAll, List.foldl_append]

theorem published_refresh_of_none (h : g.version = none) : (g.refresh c).published = ofContext c := by
  simp [refresh, h]

/-- Nothing takes the place of a grouping of the same version or a later one. -/
theorem published_refresh_of_le (h : g.version = some v) (hle : c.version ≤ v) :
    (g.refresh c).published = g := by
  by_cases heq : v = c.version
  · simp [refresh, h, heq]
  · have hlt : c.version < v := UInt64.lt_of_le_of_ne hle (Ne.symm heq)
    simp [refresh, h, heq, hlt]

theorem published_refresh_of_lt (h : g.version = some v) (hlt : v < c.version) :
    (g.refresh c).published = ofContext c := by
  have hne : v ≠ c.version := UInt64.ne_of_lt hlt
  have hnot : ¬c.version < v := UInt64.not_lt.mpr (UInt64.le_of_lt hlt)
  simp [refresh, h, hne, hnot]

/-- A request never brings the version in use down. -/
theorem le_version_published_refresh (h : g.version = some v) (c : Context) :
    ∃ w, (g.refresh c).published.version = some w ∧ v ≤ w := by
  by_cases hle : c.version ≤ v
  · rw [published_refresh_of_le h hle]
    exact ⟨v, h, UInt64.le_refl v⟩
  · have hlt : v < c.version := UInt64.not_le.mp hle
    rw [published_refresh_of_lt h hlt]
    exact ⟨c.version, rfl, UInt64.le_of_lt hlt⟩

theorem le_version_refreshAll (h : g.version = some v) (cs : List Context) :
    ∃ w, (g.refreshAll cs).version = some w ∧ v ≤ w := by
  induction cs using List.reverseRecOn with
  | nil => exact ⟨v, h, UInt64.le_refl v⟩
  | append_singleton cs c ih =>
    obtain ⟨w, hw, hle⟩ := ih
    obtain ⟨w', hw', hle'⟩ := le_version_published_refresh hw c
    rw [refreshAll_concat]
    exact ⟨w', hw', UInt64.le_trans hle hle'⟩

/-- A request keeps in use the grouping of the earliest context of the greatest version. -/
theorem published_refresh_of_isFirstOfLatest {cs : List Context} {d : Context}
    (h : c.IsFirstOfLatest cs) :
    ∃ e, e.IsFirstOfLatest (cs ++ [d]) ∧ ((ofContext c).refresh d).published = ofContext e := by
  have hversion : (ofContext c).version = some c.version := rfl
  by_cases hle : d.version ≤ c.version
  · exact ⟨c, h.concat_of_le hle, published_refresh_of_le hversion hle⟩
  · have hlt : c.version < d.version := UInt64.not_le.mp hle
    exact ⟨d, h.concat_of_lt hlt, published_refresh_of_lt hversion hlt⟩

/-- As long as nothing has been asked for, no grouping is in use; from then on it is that of the earliest
context of the greatest version. -/
theorem refreshAll_new (cs : List Context) :
    (cs = [] ∧ refreshAll {} cs = {}) ∨ ∃ c, c.IsFirstOfLatest cs ∧ refreshAll {} cs = ofContext c := by
  induction cs using List.reverseRecOn with
  | nil => exact .inl ⟨rfl, rfl⟩
  | append_singleton cs d ih =>
    refine .inr ?_
    rw [refreshAll_concat]
    rcases ih with ⟨rfl, hnew⟩ | ⟨c, hc, hmade⟩
    · rw [hnew]
      exact ⟨d, .singleton d, published_refresh_of_none rfl⟩
    · rw [hmade]
      exact published_refresh_of_isFirstOfLatest hc

/-- Whoever asks for the grouping of a context gets one of its version. -/
theorem version_current_refresh (g : Grouping) (c : Context) :
    (g.refresh c).current.version = some c.version := by
  rw [current_refresh]
  split
  next hversion => exact hversion
  · rfl

end Grouping

/-- After requests for contexts of any versions in any order, the grouping in use is that of the earliest
context of the greatest version; whatever is asked for next, its version does not go down, and whoever
asks gets a grouping of the version asked for: the one in use where the versions are equal, and one that
is made from the context otherwise. -/
theorem published_grouping (cs : List Context) :
    let g := Grouping.refreshAll {} cs
    ((cs = [] ∧ g = {}) ∨ ∃ c, c.IsFirstOfLatest cs ∧ g = .ofContext c) ∧
      (∀ more, g.version ≤ (g.refreshAll more).version) ∧
      ∀ c, (g.refresh c).current.version = some c.version ∧
        (g.refresh c).current = if g.version = some c.version then g else .ofContext c := by
  intro g
  refine ⟨Grouping.refreshAll_new cs, fun more => ?_,
    fun c => ⟨g.version_current_refresh c, g.current_refresh c⟩⟩
  cases hversion : g.version with
  | none => exact Option.none_le
  | some v =>
    obtain ⟨w, hw, hle⟩ := Grouping.le_version_refreshAll hversion more
    rw [hw]
    exact Option.some_le_some.mpr hle

end GroupPolicy

import GroupPolicy.Proofs.Policy.Reachable

namespace GroupPolicy

namespace AppliedPolicy

instance : Std.TransCmp precedence :=
  inferInstanceAs (Std.TransCmp (compareLex (compareLex (compareOn fun p : AppliedPolicy => p.group.order)
    (compareOn fun p : AppliedPolicy => p.group.key)) (compareOn participation)))

/-- Whether no policy comes before one that stands in front of it. -/
def IsSorted (l : List AppliedPolicy) : Prop := l.Pairwise fun a b => a.precedence b ≠ .gt

variable {p q : AppliedPolicy} {l : List AppliedPolicy}

/-- What stands behind a policy that comes after another one comes after that, too. -/
theorem IsSorted.precedence_eq_gt (hl : IsSorted (q :: l)) (hgt : q.precedence p = .gt) :
    ∀ x ∈ q :: l, x.precedence p = .gt := by
  intro x hx
  rcases List.mem_cons.mp hx with rfl | hx
  · exact hgt
  · have hlt : p.precedence q = .lt := Std.OrientedCmp.gt_iff_lt.mp hgt
    have hle : (q.precedence x).isLE := Ordering.ne_gt_iff_isLE.mp ((List.pairwise_cons.mp hl).1 x hx)
    exact Std.OrientedCmp.gt_iff_lt.mpr (Std.TransCmp.lt_of_lt_of_isLE hlt hle)

theorem isSorted_place (p : AppliedPolicy) (hl : IsSorted l) : IsSorted (p.place l) := by
  induction l with
  | nil => exact List.pairwise_singleton _ _
  | cons q r ih =>
    obtain ⟨hhead, htail⟩ := List.pairwise_cons.mp hl
    unfold place
    split
    next hgt =>
      refine List.pairwise_cons.mpr ⟨fun x hx => ?_, hl⟩
      rw [Std.OrientedCmp.gt_iff_lt.mp (hl.precedence_eq_gt hgt x hx)]
      decide
    next hle =>
      refine List.pairwise_cons.mpr ⟨fun x hx => ?_, ih htail⟩
      rcases mem_place.mp hx with rfl | hx
      · exact hle
      · exact hhead x hx

/-- A policy that comes before all of a cell is put in front. -/
theorem place_eq_cons (h : ∀ q ∈ l, q.precedence p = .gt) : p.place l = p :: l := by
  cases l with
  | nil => rfl
  | cons q r => rw [place, if_pos (h q List.mem_cons_self)]

/-- Leaving policies out of a cell moves no other one. -/
theorem filter_place (hl : IsSorted l) (keep : AppliedPolicy → Bool) :
    (p.place l).filter keep = if keep p then p.place (l.filter keep) else l.filter keep := by
  induction l with
  | nil => cases hp : keep p <;> simp [place, hp]
  | cons q r ih =>
    by_cases hgt : q.precedence p = .gt
    -- Without the order of the cell, `p` could stand behind the next policy that is kept.
    · have hall : ∀ x ∈ (q :: r).filter keep, x.precedence p = .gt := fun x hx =>
        hl.precedence_eq_gt hgt x (List.mem_filter.mp hx).1
      rw [place_eq_cons hall, place, if_pos hgt, List.filter_cons]
    · have htail := ih (List.pairwise_cons.mp hl).2
      rw [place, if_neg hgt]
      cases hq : keep q with
      | false =>
        rw [List.filter_cons_of_neg (by simp [hq]), List.filter_cons_of_neg (by simp [hq]), htail]
      | true =>
        rw [List.filter_cons_of_pos hq, List.filter_cons_of_pos hq, htail, place, if_neg hgt]
        split <;> rfl

end AppliedPolicy

namespace Context

theorem Reachable.isSorted_policies {c : Context} (h : c.Reachable) (owner peer : EndpointKey) :
    AppliedPolicy.IsSorted (c.table.policies owner peer) := by
  refine h.table_of_insert (P := fun t => AppliedPolicy.IsSorted (t.policies owner peer))
    List.Pairwise.nil fun t o p policy ht => ?_
  rw [PolicyTable.policies_insert]
  split
  · exact AppliedPolicy.isSorted_place policy ht
  · exact ht

end Context

end GroupPolicy

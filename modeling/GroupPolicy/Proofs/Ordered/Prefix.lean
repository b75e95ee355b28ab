import Mathlib.Data.List.Induction
import Mathlib.Data.List.Infix

namespace GroupPolicy

variable {σ α : Type}

/-- The steps of a run are those before the last one, and the last one after all others. -/
theorem concat_prefix_concat_iff {done l : List α} {x y : α} :
    done ++ [x] <+: l ++ [y] ↔ done ++ [x] <+: l ∨ (done = l ∧ x = y) := by
  simp [List.prefix_concat_iff, or_comm]

/-- If a step keeps an invariant exactly under a condition, then the invariant holds throughout a run exactly
if all steps of the run meet the condition. -/
theorem forall_prefix_foldl_iff {step : σ → α → σ} {Inv : σ → Prop} {Ok : σ → α → Prop}
    (hstep : ∀ s x, Inv s → (Inv (step s x) ↔ Ok s x)) {s : σ} (hs : Inv s) (l : List α) :
    (∀ done, done <+: l → Inv (done.foldl step s)) ↔
      ∀ done x, done ++ [x] <+: l → Ok (done.foldl step s) x := by
  induction l using List.reverseRecOn with
  | nil =>
    refine iff_of_true (fun done hdone => ?_) fun done x hdone => ?_
    · rwa [List.prefix_nil.mp hdone]
    · exact absurd (List.prefix_nil.mp hdone) (by simp)
  | append_singleton l y ih =>
    have hfold : (l ++ [y]).foldl step s = step (l.foldl step s) y := by simp
    constructor
    · intro h done x hdone
      have hbefore : ∀ done, done <+: l → Inv (done.foldl step s) :=
        fun done hdone => h done (List.prefix_concat_iff.mpr (.inr hdone))
      rcases concat_prefix_concat_iff.mp hdone with hdone | ⟨rfl, rfl⟩
      · exact ih.mp hbefore done x hdone
      · exact (hstep _ _ (hbefore done List.prefix_rfl)).mp (hfold ▸ h _ List.prefix_rfl)
    · intro h done hdone
      have hbefore : ∀ done, done <+: l → Inv (done.foldl step s) :=
        ih.mpr fun done x hdone => h done x (concat_prefix_concat_iff.mpr (.inl hdone))
      rcases List.prefix_concat_iff.mp hdone with rfl | hdone
      · rw [hfold]
        exact (hstep _ _ (hbefore l List.prefix_rfl)).mpr (h l y List.prefix_rfl)
      · exact hbefore done hdone

end GroupPolicy

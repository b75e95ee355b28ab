import Mathlib.Data.List.Flatten
import Mathlib.Data.List.Nodup

namespace GroupPolicy

/-- Whether a list is another one with a block put in at one place. -/
def HasBlock {α : Type} (block old new : List α) : Prop :=
  ∃ front back, old = front ++ back ∧ new = front ++ block ++ back

namespace HasBlock

variable {α β : Type} {block old new : List α}

theorem append_left (h : HasBlock block old new) (l : List α) : HasBlock block (l ++ old) (l ++ new) := by
  obtain ⟨front, back, rfl, rfl⟩ := h
  exact ⟨l ++ front, back, by simp, by simp⟩

theorem append_right (h : HasBlock block old new) (l : List α) : HasBlock block (old ++ l) (new ++ l) := by
  obtain ⟨front, back, rfl, rfl⟩ := h
  exact ⟨front, back ++ l, by simp, by simp⟩

theorem flatMap_right (h : HasBlock block old new) (f : α → List β) :
    HasBlock (block.flatMap f) (old.flatMap f) (new.flatMap f) := by
  obtain ⟨front, back, rfl, rfl⟩ := h
  exact ⟨front.flatMap f, back.flatMap f, by simp, by simp⟩

/-- If a walk meets a block more at one of its stations, and the same at all others, it meets the block in
one place. -/
theorem flatMap {f g : β → List α} {l : List β} {b : β} (hl : l.Nodup) (hb : b ∈ l)
    (hself : HasBlock block (f b) (g b)) (hothers : ∀ a ∈ l, a ≠ b → g a = f a) :
    HasBlock block (l.flatMap f) (l.flatMap g) := by
  obtain ⟨s, t, rfl⟩ := List.append_of_mem hb
  obtain ⟨-, ht, hdisjoint⟩ := List.nodup_append.mp hl
  have hbefore : s.flatMap g = s.flatMap f := List.flatMap_congr fun a ha =>
    hothers a (List.mem_append_left _ ha) (hdisjoint a ha b List.mem_cons_self)
  have hafter : t.flatMap g = t.flatMap f := List.flatMap_congr fun a ha => by
    refine hothers a (List.mem_append_right _ (List.mem_cons_of_mem b ha)) ?_
    rintro rfl
    exact (List.nodup_cons.mp ht).1 ha
  rw [List.flatMap_append, List.flatMap_append, List.flatMap_cons, List.flatMap_cons, hbefore, hafter]
  exact (hself.append_right _).append_left _

theorem length_eq (h : HasBlock block old new) : new.length = old.length + block.length := by
  obtain ⟨front, back, rfl, rfl⟩ := h
  simp only [List.length_append]
  omega

end HasBlock

end GroupPolicy

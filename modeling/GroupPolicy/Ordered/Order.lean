namespace GroupPolicy

/-- A type whose elements are told apart by their ranks. -/
class Ranked (α : Type) where
  /-- The place of an element in the order. -/
  rank : α → Nat
  /-- Different elements have different ranks. -/
  rank_inj : ∀ {a b : α}, rank a = rank b → a = b

/-- Ranked elements are ordered by their ranks. -/
instance (priority := low) Ranked.toOrd {α : Type} [Ranked α] : Ord α :=
  ⟨compareOn Ranked.rank⟩

instance Ranked.instTransOrd {α : Type} [Ranked α] : Std.TransOrd α :=
  inferInstanceAs (Std.TransCmp (compareOn (Ranked.rank (α := α))))

instance Ranked.instLawfulEqOrd {α : Type} [Ranked α] : Std.LawfulEqOrd α where
  eq_of_compare h := Ranked.rank_inj (Std.LawfulEqOrd.eq_of_compare (α := Nat) h)
  compare_self := Std.ReflOrd.compare_self (α := Nat)

end GroupPolicy

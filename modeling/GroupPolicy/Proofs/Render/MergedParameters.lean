import GroupPolicy.Proofs.Render.Constraints

namespace GroupPolicy

namespace SortedMap

variable {κ ν : Type} [Ord κ] [Std.TransOrd κ] [Std.LawfulEqOrd κ] [DecidableEq κ]

/-- The map with an entry put at a key, if the key is still free. -/
def insertNew (m : SortedMap κ ν) (e : κ × ν) : SortedMap κ ν :=
  if m.contains e.1 then m else m.insert e.1 e.2

/-- The map together with the entries of another one at the keys that are still free. -/
def fill (m n : SortedMap κ ν) : SortedMap κ ν := n.toList.foldl insertNew m

theorem get?_insertNew (m : SortedMap κ ν) (e : κ × ν) (k : κ) :
    (m.insertNew e).get? k = (m.get? k).or (if k = e.1 then some e.2 else none) := by
  rw [insertNew, contains]
  by_cases hk : k = e.1
  · subst hk
    cases hget : m.get? e.1 <;> simp [hget]
  · rw [if_neg hk, Option.or_none]
    split
    · rfl
    · exact get?_insert_of_ne m e.2 hk

theorem get?_fill (m n : SortedMap κ ν) (k : κ) :
    (m.fill n).get? k = (m.get? k).or (n.get? k) := by
  obtain ⟨l, hl⟩ := n
  change (l.foldl insertNew m).get? k =
    (m.get? k).or ((l.find? fun e => compare k e.1 == .eq).map (·.2))
  clear hl
  induction l generalizing m with
  | nil => simp
  | cons e l ih =>
    rw [List.foldl_cons, ih, get?_insertNew, Option.or_assoc]
    congr 1
    by_cases hk : k = e.1
    · subst hk
      rw [List.find?_cons_of_pos (by simp)]
      simp
    · have hne : compare k e.1 ≠ .eq := fun h => hk (Std.LawfulEqOrd.eq_of_compare h)
      rw [List.find?_cons_of_neg (by simpa using hne), if_neg hk, Option.none_or]

end SortedMap

namespace Parameter

/-- The value that a parameter gives: its number if it has one, or else its text, or else its range. -/
inductive Gives (p : Parameter) : ParamValue → Prop where
  | int {n : Int64} (h : p.intValue = some n) : p.Gives (.int n)
  | text {s : String} (hint : p.intValue = none) (h : p.textValue = some s) : p.Gives (.text s)
  | range {r : NumberRange} (hint : p.intValue = none) (htext : p.textValue = none)
      (h : p.rangeValue = some r) : p.Gives (.range r)

theorem value_eq_some_iff {p : Parameter} {v : ParamValue} : p.value = some v ↔ p.Gives v := by
  constructor
  · intro h
    unfold value at h
    cases hint : p.intValue with
    | some n =>
      obtain rfl : ParamValue.int n = v := by simpa [hint] using h
      exact .int hint
    | none =>
      cases htext : p.textValue with
      | some s =>
        obtain rfl : ParamValue.text s = v := by simpa [hint, htext] using h
        exact .text hint htext
      | none =>
        obtain ⟨r, hr, rfl⟩ : ∃ r, p.rangeValue = some r ∧ ParamValue.range r = v := by
          simpa [hint, htext] using h
        exact .range hint htext hr
  · rintro (h | ⟨hint, h⟩ | ⟨hint, htext, h⟩)
    · simp [value, h]
    · simp [value, hint, h]
    · simp [value, hint, htext, h]

theorem value_eq_none_iff {p : Parameter} :
    p.value = none ↔ p.intValue = none ∧ p.textValue = none ∧ p.rangeValue = none := by
  simp [value, and_assoc]

end Parameter

theorem get?_mergeParameters (cs : List Classifier) (name : String) :
    (mergeParameters cs).get? name = (cs.flatMap Classifier.parameters).findSome? fun p =>
      if p.name = name then p.value else none := by
  rw [mergeParameters, Parameters.get?_foldl_addNew, List.head?_filterMap]
  rfl

theorem get?_mergeParameters_append (cs more : List Classifier) (name : String) :
    (mergeParameters (cs ++ more)).get? name =
      ((mergeParameters cs).get? name).or ((mergeParameters more).get? name) := by
  simp only [get?_mergeParameters, List.flatMap_append, List.findSome?_append]

/-- A name is bound exactly if one of its parameters has a value, and then to that of the first such
parameter, classifier by classifier: a number is preferred to a text, and a text to a range. Merging more
classifiers adds what they bind, except for the names that are bound already. -/
theorem first_value_wins (cs : List Classifier) :
    (∀ name, (mergeParameters cs).contains name = true ↔ ∃ c ∈ cs, ∃ p ∈ c.parameters, p.name = name ∧
      ¬(p.intValue = none ∧ p.textValue = none ∧ p.rangeValue = none)) ∧
    (∀ name v, (mergeParameters cs).get? name = some v ↔ ∃ before p after,
      cs.flatMap Classifier.parameters = before ++ p :: after ∧ p.name = name ∧ p.Gives v ∧
        ∀ q ∈ before, q.name = name →
          q.intValue = none ∧ q.textValue = none ∧ q.rangeValue = none) ∧
    ∀ more, mergeParameters (cs ++ more) = (mergeParameters cs).fill (mergeParameters more) ∧
      ∀ name, (mergeParameters (cs ++ more)).get? name =
        ((mergeParameters cs).get? name).or ((mergeParameters more).get? name) := by
  refine ⟨fun name => ?_, fun name v => ?_, fun more => ⟨?_, get?_mergeParameters_append cs more⟩⟩
  · rw [SortedMap.contains, get?_mergeParameters, List.findSome?_isSome_iff]
    simp only [List.mem_flatMap, ← Parameter.value_eq_none_iff]
    constructor
    · rintro ⟨p, ⟨c, hc, hp⟩, hvalue⟩
      split at hvalue
      next hname => exact ⟨c, hc, p, hp, hname, Option.isSome_iff_ne_none.mp hvalue⟩
      next => cases hvalue
    · rintro ⟨c, hc, p, hp, hname, hvalue⟩
      refine ⟨p, ⟨c, hc, hp⟩, ?_⟩
      rw [if_pos hname]
      exact Option.isSome_iff_ne_none.mpr hvalue
  · rw [get?_mergeParameters, List.findSome?_eq_some_iff]
    simp only [ite_eq_right_iff, Option.ite_none_right_eq_some, Parameter.value_eq_some_iff,
      Parameter.value_eq_none_iff, and_assoc]
  · apply SortedMap.ext_get?
    intro name
    rw [get?_mergeParameters_append, SortedMap.get?_fill]

/-- The first parameter has no value and does not shadow the second, which prefers its number; the third comes
too late. -/
example : (mergeParameters
    [{ name := "empty", definitionId := "", direction := .in, parameters := [{ name := "proto" }] },
     { name := "tcp", definitionId := "", direction := .in,
       parameters := [{ name := "proto", intValue := some 6, textValue := some "tcp" }] },
     { name := "udp", definitionId := "", direction := .in,
       parameters := [{ name := "proto", intValue := some 17 }] }]).toList = [("proto", .int 6)] := by
  decide

end GroupPolicy

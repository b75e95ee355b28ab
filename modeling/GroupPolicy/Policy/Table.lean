import GroupPolicy.Ordered.Map
import GroupPolicy.Policy.Endpoint
import GroupPolicy.Policy.Rule

namespace GroupPolicy

/-- A policy put in its place: behind all those that come before it or tie with it. -/
def AppliedPolicy.place (p : AppliedPolicy) : List AppliedPolicy → List AppliedPolicy
  | [] => [p]
  | q :: r => if q.precedence p = .gt then p :: q :: r else q :: p.place r

theorem AppliedPolicy.mem_place {p q : AppliedPolicy} {l : List AppliedPolicy} :
    q ∈ p.place l ↔ q = p ∨ q ∈ l := by
  induction l with
  | nil => simp [place]
  | cons a r ih =>
    unfold place
    split
    · simp
    · simp only [List.mem_cons, ih]
      constructor
      · rintro (h | h | h)
        · exact .inr (.inl h)
        · exact .inl h
        · exact .inr (.inr h)
      · rintro (h | h | h)
        · exact .inr (.inl h)
        · exact .inl h
        · exact .inr (.inr h)

/-- The policies between endpoints, by the endpoint they apply to and by its peer. -/
structure PolicyTable where
  /-- The row of each endpoint, with a cell for each of its peers. -/
  rows : SortedMap EndpointKey (SortedMap EndpointKey (List AppliedPolicy))
  deriving DecidableEq

namespace PolicyTable

/-- The table without policies. -/
def empty : PolicyTable := ⟨∅⟩

instance : EmptyCollection PolicyTable := ⟨empty⟩

instance : Inhabited PolicyTable := ⟨empty⟩

/-- The cells of an endpoint. -/
def row (t : PolicyTable) (owner : EndpointKey) : SortedMap EndpointKey (List AppliedPolicy) :=
  t.rows.getD owner ∅

/-- The policies of an endpoint towards a peer. -/
def policies (t : PolicyTable) (owner peer : EndpointKey) : List AppliedPolicy :=
  (t.row owner).getD peer []

/-- The peers of an endpoint by key, with the policies towards each. -/
def peers (t : PolicyTable) (owner : EndpointKey) : List (EndpointKey × List AppliedPolicy) :=
  (t.row owner).toList

/-- The endpoints that have policies, by key. -/
def owners (t : PolicyTable) : List EndpointKey := t.rows.keys

/-- The number of cells. -/
def cellCount (t : PolicyTable) : Nat := (t.rows.values.flatMap SortedMap.values).length

/-- Whether no endpoint has a policy. -/
def isEmpty (t : PolicyTable) : Bool := t.rows.isEmpty

/-- The table with one more policy. A policy that the cell holds already changes nothing. -/
def insert (t : PolicyTable) (owner peer : EndpointKey) (policy : AppliedPolicy) : PolicyTable :=
  let cell := t.policies owner peer
  if policy ∈ cell then t
  else ⟨t.rows.insert owner ((t.row owner).insert peer (policy.place cell))⟩

theorem row_insert_of_ne (t : PolicyTable) {owner other : EndpointKey} (peer : EndpointKey)
    (policy : AppliedPolicy) (h : other ≠ owner) :
    (t.insert owner peer policy).row other = t.row other := by
  unfold insert
  dsimp only
  split
  · rfl
  · simp [row, SortedMap.getD, SortedMap.get?_insert_of_ne _ _ h]

/-- A cell after an insertion into it. -/
theorem policies_insert_self (t : PolicyTable) (owner peer : EndpointKey) (policy : AppliedPolicy) :
    (t.insert owner peer policy).policies owner peer =
      if policy ∈ t.policies owner peer then t.policies owner peer
      else policy.place (t.policies owner peer) := by
  unfold insert
  dsimp only
  split
  · rfl
  · simp [policies, row, SortedMap.getD]

end PolicyTable

end GroupPolicy

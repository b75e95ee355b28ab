import GroupPolicy.Proofs.Ordered.Map
import GroupPolicy.Proofs.Render.Constraints
import Mathlib.Data.List.Chain
import Mathlib.Order.Bounds.Basic

namespace GroupPolicy

namespace ClassifierKind

def depth : ClassifierKind → Nat
  | .etherType => 0
  | .ipProtocol => 1
  | .l4 => 2

theorem depth_injective : Function.Injective depth := by
  intro j k h
  cases j <;> cases k <;> simp_all [depth]

/-- Kinds are ordered from the general to the specific. -/
instance : LinearOrder ClassifierKind := LinearOrder.lift' depth depth_injective

/-- Whether a kind ends a chain that begins with the first of some kinds and goes down level by level
through kinds behind it, in their order. -/
def EndsChainIn (k : ClassifierKind) (kinds : List ClassifierKind) : Prop :=
  ∃ first rest links, kinds = first :: rest ∧ links.Sublist rest ∧
    (first :: links).IsChain (fun j k => k.parent = some j) ∧ (first :: links).getLast? = some k

variable {first j k : ClassifierKind} {links rest kinds : List ClassifierKind}

theorem mem_lineage_iff_le : j ∈ k.lineage ↔ j ≤ k := by
  cases j <;> cases k <;> decide

/-- There is at most one chain from a kind to another one: down through the levels between them. -/
theorem isChain_iff : (first :: links).IsChain (fun j k => k.parent = some j) ∧
    (first :: links).getLast? = some k ↔ first ≤ k ∧ links = k.lineage.drop first.lineage.length := by
  constructor
  · rintro ⟨hchain, hlast⟩
    induction links generalizing first with
    | nil =>
      obtain rfl : first = k := by simpa using hlast
      exact ⟨le_refl first, by simp⟩
    | cons x links ih =>
      obtain ⟨hparent, hrest⟩ := List.isChain_cons_cons.mp hchain
      rw [List.getLast?_cons_cons] at hlast
      obtain ⟨hle, rfl⟩ := ih hrest hlast
      clear hchain hrest hlast ih
      revert hparent hle
      cases first <;> cases x <;> cases k <;> decide
  · rintro ⟨hle, rfl⟩
    revert hle
    cases first <;> cases k <;> decide

theorem endsChainIn_cons :
    k.EndsChainIn (first :: rest) ↔ first ≤ k ∧ (k.lineage.drop first.lineage.length).Sublist rest := by
  constructor
  · rintro ⟨_, _, links, heq, hsub, hchain⟩
    obtain ⟨rfl, rfl⟩ := List.cons.inj heq
    obtain ⟨hle, rfl⟩ := isChain_iff.mp hchain
    exact ⟨hle, hsub⟩
  · rintro ⟨hle, hsub⟩
    exact ⟨first, rest, _, rfl, hsub, isChain_iff.mpr ⟨hle, rfl⟩⟩

theorem le_of_foldl_advance (h : kinds.foldl advance (some j) = some k) : j ≤ k := by
  rw [← mem_lineage_iff_le, mem_lineage_foldl_advance h, List.drop_length]
  exact List.nil_sublist kinds

/-- A walk from the first of some kinds gets as far as any chain. -/
theorem isGreatest_of_foldl_advance (h : kinds.foldl advance none = some k) :
    IsGreatest {j | j.EndsChainIn kinds} k := by
  cases kinds with
  | nil => cases h
  | cons first rest =>
    refine ⟨endsChainIn_cons.mpr ⟨le_of_foldl_advance h, ?_⟩, fun j hj => ?_⟩
    · exact (mem_lineage_foldl_advance h k).mp (mem_lineage_iff_le.mpr (le_refl k))
    · exact mem_lineage_iff_le.mp ((mem_lineage_foldl_advance h j).mpr (endsChainIn_cons.mp hj).2)

theorem exists_foldl_advance (kinds : List ClassifierKind) (j : ClassifierKind) :
    ∃ k, kinds.foldl advance (some j) = some k := by
  induction kinds generalizing j with
  | nil => exact ⟨j, rfl⟩
  | cons x kinds ih =>
    rw [List.foldl_cons, advance]
    split
    · exact ih x
    · exact ih j

theorem foldl_advance_eq_none_iff : kinds.foldl advance none = none ↔ kinds = [] := by
  cases kinds with
  | nil => simp
  | cons first rest =>
    obtain ⟨k, hk⟩ := exists_foldl_advance rest first
    simp [advance, hk]

end ClassifierKind

/-- Why a candidate has no say after others that lead to some kind: its own kind is unknown, or it
repeats the kind reached, goes back to a more general one, or skips a level. -/
inductive Classifier.IsIdle (c : Classifier) (current : Option ClassifierKind) : Prop where
  | unknown (hid : ClassifierKind.ofId? c.definitionId = none)
  | repeated {k : ClassifierKind} (hid : ClassifierKind.ofId? c.definitionId = some k)
      (hcurrent : current = some k)
  | ancestor {j k : ClassifierKind} (hid : ClassifierKind.ofId? c.definitionId = some k)
      (hcurrent : current = some j) (hlt : k < j)
  | skipping {j k : ClassifierKind} (hid : ClassifierKind.ofId? c.definitionId = some k)
      (hcurrent : current = some j) (hlt : j < k) (hparent : k.parent ≠ some j)

section Kinds

variable {cs before after more : List Classifier} {c : Classifier} {d : Direction} {k : ClassifierKind}

theorem knownKinds_append : knownKinds (cs ++ more) d = knownKinds cs d ++ knownKinds more d := by
  rw [knownKinds, List.filter_append, List.filterMap_append, knownKinds, knownKinds]

/-- A candidate without a say leaves the kind that is reached as it is. -/
theorem Classifier.IsIdle.foldl_advance {current : Option ClassifierKind} (h : c.IsIdle current) :
    (knownKinds [c] d).foldl ClassifierKind.advance current = current := by
  have hstep (k : ClassifierKind) (hid : ClassifierKind.ofId? c.definitionId = some k)
      (hadvance : ClassifierKind.advance current k = current) :
      (knownKinds [c] d).foldl ClassifierKind.advance current = current := by
    unfold knownKinds
    cases happlies : c.appliesIn d <;> simp [happlies, hid, hadvance]
  cases h with
  | unknown hid =>
    unfold knownKinds
    cases happlies : c.appliesIn d <;> simp [happlies, hid]
  | repeated hid hcurrent =>
    subst hcurrent
    refine hstep _ hid (if_neg ?_)
    cases ‹ClassifierKind› <;> decide
  | @ancestor j k hid hcurrent hlt =>
    subst hcurrent
    refine hstep _ hid (if_neg ?_)
    revert hlt
    cases j <;> cases k <;> decide
  | skipping hid hcurrent hlt hparent =>
    subst hcurrent
    exact hstep _ hid (if_neg hparent)

theorem foldl_knownKinds_insert
    (h : c.IsIdle (leadingKind? (before.filter fun c => c.appliesIn d))) :
    (knownKinds (before ++ c :: after) d).foldl ClassifierKind.advance none =
      (knownKinds (before ++ after) d).foldl ClassifierKind.advance none := by
  have hsplit : before ++ c :: after = before ++ [c] ++ after := by simp
  have hidle : (knownKinds [c] d).foldl ClassifierKind.advance
      ((knownKinds before d).foldl ClassifierKind.advance none) =
        (knownKinds before d).foldl ClassifierKind.advance none := h.foldl_advance
  rw [hsplit, knownKinds_append, knownKinds_append, knownKinds_append, List.foldl_append,
    List.foldl_append, hidle, List.foldl_append]

/-- Whether some classifier that applies in a direction gives a value to a parameter. -/
def CarriesValue (cs : List Classifier) (d : Direction) : Prop :=
  ∃ c ∈ cs, c.appliesIn d = true ∧ ∃ p ∈ c.parameters, p.value ≠ none

theorem CarriesValue.of_subset {cs' : List Classifier} (h : CarriesValue cs d) (hsub : cs ⊆ cs') :
    CarriesValue cs' d := by
  obtain ⟨c, hc, hvalue⟩ := h
  exact ⟨c, hsub hc, hvalue⟩

theorem isEmpty_mergeParameters_iff :
    (mergeParameters (cs.filter fun c => c.appliesIn d)).isEmpty = true ↔ ¬CarriesValue cs d := by
  have hget (name : String) : (mergeParameters (cs.filter fun c => c.appliesIn d)).get? name =
      (givenValues cs d name).head? := Parameters.get?_foldl_addNew _ _ name
  simp only [SortedMap.isEmpty_iff, hget, List.head?_eq_none_iff, givenValues,
    List.filterMap_eq_nil_iff, List.mem_flatMap, List.mem_filter, CarriesValue, not_exists, not_and,
    not_not]
  constructor
  · intro h c hc happlies p hp
    simpa using h p.name p ⟨c, ⟨hc, happlies⟩, hp⟩
  · rintro h name p ⟨c, ⟨hc, happlies⟩, hp⟩
    rw [h c hc happlies p hp, ite_self]

theorem ofClassifiers?_eq_none_iff : Specialization.ofClassifiers? cs d = none ↔
    knownKinds cs d = [] ∨ ¬CarriesValue cs d := by
  rw [← isEmpty_mergeParameters_iff, ← ClassifierKind.foldl_advance_eq_none_iff]
  unfold Specialization.ofClassifiers?
  dsimp only
  split
  next hempty => simp [hempty]
  next hvalues => simp [hvalues, leadingKind?, knownKinds]

theorem exists_ofClassifiers?_iff :
    (∃ s, Specialization.ofClassifiers? cs d = some s ∧ s.kind = k) ↔
      CarriesValue cs d ∧ (knownKinds cs d).foldl ClassifierKind.advance none = some k := by
  have hvalue : (mergeParameters (cs.filter fun c => c.appliesIn d)).isEmpty = true ↔
      ¬CarriesValue cs d :=
    isEmpty_mergeParameters_iff
  unfold Specialization.ofClassifiers?
  dsimp only
  split
  next hempty => simp [hvalue.mp hempty]
  next hgiven =>
    have hcarries : CarriesValue cs d := not_not.mp fun hnone => hgiven (hvalue.mpr hnone)
    simp only [Option.map_eq_some_iff, hcarries, true_and]
    constructor
    · rintro ⟨_, ⟨k', hk', rfl⟩, rfl⟩
      exact hk'
    · intro hk
      exact ⟨_, ⟨k, hk, rfl⟩, rfl⟩

end Kinds

/-- Classifiers amount to nothing exactly if none of those that apply in the direction is of a known
kind, or none of them gives a value to a parameter. Otherwise they amount to the most specific kind
that ends a chain which begins with the first known kind and goes on through known kinds behind it.
Classifiers that are added at the end never make the kind more general, and a candidate that is put in
anywhere leaves the kind as it is if it is of unknown kind, or repeats, generalizes or skips a level
after the kind reached there. -/
theorem leading_kind_greatest (cs : List Classifier) (d : Direction) :
    (Specialization.ofClassifiers? cs d = none ↔ knownKinds cs d = [] ∨
      ∀ c ∈ cs, c.appliesIn d = true → ∀ p ∈ c.parameters, p.value = none) ∧
    ∀ s, Specialization.ofClassifiers? cs d = some s →
      IsGreatest {k | k.EndsChainIn (knownKinds cs d)} s.kind ∧
      (∀ more, ∃ s', Specialization.ofClassifiers? (cs ++ more) d = some s' ∧ s.kind ≤ s'.kind) ∧
      ∀ before c after, cs = before ++ after →
        c.IsIdle (leadingKind? (before.filter fun c => c.appliesIn d)) →
        ∃ s', Specialization.ofClassifiers? (before ++ c :: after) d = some s' ∧ s'.kind = s.kind := by
  refine ⟨?_, fun s hs => ?_⟩
  · rw [ofClassifiers?_eq_none_iff]
    simp [CarriesValue]
  · obtain ⟨hvalue, hkind⟩ := exists_ofClassifiers?_iff.mp ⟨s, hs, rfl⟩
    refine ⟨ClassifierKind.isGreatest_of_foldl_advance hkind, fun more => ?_, ?_⟩
    · obtain ⟨k, hk⟩ := ClassifierKind.exists_foldl_advance (knownKinds more d) s.kind
      have hlonger : (knownKinds (cs ++ more) d).foldl ClassifierKind.advance none = some k := by
        rw [knownKinds_append, List.foldl_append, hkind, hk]
      obtain ⟨s', hs', rfl⟩ := exists_ofClassifiers?_iff.mpr
        ⟨hvalue.of_subset (List.subset_append_left cs more), hlonger⟩
      exact ⟨s', hs', ClassifierKind.le_of_foldl_advance hk⟩
    · rintro before c after rfl hidle
      refine exists_ofClassifiers?_iff.mpr ⟨hvalue.of_subset fun x hx => ?_, ?_⟩
      · simp only [List.mem_append, List.mem_cons] at hx ⊢
        tauto
      · rw [foldl_knownKinds_insert hidle, hkind]

namespace Sample

/-- A classifier of a kind that gives no values. -/
def bareClassifier (id : String) : Classifier := { name := id, definitionId := id, direction := .in }

/-- A classifier of ports, by the protocol alone. -/
def portClassifier : Classifier where
  name := "ports"
  definitionId := ClassifierKind.l4.id
  direction := .bidirectional
  parameters := [{ name := protocolParameter, intValue := some 6 }]

end Sample

/-- As long as the classifier of ports comes before that of protocols only, the ports are out of reach. -/
theorem leading_kind_greatest_skipping :
    let ether := Sample.bareClassifier ClassifierKind.etherType.id
    let ip := { Sample.portClassifier with definitionId := ClassifierKind.ipProtocol.id }
    ∃ s s', Specialization.ofClassifiers? [ether, ip] .in = some s ∧
      Specialization.ofClassifiers? [ether, Sample.portClassifier, ip] .in = some s' ∧
      IsGreatest {k | k.EndsChainIn [.etherType, .ipProtocol]} s.kind ∧ s'.kind = s.kind := by
  intro ether ip
  obtain ⟨s, hs⟩ : ∃ s, Specialization.ofClassifiers? [ether, ip] .in = some s := ⟨_, rfl⟩
  have hidle : Sample.portClassifier.IsIdle (leadingKind? ([ether].filter fun c => c.appliesIn .in)) :=
    .skipping (j := .etherType) (k := .l4) rfl rfl (by decide) (by decide)
  obtain ⟨hgreatest, -, hinsert⟩ := (leading_kind_greatest [ether, ip] .in).2 s hs
  obtain ⟨s', hs', hkind⟩ := hinsert [ether] Sample.portClassifier [ip] rfl hidle
  exact ⟨s, s', hs, hs', hgreatest, hkind⟩

end GroupPolicy

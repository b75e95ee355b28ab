import GroupPolicy.Proofs.Render.Constraints
import Mathlib.Data.List.Induction

namespace GroupPolicy

namespace IpMatch

/-- The prefix at an end. -/
def cidrAt (role : AddressRole) (m : IpMatch) : Option Cidr :=
  match role with
  | .source => m.source
  | .destination => m.destination

/-- All prefixes of a match are of its version. -/
def IsUniform (m : IpMatch) : Prop := ∀ role p, m.cidrAt role = some p → p.family = m.family

end IpMatch

namespace Draft

/-- What can be set in a draft. -/
inductive Step where
  | protocol (number : UInt8)
  | etherType (family : Family)
  | ports (role : AddressRole) (bounds : PortBounds)
  | cidr (role : AddressRole) (p : Cidr)
  | action (verdict : Verdict)
  deriving DecidableEq, Repr

/-- The draft after a step. -/
def apply (x : Draft) : Step → Draft
  | .protocol number => { x with protocol := some number }
  | .etherType family => { x with etherType := some family }
  | .ports .source bounds => { x with sourcePorts := bounds }
  | .ports .destination bounds => { x with destinationPorts := bounds }
  | .cidr .source p => x.withSource p
  | .cidr .destination p => x.withDestination p
  | .action verdict => { x with action := verdict }

/-- The draft after some steps. -/
def run (x : Draft) (steps : List Step) : Draft := steps.foldl apply x

/-- The prefix at an end. -/
def cidrAt (role : AddressRole) (x : Draft) : Option Cidr := x.ip.bind (IpMatch.cidrAt role)

namespace Step

def protocol? : Step → Option UInt8
  | .protocol number => some number
  | _ => none

def etherType? : Step → Option Family
  | .etherType family => some family
  | _ => none

def ports? (role : AddressRole) : Step → Option PortBounds
  | .ports other bounds => if other = role then some bounds else none
  | _ => none

def cidr? : Step → Option Cidr
  | .cidr _ p => some p
  | _ => none

def verdict? : Step → Option Verdict
  | .action verdict => some verdict
  | _ => none

end Step

/-- The last value that steps set. -/
def lastSet {α : Type} (value? : Step → Option α) (steps : List Step) : Option α :=
  (steps.filterMap value?).getLast?

/-- A prefix is the last one that steps set at an end, and all that is set at the other end after it is of
its version. -/
def Prevails (role : AddressRole) (p : Cidr) (steps : List Step) : Prop :=
  ∃ before after, steps = before ++ .cidr role p :: after ∧
    ∀ other q, .cidr other q ∈ after → other ≠ role ∧ q.family = p.family

variable {x : Draft} {s : Step} {steps : List Step} {role : AddressRole} {p : Cidr}

theorem run_concat (x : Draft) (steps : List Step) (s : Step) :
    x.run (steps ++ [s]) = (x.run steps).apply s := by
  rw [run, List.foldl_append]
  rfl

theorem lastSet_concat {α : Type} (value? : Step → Option α) (steps : List Step) (s : Step) :
    lastSet value? (steps ++ [s]) = (value? s).or (lastSet value? steps) := by
  rw [lastSet, List.filterMap_append, List.getLast?_append]
  cases hs : value? s <;> simp [hs, lastSet]

theorem lastSet_map {α β : Type} (value? : Step → Option α) (f : α → β) (steps : List Step) :
    lastSet (fun s => (value? s).map f) steps = (lastSet value? steps).map f := by
  rw [lastSet, lastSet, ← List.getLast?_map, List.map_filterMap]

theorem lastSet_eq_none_iff {α : Type} {value? : Step → Option α} :
    lastSet value? steps = none ↔ ∀ s ∈ steps, value? s = none := by
  rw [lastSet, List.getLast?_eq_none_iff, List.filterMap_eq_nil_iff]

theorem prevails_concat : Prevails role p (steps ++ [s]) ↔ s = .cidr role p ∨
    Prevails role p steps ∧ ∀ other q, s = .cidr other q → other ≠ role ∧ q.family = p.family := by
  constructor
  · rintro ⟨before, after, heq, hafter⟩
    cases after using List.reverseRecOn with
    | nil =>
      obtain ⟨-, hs⟩ := List.append_inj' heq rfl
      exact .inl (List.singleton_inj.mp hs)
    | append_singleton after s' =>
      rw [← List.cons_append, ← List.append_assoc] at heq
      obtain ⟨rfl, hs⟩ := List.append_inj' heq rfl
      obtain rfl := List.singleton_inj.mp hs
      refine .inr ⟨⟨before, after, rfl, fun other q hq => ?_⟩, fun other q hq => ?_⟩
      · exact hafter other q (List.mem_append_left _ hq)
      · exact hafter other q (by simp [hq])
  · rintro (rfl | ⟨⟨before, after, rfl, hafter⟩, hs⟩)
    · exact ⟨steps, [], rfl, by simp⟩
    · refine ⟨before, after ++ [s], by simp, fun other q hq => ?_⟩
      rcases List.mem_append.mp hq with hq | hq
      · exact hafter other q hq
      · exact hs other q (List.mem_singleton.mp hq).symm

/-- A field that every step sets to a value or leaves as it is holds the last value that is set. -/
theorem run_eq_or {α : Type} (field : Draft → Option α) (value? : Step → Option α)
    (h : ∀ x s, field (x.apply s) = (value? s).or (field x)) (x : Draft) (steps : List Step) :
    field (x.run steps) = (lastSet value? steps).or (field x) := by
  induction steps using List.reverseRecOn with
  | nil => rfl
  | append_singleton steps s ih => rw [run_concat, h, ih, lastSet_concat, Option.or_assoc]

theorem run_eq_getD {α : Type} (field : Draft → α) (value? : Step → Option α)
    (h : ∀ x s, field (x.apply s) = (value? s).getD (field x)) (x : Draft) (steps : List Step) :
    field (x.run steps) = (lastSet value? steps).getD (field x) := by
  apply Option.some.inj
  rw [← Option.or_some]
  refine run_eq_or (fun x => some (field x)) value? (fun x s => ?_) x steps
  rw [Option.or_some, h]

/-- A step sets the field that it is about, and leaves the others as they are. -/
theorem apply_eq (x : Draft) (s : Step) : x.apply s =
    { name := x.name
      protocol := s.protocol?.or x.protocol
      etherType := s.etherType?.or x.etherType
      sourcePorts := (s.ports? .source).getD x.sourcePorts
      destinationPorts := (s.ports? .destination).getD x.destinationPorts
      ip := (x.apply s).ip
      action := s.verdict?.getD x.action } := by
  cases s with
  | ports role bounds => cases role <;> rfl
  | cidr role p => cases role <;> rfl
  | _ => rfl

/-- After some steps every field but the addresses is as it was set last. -/
theorem run_eq (x : Draft) (steps : List Step) : x.run steps =
    { name := x.name
      protocol := (lastSet Step.protocol? steps).or x.protocol
      etherType := (lastSet Step.etherType? steps).or x.etherType
      sourcePorts := (lastSet (Step.ports? .source) steps).getD x.sourcePorts
      destinationPorts := (lastSet (Step.ports? .destination) steps).getD x.destinationPorts
      ip := (x.run steps).ip
      action := (lastSet Step.verdict? steps).getD x.action } := by
  have hname : (x.run steps).name = x.name :=
    List.foldlRecOn (motive := fun y => y.name = x.name) steps apply rfl fun y hy s _ =>
      (congrArg name (y.apply_eq s)).trans hy
  rw [← run_eq_or protocol _ (fun x s => congrArg protocol (x.apply_eq s)) x steps,
    ← run_eq_or etherType _ (fun x s => congrArg etherType (x.apply_eq s)) x steps,
    ← run_eq_getD sourcePorts _ (fun x s => congrArg sourcePorts (x.apply_eq s)) x steps,
    ← run_eq_getD destinationPorts _ (fun x s => congrArg destinationPorts (x.apply_eq s)) x steps,
    ← run_eq_getD action _ (fun x s => congrArg action (x.apply_eq s)) x steps, ← hname]

/-- A prefix brings its version; of the prefix at the other end it keeps one of that version. -/
theorem apply_cidr (x : Draft) (role : AddressRole) (p : Cidr) : ∃ m, (x.apply (.cidr role p)).ip = some m ∧
    m.family = p.family ∧ ∀ other, m.cidrAt other = if role = other then some p
      else x.ip.bind fun ip => if ip.family = p.family then ip.cidrAt other else none := by
  cases role <;> exact ⟨_, rfl, rfl, fun other => by cases other <;> rfl⟩

theorem ip_apply_of_cidr?_eq_none (h : s.cidr? = none) (x : Draft) : (x.apply s).ip = x.ip := by
  cases s with
  | ports role bounds => cases role <;> rfl
  | cidr role p => cases h
  | _ => rfl

theorem family_apply (x : Draft) (s : Step) :
    (x.apply s).ip.map IpMatch.family = (s.cidr?.map Cidr.family).or (x.ip.map IpMatch.family) := by
  cases s with
  | cidr role p =>
    obtain ⟨m, hm, hfamily, -⟩ := x.apply_cidr role p
    rw [hm, Option.map_some, hfamily]
    rfl
  | _ => rw [ip_apply_of_cidr?_eq_none rfl]; rfl

/-- All prefixes of a draft are of the version of its match. -/
def IsUniform (x : Draft) : Prop := ∀ m, x.ip = some m → m.IsUniform

theorem IsUniform.apply (h : x.IsUniform) (s : Step) : (x.apply s).IsUniform := by
  intro m hm
  cases s with
  | cidr role p =>
    obtain ⟨m', hm', hfamily, hcidrAt⟩ := x.apply_cidr role p
    obtain rfl := Option.some.inj (hm'.symm.trans hm)
    intro other q hq
    rw [hcidrAt] at hq
    split at hq
    next => rw [hfamily, Option.some.inj hq]
    next =>
      obtain ⟨ip, hip, hq⟩ := Option.bind_eq_some_iff.mp hq
      obtain ⟨hsame, hq⟩ := Option.ite_none_right_eq_some.mp hq
      rw [hfamily, ← hsame, h ip hip other q hq]
  | _ =>
    rw [ip_apply_of_cidr?_eq_none rfl] at hm
    exact h m hm

theorem IsUniform.run (h : x.IsUniform) (steps : List Step) : (x.run steps).IsUniform :=
  List.foldlRecOn steps _ h fun _ hy s _ => hy.apply s

theorem isUniform_new (name : String) : ({ name := name } : Draft).IsUniform := fun _ h => nomatch h

/-- A prefix is at an end after a step if the step sets it, or if it was there before and the step sets no
other one there, and none of the other version at the other end. -/
theorem cidrAt_apply_eq_some_iff (h : x.IsUniform) : (x.apply s).cidrAt role = some p ↔
    s = .cidr role p ∨
      x.cidrAt role = some p ∧ ∀ other q, s = .cidr other q → other ≠ role ∧ q.family = p.family := by
  cases s with
  | cidr other q =>
    obtain ⟨m, hm, -, hcidrAt⟩ := x.apply_cidr other q
    rw [cidrAt, hm, Option.bind_some, hcidrAt]
    by_cases hrole : other = role
    · simp [hrole]
    · rw [if_neg hrole]
      constructor
      · intro hkept
        obtain ⟨ip, hip, hp⟩ := Option.bind_eq_some_iff.mp hkept
        obtain ⟨hsame, hp⟩ := Option.ite_none_right_eq_some.mp hp
        refine .inr ⟨by rw [cidrAt, hip, Option.bind_some, hp], ?_⟩
        rintro _ _ ⟨⟩
        exact ⟨hrole, by rw [← hsame, h ip hip role p hp]⟩
      · rintro (⟨⟨⟩⟩ | ⟨hp, hlater⟩)
        · exact absurd rfl hrole
        · obtain ⟨ip, hip, hp⟩ := Option.bind_eq_some_iff.mp hp
          obtain ⟨-, hfamily⟩ := hlater other q rfl
          rw [hip, Option.bind_some, if_pos (by rw [hfamily, h ip hip role p hp]), hp]
  | _ =>
    rw [cidrAt, ip_apply_of_cidr?_eq_none rfl]
    simp [cidrAt]

theorem cidrAt_run_eq_some_iff (name : String) (steps : List Step) (role : AddressRole) (p : Cidr) :
    (run { name := name } steps).cidrAt role = some p ↔ Prevails role p steps := by
  induction steps using List.reverseRecOn with
  | nil =>
    constructor
    · intro h
      cases h
    · rintro ⟨before, after, heq, -⟩
      simp at heq
  | append_singleton steps s ih =>
    rw [run_concat, cidrAt_apply_eq_some_iff ((isUniform_new name).run steps), ih, prevails_concat]

/-- The last prefix decides on the version. -/
theorem family_run (name : String) (steps : List Step) :
    (run { name := name } steps).ip.map IpMatch.family = (lastSet Step.cidr? steps).map Cidr.family := by
  have hrun := run_eq_or (fun x => x.ip.map IpMatch.family) _ family_apply { name := name } steps
  rw [hrun, lastSet_map]
  exact Option.or_none

theorem ip_run_eq_none_iff (name : String) (steps : List Step) :
    (run { name := name } steps).ip = none ↔ ∀ role p, .cidr role p ∉ steps := by
  rw [← Option.map_eq_none_iff, family_run, Option.map_eq_none_iff, lastSet_eq_none_iff]
  constructor
  · intro h role p hstep
    cases h _ hstep
  · intro h s hs
    cases s with
    | cidr role p => exact absurd hs (h role p)
    | _ => rfl

theorem traffic_ip_build_of_some {m : IpMatch} (h : x.ip = some m) : x.build.traffic.ip = some m := by
  rw [build, ipMatch, h]
  rfl

theorem traffic_ip_build_of_none (h : x.ip = none) :
    x.build.traffic.ip = x.etherType.map fun family => { family := family } := by
  rw [build, ipMatch, h]
  rfl

theorem IsUniform.build (h : x.IsUniform) {m : IpMatch} (hm : x.build.traffic.ip = some m) : m.IsUniform := by
  cases hip : x.ip with
  | some ip =>
    rw [traffic_ip_build_of_some hip] at hm
    rw [← Option.some.inj hm]
    exact h ip hip
  | none =>
    rw [traffic_ip_build_of_none hip] at hm
    obtain ⟨family, -, rfl⟩ := Option.map_eq_some_iff.mp hm
    intro role p hp
    cases role <;> cases hp

/-- After any steps a draft matches addresses if some step has set a prefix, and then those of the version
of the last prefix. A prefix stays at its end exactly if it prevails there, so all prefixes are of the
version of their match, in the draft and in the finished entry. Every other field is as the last step about
it has set it. The entry takes the version of addresses from the draft only if no prefix was ever set. -/
theorem last_family_decides (name : String) (steps : List Step) :
    let x := run { name := name } steps
    (x.ip = none ↔ ∀ role p, .cidr role p ∉ steps) ∧
    x.ip.map IpMatch.family = (lastSet Step.cidr? steps).map Cidr.family ∧
    (∀ role p, x.cidrAt role = some p ↔ Prevails role p steps) ∧
    (∀ m, x.ip = some m ∨ x.build.traffic.ip = some m → m.IsUniform) ∧
    x.name = name ∧
    x.protocol = lastSet Step.protocol? steps ∧
    x.etherType = lastSet Step.etherType? steps ∧
    (∀ role, x.ports role = (lastSet (Step.ports? role) steps).getD {}) ∧
    x.action = (lastSet Step.verdict? steps).getD .deny ∧
    ((∃ role p, .cidr role p ∈ steps) → x.build.traffic.ip = x.ip) ∧
    ((∀ role p, .cidr role p ∉ steps) →
      x.build.traffic.ip = (lastSet Step.etherType? steps).map fun family => { family := family }) := by
  intro x
  have hx : x = _ := run_eq { name := name } steps
  have huniform : x.IsUniform := (isUniform_new name).run steps
  have hprotocol : x.protocol = lastSet Step.protocol? steps :=
    (congrArg protocol hx).trans (Option.or_none ..)
  have hetherType : x.etherType = lastSet Step.etherType? steps :=
    (congrArg etherType hx).trans (Option.or_none ..)
  refine ⟨ip_run_eq_none_iff name steps, family_run name steps, cidrAt_run_eq_some_iff name steps, ?_,
    congrArg Draft.name hx, hprotocol, hetherType, ?_, congrArg action hx, ?_, ?_⟩
  · rintro m (hm | hm)
    · exact huniform m hm
    · exact huniform.build hm
  · rintro (_ | _)
    · exact congrArg sourcePorts hx
    · exact congrArg destinationPorts hx
  · rintro ⟨role, p, hset⟩
    cases hip : x.ip with
    | some m => exact traffic_ip_build_of_some hip
    | none => exact absurd hset ((ip_run_eq_none_iff name steps).mp hip role p)
  · intro hnone
    rw [traffic_ip_build_of_none ((ip_run_eq_none_iff name steps).mpr hnone)]
    exact congrArg (Option.map _) hetherType

/-- A prefix of the other version in between leaves nothing of what was set before it, and nothing is left of
it in the end. -/
theorem last_family_decides_alternating :
    let old : Cidr := .host (.v4 ⟨10, 0, 0, 1⟩)
    let foreign : Cidr := .host (.v6 ⟨[0x2001, 0xdb8, 0, 0, 0, 0, 0, 1], rfl⟩)
    let last : Cidr := .host (.v4 ⟨10, 0, 0, 2⟩)
    let steps : List Step := [.cidr .source old, .etherType .ipv6, .cidr .destination foreign, .protocol 6,
      .cidr .source last, .protocol 17]
    let x := run { name := "udp" } steps
    x.ip.map IpMatch.family = some .ipv4 ∧ x.cidrAt .source = some last ∧ x.cidrAt .destination = none ∧
      x.protocol = some 17 ∧ x.build.traffic.ip = x.ip := by
  intro old foreign last steps x
  obtain ⟨-, hfamily, hcidrAt, -, -, hprotocol, -, -, -, hbuild, -⟩ := last_family_decides "udp" steps
  have hprevails : Prevails .source last steps :=
    ⟨steps.take 4, [.protocol 17], rfl, fun other q hq => by cases List.mem_singleton.mp hq⟩
  exact ⟨hfamily, (hcidrAt .source last).mpr hprevails, rfl, hprotocol, hbuild ⟨.source, last, by decide⟩⟩

end Draft

end GroupPolicy

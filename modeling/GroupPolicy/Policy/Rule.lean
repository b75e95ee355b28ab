import GroupPolicy.Ordered.Order
import GroupPolicy.Text.Name

namespace GroupPolicy

/-- The direction of traffic that a classifier speaks about, as the provider of a contract sees
it. -/
inductive Direction where
  | in
  | out
  | bidirectional
  deriving DecidableEq, Repr, Inhabited

namespace Direction

instance : Ranked Direction where
  rank
    | .in => 0
    | .out => 1
    | .bidirectional => 2
  rank_inj {a b} h := by cases a <;> cases b <;> simp_all

/-- The name of a direction. -/
def text : Direction → String
  | .in => "in"
  | .out => "out"
  | .bidirectional => "bidirectional"

/-- The direction a text names, in full or by its short name; letter case is ignored. -/
def ofText (s : String) : Except UnknownName Direction :=
  match s.toLower with
  | "in" => .ok .in
  | "out" => .ok .out
  | "bidirectional" | "bidi" => .ok .bidirectional
  | _ => .error ⟨"direction", s⟩

end Direction

/-- The side of a contract that an endpoint is on. -/
inductive Participation where
  | provider
  | consumer
  deriving DecidableEq, Repr, Inhabited

namespace Participation

instance : Ranked Participation where
  rank
    | .provider => 0
    | .consumer => 1
  rank_inj {a b} h := by cases a <;> cases b <;> simp_all

/-- The other side. -/
def opposite : Participation → Participation
  | .provider => .consumer
  | .consumer => .provider

/-- The name of a side. -/
def text : Participation → String
  | .provider => "provider"
  | .consumer => "consumer"

/-- The side a text names; letter case is ignored. -/
def ofText (s : String) : Except UnknownName Participation :=
  match s.toLower with
  | "provider" => .ok .provider
  | "consumer" => .ok .consumer
  | _ => .error ⟨"participation", s⟩

end Participation

/-- The two ends of a range of numbers. -/
structure NumberRange where
  min : Int64
  max : Int64
  deriving DecidableEq, Repr, Inhabited

/-- The value of a parameter. -/
inductive ParamValue where
  | int (n : Int64)
  | text (s : String)
  | range (r : NumberRange)
  deriving DecidableEq, Repr

/-- The text of a parameter's value. -/
def ParamValue.shown : ParamValue → String
  | .int n => toString n.toInt
  | .text s => s
  | .range r => toString r.min.toInt ++ "-" ++ toString r.max.toInt

/-- A parameter of a classifier, with the values it was given. -/
structure Parameter where
  name : String
  intValue : Option Int64 := none
  textValue : Option String := none
  rangeValue : Option NumberRange := none
  deriving DecidableEq, Repr, Inhabited

/-- The value of a parameter: a number is preferred to a text, and a text to a range. -/
def Parameter.value (p : Parameter) : Option ParamValue :=
  (p.intValue.map .int <|> p.textValue.map .text) <|> p.rangeValue.map .range

/-- A description of some traffic. -/
structure Classifier where
  name : String
  /-- What kind of classifier it is. -/
  definitionId : String
  /-- The direction in which it applies. -/
  direction : Direction
  parameters : List Parameter := []
  deriving DecidableEq, Repr, Inhabited

/-- Whether a classifier applies in a direction. -/
def Classifier.appliesIn (c : Classifier) (d : Direction) : Bool :=
  c.direction == d || c.direction == .bidirectional

/-- What is to be done with some traffic. -/
structure Action where
  name : String
  /-- What kind of action it is. -/
  definitionId : String
  deriving DecidableEq, Repr, Inhabited

namespace Action

/-- The kind of the actions that let traffic through. -/
def allowId : String := "Action-Allow"

/-- The action that lets traffic through. -/
def allow : Action := ⟨"allow", allowId⟩

/-- Whether an action lets traffic through. -/
def isAllow (a : Action) : Bool := a.definitionId == allowId

end Action

/-- A rule: the traffic that all its classifiers describe, and what is to be done with it. -/
structure Rule where
  name : String
  classifiers : List Classifier := []
  actions : List Action := []
  deriving DecidableEq, Repr, Inhabited

/-- Whether a rule lets its traffic through. -/
def Rule.allows (r : Rule) : Bool := r.actions.any Action.isAllow

/-- What a rule group is known by. -/
structure RuleGroupKey where
  contractId : String
  tenantId : String
  subjectName : String
  deriving DecidableEq, Repr, Inhabited

namespace RuleGroupKey

/-- Keys are ordered by their fields in turn. -/
instance : Ord RuleGroupKey :=
  ⟨compareLex (compareOn contractId) (compareLex (compareOn tenantId) (compareOn subjectName))⟩

instance : Std.TransOrd RuleGroupKey :=
  inferInstanceAs (Std.TransCmp
    (compareLex (compareOn contractId) (compareLex (compareOn tenantId) (compareOn subjectName))))

instance : Std.LawfulEqOrd RuleGroupKey where
  compare_self := Std.ReflOrd.compare_self
  eq_of_compare {a b} h := by
    simp only [compare, compareLex_eq_eq] at h
    obtain ⟨hcontract, htenant, hsubject⟩ := h
    cases a
    cases b
    simp only [mk.injEq]
    exact ⟨Std.LawfulEqOrd.eq_of_compare hcontract, Std.LawfulEqOrd.eq_of_compare htenant,
      Std.LawfulEqOrd.eq_of_compare hsubject⟩

/-- The text of a key, with the tenant in front. -/
def text (k : RuleGroupKey) : String :=
  k.tenantId ++ "/" ++ k.contractId ++ "/" ++ k.subjectName

end RuleGroupKey

/-- The rules of one subject of a contract. -/
structure RuleGroup where
  key : RuleGroupKey
  /-- Groups of lower order come first. -/
  order : UInt32
  rules : List Rule := []
  deriving DecidableEq, Repr, Inhabited

/-- The order in which groups take precedence: by their order, and then by their keys. -/
def RuleGroup.precedence : RuleGroup → RuleGroup → Ordering :=
  compareLex (compareOn RuleGroup.order) (compareOn RuleGroup.key)

/-- A rule group as it applies to an endpoint on one side of the contract. -/
structure AppliedPolicy where
  participation : Participation
  group : RuleGroup
  deriving DecidableEq, Repr, Inhabited

/-- The order of the policies between two endpoints: by the precedence of their groups, and then
by the side of the contract. -/
def AppliedPolicy.precedence (a b : AppliedPolicy) : Ordering :=
  (a.group.precedence b.group).then (compare a.participation b.participation)

end GroupPolicy

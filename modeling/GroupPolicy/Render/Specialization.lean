import GroupPolicy.Render.ClassifierKind

namespace GroupPolicy

/-- The parameters with one more; a name that has a value keeps it. -/
def Parameters.addNew (ps : Parameters) (p : Parameter) : Parameters :=
  if ps.contains p.name then ps
  else
    match p.value with
    | some value => ps.insert p.name value
    | none => ps

/-- The parameters of classifiers taken together: of each name the first one with a value. -/
def mergeParameters (cs : List Classifier) : Parameters :=
  (cs.flatMap Classifier.parameters).foldl Parameters.addNew ∅

/-- The kind that a further classifier leads to: the chain is followed one level at a time, and
everything else leaves the kind as it is. -/
def ClassifierKind.advance : Option ClassifierKind → ClassifierKind → Option ClassifierKind
  | none, k => some k
  | some current, k => if k.parent = some current then some k else some current

/-- The kind that the classifiers lead to; those of unknown kinds do not count. -/
def leadingKind? (cs : List Classifier) : Option ClassifierKind :=
  (cs.filterMap fun c => ClassifierKind.ofId? c.definitionId).foldl ClassifierKind.advance none

/-- A kind of classifier with the parameters to go by. -/
structure Specialization where
  kind : ClassifierKind
  parameters : Parameters
  deriving DecidableEq

namespace Specialization

/-- What classifiers amount to in a direction; nothing if none of them has a value, or none is of a
known kind. -/
def ofClassifiers? (cs : List Classifier) (d : Direction) : Option Specialization :=
  let applicable := cs.filter fun c => c.appliesIn d
  let parameters := mergeParameters applicable
  if parameters.isEmpty then none
  else (leadingKind? applicable).map fun kind => { kind, parameters }

/-- Puts the parameters into a draft. -/
def constrain (s : Specialization) (d : Draft) : Except ClassifierError Draft :=
  s.kind.constrain s.parameters d

end Specialization

end GroupPolicy

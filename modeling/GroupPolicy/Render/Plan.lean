import GroupPolicy.Render.Device
import GroupPolicy.Render.Entries
import GroupPolicy.Render.Settings

namespace GroupPolicy

/-- What has changed: some endpoints and some rule groups. -/
structure Change where
  endpoints : SortedSet EndpointKey := ∅
  ruleGroups : SortedSet RuleGroupKey := ∅
  deriving DecidableEq, Inhabited

namespace Change

/-- The endpoints that a change concerns: those that have changed, and those that a changed rule
group has been applied to. -/
def affected (ch : Change) (c : Context) : SortedSet EndpointKey :=
  (SortedSet.ofMembers (ch.ruleGroups.members.flatMap c.membersOf)).addAll ch.endpoints.members

/-- Whether a change concerns the policies of a rule group that apply to an endpoint. -/
def concerns (ch : Change) (c : Context) (owner : EndpointKey) (g : RuleGroupKey) : Bool :=
  (ch.ruleGroups.mem g && (c.membersOf g).contains owner) ||
    (ch.endpoints.mem owner && (c.ruleGroupsOf owner).mem g)

end Change

/-- The entries to write to lists, or to take out of them. -/
abbrev Plan : Type := SortedMap AclTarget (List AclEntry)

namespace Plan

/-- The plan with further entries of a list. -/
def extend (p : Plan) (target : AclTarget) (es : List AclEntry) : Plan :=
  p.insert target (p.getD target [] ++ es)

/-- The plan that pieces of lists add up to. -/
def ofPieces (pieces : List (AclTarget × List AclEntry)) : Plan :=
  pieces.foldl (fun p piece => p.extend piece.1 piece.2) ∅

end Plan

/-- The pieces of lists that a change makes for one endpoint: in each direction its entries that
the change concerns, for each of its interfaces that is not left alone. -/
def Change.piecesOf (ch : Change) (c : Context) (g : Grouping) (settings : Settings)
    (k : EndpointKey) : Logged (List (AclTarget × List AclEntry)) :=
  match c.endpoint? k with
  | none => ⟨[], []⟩
  | some owner =>
    match g.interfacesOf k with
    | [] => ⟨[], []⟩
    | interfaces =>
      .gather (fun d =>
        let es := c.selectedEntries (fun policy => ch.concerns c k policy.group.key) owner d
        { es with
          value := (interfaces.filter fun l => !settings.excludes l).map fun l =>
            (AclTarget.ofLocation l d, es.value) }) AclDirection.all

/-- The plan for a change. -/
def Change.plan (ch : Change) (c : Context) (g : Grouping) (settings : Settings) : Logged Plan :=
  let pieces := Logged.gather (ch.piecesOf c g settings) (ch.affected c).members
  { pieces with value := .ofPieces pieces.value }

end GroupPolicy
